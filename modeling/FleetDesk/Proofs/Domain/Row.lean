import FleetDesk.Domain.Row

/-!
# Looking into a table

A property of a whole table is computed from the characters of its lines (`holds_ofLines`). Rows
whose runs do not overlap are put into a tree, where a row is found by halving (`Tree.find?_eq`).
-/

namespace FleetDesk.Domain

namespace Row

/-- The characters of the lines of a table. -/
inductive Lines : List String → List (List Char) → Prop
  | nil : Lines [] []
  | cons {line : String} {cs : List Char} {lines : List String} {css : List (List Char)}
    (h : line = String.ofList cs) (hrest : Lines lines css) : Lines (line :: lines) (cs :: css)

def ofLineChars (css : List (List Char)) : List Row :=
  css.flatMap fun cs => (Text.splitChars (· = ' ') cs).map ofChars

theorem Lines.ofLines_eq {lines : List String} {css : List (List Char)} (h : Lines lines css) :
    ofLines lines = ofLineChars css := by
  induction h with
  | nil => rfl
  | cons h _ ih =>
    rw [ofLines, ofLineChars, List.flatMap_cons, List.flatMap_cons, h, String.toList_ofList]
    exact congrArg _ ih

theorem holds_ofLines {p : List Row → Prop} {lines : List String}
    (h : ∃ css, Lines lines css ∧ p (ofLineChars css)) : p (ofLines lines) := by
  obtain ⟨css, hlines, hp⟩ := h
  exact hlines.ofLines_eq ▸ hp

/-! ### Runs -/

section

variable (length : Row → Nat)

/-- A code point in the run of a row. -/
def covers (n : Nat) (r : Row) : Bool := r.first ≤ n && n < r.first + length r

/-- The run of one row ends before the run of the other starts. -/
def Precedes (a b : Row) : Prop := a.first + length a ≤ b.first

/-- Each run ends before the next starts. -/
def inOrder : List Row → Bool
  | a :: b :: rows => a.first + length a ≤ b.first && inOrder (b :: rows)
  | _ => true

theorem pairwise_of_inOrder {rows : List Row} (h : inOrder length rows) :
    rows.Pairwise (Precedes length) := by
  have hhead : ∀ {a b : Row} {rows : List Row}, Precedes length a b →
      (b :: rows).Pairwise (Precedes length) → ∀ c ∈ b :: rows, Precedes length a c := by
    intro a b rows hab hrows c hc
    rcases List.mem_cons.1 hc with rfl | hc
    · exact hab
    · have hbc : b.first + length b ≤ c.first := (List.pairwise_cons.1 hrows).1 c hc
      exact Nat.le_trans hab (Nat.le_trans (Nat.le_add_right _ _) hbc)
  fun_induction inOrder length rows with
  | case1 a b rows ih =>
    rw [Bool.and_eq_true, decide_eq_true_eq] at h
    have hrows := ih h.2
    exact List.pairwise_cons.2 ⟨hhead h.1 hrows, hrows⟩
  | case2 rows hfew =>
    cases rows with
    | nil => exact .nil
    | cons a rows =>
      cases rows with
      | nil => exact List.pairwise_singleton _ a
      | cons b rows => exact absurd rfl (hfew a b rows)

end

end Row

/-- Rows in a binary tree. -/
inductive Tree where
  | leaf
  | node (left : Tree) (row : Row) (right : Tree)

namespace Tree

def rows : Tree → List Row
  | leaf => []
  | node l r t => l.rows ++ r :: t.rows

/-- A tree of the given height, as far as the rows go, and those that are left over. -/
def build : Nat → List Row → Tree × List Row
  | 0, rows => (leaf, rows)
  | height + 1, rows =>
    match build height rows with
    | (l, []) => (l, [])
    | (l, r :: rest) => (node l r (build height rest).1, (build height rest).2)

def find? (length : Row → Nat) (n : Nat) : Tree → Option Row
  | leaf => none
  | node l r t =>
    if n < r.first then l.find? length n
    else if n < r.first + length r then some r
    else t.find? length n

theorem rows_build (height : Nat) (rs : List Row) :
    (build height rs).1.rows ++ (build height rs).2 = rs := by
  induction height generalizing rs with
  | zero => rfl
  | succ height ih =>
    have hleft := ih rs
    rw [build]
    split
    · next l heq => rwa [heq] at hleft
    · next l r rest heq =>
      have hright := ih rest
      rw [heq] at hleft
      rw [rows, List.append_assoc, List.cons_append, hright]
      exact hleft

theorem find?_eq {length : Row → Nat} {t : Tree} (h : t.rows.Pairwise (Row.Precedes length))
    (n : Nat) : t.find? length n = t.rows.find? (Row.covers length n) := by
  induction t with
  | leaf => rfl
  | node l r t ihl iht =>
    obtain ⟨hl, hrt, hbefore⟩ := List.pairwise_append.1 h
    obtain ⟨hr, ht⟩ := List.pairwise_cons.1 hrt
    have hleft (hle : r.first ≤ n) : l.rows.find? (Row.covers length n) = none := by
      refine List.find?_eq_none.2 fun a ha hcovers => ?_
      have hends := hbefore a ha r List.mem_cons_self
      simp only [Row.Precedes, Row.covers, Bool.and_eq_true, decide_eq_true_eq] at hends hcovers
      omega
    have hright (hlt : n < r.first) : t.rows.find? (Row.covers length n) = none := by
      refine List.find?_eq_none.2 fun b hb hcovers => ?_
      have hstarts := hr b hb
      simp only [Row.Precedes, Row.covers, Bool.and_eq_true, decide_eq_true_eq] at hstarts hcovers
      omega
    rw [find?, rows, List.find?_append, List.find?_cons]
    by_cases hlt : n < r.first
    · have hrow : Row.covers length n r = false := by simp [Row.covers]; omega
      rw [if_pos hlt, ihl hl, hrow, hright hlt, Option.or_none]
    · rw [if_neg hlt, hleft (Nat.not_lt.1 hlt), Option.none_or]
      by_cases hend : n < r.first + length r
      · have hrow : Row.covers length n r = true := by simp [Row.covers]; omega
        rw [if_pos hend, hrow]
      · have hrow : Row.covers length n r = false := by simp [Row.covers]; omega
        rw [if_neg hend, hrow, iht ht]

end Tree

end FleetDesk.Domain
