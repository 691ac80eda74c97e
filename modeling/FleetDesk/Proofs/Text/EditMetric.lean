import FleetDesk.Proofs.Text.EditDistance
import Mathlib.Order.Bounds.Basic

/-!
# Edit distance as a distance

The rows behind `editDistance` are as long as the second text and one, and hold the distance to each
of its front parts (`row_cells`). So a computation that takes the cells by their places, and gives up
where there is none, never gives up and comes to the same number (`placedDistance?_eq_some`). That
number is least among the edits from one text to the other; since edits can be taken back and put
one after another, it is a distance in the sense of geometry (`editDistance_metric`).
-/

namespace FleetDesk.Text

/-! ### Edits taken back -/

theorem Edit.symm {as bs : List Char} (h : Edit as bs) : Edit bs as := by
  cases h with
  | insert before behind c => exact .delete before behind c
  | delete before behind c => exact .insert before behind c
  | replace before behind c d => exact .replace before behind d c

namespace Edits

variable {n : Nat} {as bs : List Char}

theorem symm (h : Edits n as bs) : Edits n bs as := by
  induction h with
  | done => exact .done _
  | more he _ ih => exact ih.trans (.single he.symm)

theorem zero_iff : Edits 0 as bs ↔ as = bs := by
  constructor
  · rintro ⟨⟩
    rfl
  · rintro rfl
    exact .done as

end Edits

section

variable (as bs cs : List Char)

theorem editDistance_comm : editDistance as bs = editDistance bs as := by
  have hle : ∀ xs ys : List Char, editDistance xs ys ≤ editDistance ys xs := fun xs ys =>
    (isLeast_editDistance xs ys).2 (isLeast_editDistance ys xs).1.symm
  exact Nat.le_antisymm (hle as bs) (hle bs as)

theorem editDistance_eq_zero : editDistance as bs = 0 ↔ as = bs := by
  have hleast := isLeast_editDistance as bs
  rw [← Edits.zero_iff]
  constructor
  · intro h
    exact h ▸ hleast.1
  · intro h
    exact Nat.le_zero.1 (hleast.2 h)

theorem editDistance_triangle :
    editDistance as cs ≤ editDistance as bs + editDistance bs cs :=
  (isLeast_editDistance as cs).2
    ((isLeast_editDistance as bs).1.trans (isLeast_editDistance bs cs).1)

end

/-! ### The cells of a row -/

theorem length_distances (cs front ds : List Char) :
    (distances cs front ds).length = ds.length + 1 := by
  induction ds generalizing front with
  | nil => rfl
  | cons d ds ih => rw [distances, List.length_cons, ih, List.length_cons]

theorem getElem?_distances (cs front : List Char) {ds : List Char} {j : Nat} (h : j ≤ ds.length) :
    (distances cs front ds)[j]? = some (distance cs ((ds.take j).reverse ++ front)) := by
  induction ds generalizing front j with
  | nil =>
    obtain rfl : j = 0 := Nat.le_zero.1 h
    rfl
  | cons d ds ih =>
    cases j with
    | zero => rfl
    | succ j =>
      rw [distances, List.getElem?_cons_succ, ih (d :: front) (Nat.le_of_succ_le_succ h),
        List.take_succ_cons, List.reverse_cons, List.append_assoc, List.singleton_append]

/-- A row goes on with the distance to the next front part. -/
theorem distances_concat (cs front ds : List Char) (d : Char) :
    distances cs front (ds ++ [d]) =
      distances cs front ds ++ [distance cs (d :: (ds.reverse ++ front))] := by
  induction ds generalizing front with
  | nil => rfl
  | cons e ds ih =>
    rw [List.cons_append, distances, ih, distances, List.cons_append, List.reverse_cons,
      List.append_assoc, List.singleton_append]

/-- What the row holds after some characters of the first text were read. -/
structure RowOf (cs ds : List Char) (row : List Nat) : Prop where
  length : row.length = ds.length + 1
  cell : ∀ j ≤ ds.length, ∃ n, row[j]? = some n ∧ IsLeast {n | Edits n cs (ds.take j)} n

theorem row_cells (cs ds : List Char) : RowOf cs ds (cs.foldl (editRow ds) (editStart ds)) := by
  rw [editStart_eq, foldl_editRow, List.append_nil]
  refine ⟨length_distances _ _ _, fun j hj => ⟨_, getElem?_distances _ _ hj, ?_⟩⟩
  rw [List.append_nil, ← editDistance_eq]
  exact isLeast_editDistance cs (ds.take j)

/-! ### Cells by their places -/

/-- Adds the cell for a character of the second text, at its place, to the next row. -/
def placedCell? (row : List Nat) (c : Char) (done : List Nat) : Char × Nat → Option (List Nat)
  | (d, j) => do
    let above ← row[j + 1]?
    let left ← done[j]?
    let diagonal ← row[j]?
    some (done ++ [min (min (above + 1) (left + 1)) (diagonal + replaceCost c d)])

/-- The row after a character of the first text at its place. -/
def placedRow? (ds : List Char) (row : List Nat) : Char × Nat → Option (List Nat)
  | (c, i) => ds.zipIdx.foldlM (placedCell? row c) [i + 1]

def placedDistance? (cs ds : List Char) : Option Nat := do
  let row ← cs.zipIdx.foldlM (placedRow? ds) (editStart ds)
  row[ds.length]?

theorem placedCell?_distances (c d : Char) (cs front ds : List Char) :
    placedCell? (distances cs [] (front ++ d :: ds)) c (distances (c :: cs) [] front)
      (d, front.length) = some (distances (c :: cs) [] (front ++ [d])) := by
  have hplace : front.length + 1 ≤ (front ++ d :: ds).length := by simp
  have habove := getElem?_distances cs [] hplace
  have hleft := getElem?_distances (c :: cs) [] (Nat.le_refl front.length)
  have hdiagonal := getElem?_distances cs [] (Nat.le_of_succ_le hplace)
  have htake : (front ++ d :: ds).take (front.length + 1) = front ++ [d] := by
    rw [List.take_length_add_append, List.take_succ_cons, List.take_zero]
  rw [htake, List.reverse_concat, List.append_nil] at habove
  rw [List.take_length, List.append_nil] at hleft
  rw [List.take_left, List.append_nil] at hdiagonal
  rw [placedCell?, habove, hleft, hdiagonal, distances_concat, List.append_nil,
    distance_cons_cons]
  rfl

/-- The next row is filled for the front part that was passed. -/
theorem foldlM_placedCell? (c : Char) (cs front rest : List Char) :
    (rest.zipIdx front.length).foldlM (placedCell? (distances cs [] (front ++ rest)) c)
      (distances (c :: cs) [] front) = some (distances (c :: cs) [] (front ++ rest)) := by
  induction rest generalizing front with
  | nil =>
    rw [List.append_nil]
    rfl
  | cons d rest ih =>
    have hrest := ih (front ++ [d])
    rw [List.length_append, List.length_singleton, List.append_assoc, List.singleton_append]
      at hrest
    rw [List.zipIdx_cons, List.foldlM_cons, placedCell?_distances]
    exact hrest

theorem placedRow?_distances (c : Char) (cs ds : List Char) :
    placedRow? ds (distances cs [] ds) (c, cs.length) = some (distances (c :: cs) [] ds) := by
  have hstart : distances (c :: cs) [] [] = [cs.length + 1] := by
    rw [distances, distance_nil_right, List.length_cons]
  rw [placedRow?, ← hstart]
  exact foldlM_placedCell? c cs [] ds

theorem foldlM_placedRow? (ds front rest : List Char) :
    (rest.zipIdx front.length).foldlM (placedRow? ds) (distances front [] ds) =
      some (distances (rest.reverse ++ front) [] ds) := by
  induction rest generalizing front with
  | nil => rfl
  | cons c rest ih =>
    rw [List.zipIdx_cons, List.foldlM_cons, placedRow?_distances, List.reverse_cons,
      List.append_assoc, List.singleton_append]
    exact ih (c :: front)

theorem placedDistance?_eq_some (cs ds : List Char) :
    placedDistance? cs ds = some (editDistance cs ds) := by
  have hrows := foldlM_placedRow? ds [] cs
  have hlast := getElem?_distances cs.reverse [] (Nat.le_refl ds.length)
  rw [List.length_nil, List.append_nil] at hrows
  rw [List.take_length, List.append_nil, ← editDistance_eq] at hlast
  rw [placedDistance?, editStart_eq, hrows]
  exact hlast

/-- The number computed is the least number of edits, and a distance; the rows on the way to it hold
the least numbers for the front parts, and no cell is looked for where there is none. -/
theorem editDistance_metric (a b : String) :
    IsLeast {n | Edits n a.toList b.toList} (editDistance a.toList b.toList) ∧
    (∀ i, RowOf (a.toList.take i) b.toList
      ((a.toList.take i).foldl (editRow b.toList) (editStart b.toList))) ∧
    placedDistance? a.toList b.toList = some (editDistance a.toList b.toList) ∧
    editDistance a.toList b.toList = editDistance b.toList a.toList ∧
    (editDistance a.toList b.toList = 0 ↔ a = b) ∧
    ∀ c : String, editDistance a.toList c.toList ≤
      editDistance a.toList b.toList + editDistance b.toList c.toList := by
  have hzero := editDistance_eq_zero a.toList b.toList
  rw [String.toList_inj] at hzero
  exact ⟨isLeast_editDistance _ _, fun i => row_cells _ _, placedDistance?_eq_some _ _,
    editDistance_comm _ _, hzero, fun c => editDistance_triangle _ _ _⟩

end FleetDesk.Text
