/-!
# Splitting a text

The parts lie between the characters where a test holds. A cut is made once, at the first of a
character (`cutAt_eq_some_iff`).
-/

namespace FleetDesk.Text

def splitChars (p : Char → Bool) : List Char → List (List Char)
  | [] => [[]]
  | c :: cs =>
    if p c then [] :: splitChars p cs
    else match splitChars p cs with
      | [] => [[c]]
      | part :: parts => (c :: part) :: parts

/-- The text before the first character `c`, and behind it if it is there. -/
def cutAt (c : Char) (cs : List Char) : List Char × Option (List Char) :=
  match cs.dropWhile (· != c) with
  | [] => (cs, none)
  | _ :: rest => (cs.takeWhile (· != c), some rest)

theorem splitChars_ne_nil (p : Char → Bool) (cs : List Char) : splitChars p cs ≠ [] := by
  cases cs with
  | nil => simp [splitChars]
  | cons c cs =>
    simp only [splitChars]
    split
    · simp
    · split <;> simp

theorem splitChars_append_cons {p : Char → Bool} {c : Char} (hc : p c) (xs ys : List Char) :
    splitChars p (xs ++ c :: ys) = splitChars p xs ++ splitChars p ys := by
  induction xs with
  | nil => simp [splitChars, hc]
  | cons x xs ih =>
    rw [List.cons_append, splitChars, splitChars, ih]
    have hne := splitChars_ne_nil p xs
    by_cases hx : p x
    · simp [hx]
    · cases hsplit : splitChars p xs with
      | nil => exact absurd hsplit hne
      | cons part parts => simp [hx]

theorem splitChars_of_forall_not {p : Char → Bool} {cs : List Char} (h : ∀ c ∈ cs, p c = false) :
    splitChars p cs = [cs] := by
  induction cs with
  | nil => rfl
  | cons c cs ih =>
    obtain ⟨hc, hcs⟩ := List.forall_mem_cons.1 h
    rw [splitChars, hc, ih hcs]
    rfl

theorem splitChars_cons_of_neg {p : Char → Bool} {c : Char} (hc : ¬ p c) (cs : List Char) :
    splitChars p (c :: cs) = (splitChars p cs).modifyHead (c :: ·) := by
  obtain ⟨part, parts, hsplit⟩ := List.exists_cons_of_ne_nil (splitChars_ne_nil p cs)
  rw [splitChars, if_neg hc, hsplit]
  rfl

theorem of_mem_splitChars {p : Char → Bool} {cs part : List Char} (h : part ∈ splitChars p cs)
    {c : Char} (hc : c ∈ part) : p c = false ∧ c ∈ cs := by
  induction cs generalizing part with
  | nil =>
    rw [splitChars, List.mem_singleton] at h
    exact absurd (h ▸ hc) List.not_mem_nil
  | cons d cs ih =>
    by_cases hd : p d
    · rw [splitChars, if_pos hd] at h
      rcases List.mem_cons.1 h with rfl | h
      · exact absurd hc List.not_mem_nil
      · exact (ih h hc).imp id (List.mem_cons_of_mem d)
    · obtain ⟨first, parts, hcs⟩ := List.exists_cons_of_ne_nil (splitChars_ne_nil p cs)
      rw [splitChars_cons_of_neg hd, hcs, List.modifyHead_cons] at h
      rcases List.mem_cons.1 h with rfl | h
      · rcases List.mem_cons.1 hc with rfl | hc
        · exact ⟨by simpa using hd, List.mem_cons_self⟩
        · exact (ih (hcs ▸ List.mem_cons_self) hc).imp id (List.mem_cons_of_mem d)
      · exact (ih (hcs ▸ List.mem_cons_of_mem first h) hc).imp id (List.mem_cons_of_mem d)

/-- Parts are read back when the same character is put in front of each but the first. -/
theorem splitChars_append_flatMap {p : Char → Bool} {c : Char} (hc : p c) {first : List Char}
    {parts : List (List Char)} (hfirst : ∀ d ∈ first, p d = false)
    (h : ∀ part ∈ parts, ∀ d ∈ part, p d = false) :
    splitChars p (first ++ parts.flatMap (c :: ·)) = first :: parts := by
  induction parts generalizing first with
  | nil => simpa using splitChars_of_forall_not hfirst
  | cons part parts ih =>
    obtain ⟨hpart, hparts⟩ := List.forall_mem_cons.1 h
    rw [List.flatMap_cons, List.cons_append, splitChars_append_cons hc,
      splitChars_of_forall_not hfirst, ih hpart hparts]
    rfl

theorem intercalate_cons (c : Char) (first : List Char) (parts : List (List Char)) :
    [c].intercalate (first :: parts) = first ++ parts.flatMap (c :: ·) := by
  induction parts generalizing first with
  | nil => simp
  | cons part parts ih => simp [List.intercalate_cons_cons, ih]

theorem mem_intercalate {c d : Char} {parts : List (List Char)} (h : d ∈ [c].intercalate parts) :
    d = c ∨ ∃ part ∈ parts, d ∈ part := by
  cases parts with
  | nil => cases h
  | cons first parts =>
    rw [intercalate_cons, List.mem_append, List.mem_flatMap] at h
    rcases h with h | ⟨part, hpart, h⟩
    · exact .inr ⟨first, List.mem_cons_self, h⟩
    · exact (List.mem_cons.1 h).imp_right fun h => ⟨part, List.mem_cons_of_mem first hpart, h⟩

theorem splitChars_intercalate {p : Char → Bool} {c : Char} (hc : p c) {parts : List (List Char)}
    (hne : parts ≠ []) (h : ∀ part ∈ parts, ∀ d ∈ part, p d = false) :
    splitChars p ([c].intercalate parts) = parts := by
  obtain ⟨first, parts, rfl⟩ := List.exists_cons_of_ne_nil hne
  obtain ⟨hfirst, hparts⟩ := List.forall_mem_cons.1 h
  rw [intercalate_cons, splitChars_append_flatMap hc hfirst hparts]

/-- The parts between all places of one character make up the text. -/
theorem intercalate_splitChars (c : Char) (cs : List Char) :
    [c].intercalate (splitChars (· = c) cs) = cs := by
  induction cs with
  | nil => simp [splitChars]
  | cons d cs ih =>
    obtain ⟨first, parts, hcs⟩ := List.exists_cons_of_ne_nil (splitChars_ne_nil (· = c) cs)
    rw [hcs] at ih
    by_cases hd : d = c
    · rw [splitChars, if_pos (decide_eq_true hd), hcs, List.intercalate_cons_cons, ih, hd]
      rfl
    · rw [splitChars_cons_of_neg (by simpa using hd), hcs, List.modifyHead_cons, intercalate_cons,
        List.cons_append, ← intercalate_cons, ih]

/-! ### Cuts -/

variable {c : Char} {cs before behind : List Char}

theorem cutAt_of_notMem (h : c ∉ cs) : cutAt c cs = (cs, none) := by
  have hdrop : cs.dropWhile (· != c) = [] := by
    induction cs with
    | nil => rfl
    | cons d cs ih =>
      rw [List.mem_cons, not_or] at h
      rw [List.dropWhile_cons_of_pos (by simpa using Ne.symm h.1), ih h.2]
  rw [cutAt, hdrop]

theorem cutAt_append_cons (h : c ∉ before) :
    cutAt c (before ++ c :: behind) = (before, some behind) := by
  have hne : ∀ x ∈ before, (x != c) = true := fun x hx => bne_iff_ne.2 fun hxc => h (hxc ▸ hx)
  rw [cutAt, List.dropWhile_append_of_pos hne, List.takeWhile_append_of_pos hne]
  simp

theorem cutAt_append_of_notMem (h : c ∉ before) : cutAt c (before ++ cs) =
    (before ++ (cutAt c cs).1, (cutAt c cs).2) := by
  have hne : ∀ x ∈ before, (x != c) = true := fun x hx => bne_iff_ne.2 fun hxc => h (hxc ▸ hx)
  rw [cutAt, cutAt, List.dropWhile_append_of_pos hne, List.takeWhile_append_of_pos hne]
  cases cs.dropWhile (· != c) <;> rfl

theorem cutAt_eq_some_iff :
    cutAt c cs = (before, some behind) ↔ c ∉ before ∧ cs = before ++ c :: behind := by
  refine ⟨fun h => ?_, fun ⟨hc, hcs⟩ => hcs ▸ cutAt_append_cons hc⟩
  by_cases hmem : c ∈ cs
  · obtain ⟨front, rest, rfl, hfront⟩ := List.eq_append_cons_of_mem hmem
    rw [cutAt_append_cons hfront] at h
    cases h
    exact ⟨hfront, rfl⟩
  · rw [cutAt_of_notMem hmem] at h
    cases h

end FleetDesk.Text
