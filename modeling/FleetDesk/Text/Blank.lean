import FleetDesk.Text.Ranges

/-!
# Blank characters

`isBlank` is the White_Space property of a character. `trim` drops blanks at both ends, and a text
is blank exactly when nothing is left of it (`isBlankText_iff_trim`).
-/

namespace FleetDesk.Text

def blankRanges : List (Nat × Nat) :=
  [(0x9, 0xD), (0x20, 0x20), (0x85, 0x85), (0xA0, 0xA0), (0x1680, 0x1680), (0x2000, 0x200A),
    (0x2028, 0x2029), (0x202F, 0x202F), (0x205F, 0x205F), (0x3000, 0x3000)]

def isBlank (c : Char) : Bool := inRanges c.toNat blankRanges

def trimStartChars (cs : List Char) : List Char := cs.dropWhile isBlank

def trimEndChars (cs : List Char) : List Char := (cs.reverse.dropWhile isBlank).reverse

def trimChars (cs : List Char) : List Char := trimEndChars (trimStartChars cs)

def trim (s : String) : String := String.ofList (trimChars s.toList)

/-- Empty, or made of blanks only. -/
def isBlankText (s : String) : Bool := s.toList.all isBlank

theorem toNat_of_isBlank {c : Char} (h : isBlank c) :
    (0x9 ≤ c.toNat ∧ c.toNat ≤ 0xD) ∨ c.toNat = 0x20 ∨ c.toNat = 0x85 ∨ c.toNat = 0xA0 ∨
      c.toNat = 0x1680 ∨ (0x2000 ≤ c.toNat ∧ c.toNat ≤ 0x200A) ∨
      (0x2028 ≤ c.toNat ∧ c.toNat ≤ 0x2029) ∨ c.toNat = 0x202F ∨ c.toNat = 0x205F ∨
      c.toNat = 0x3000 := by
  obtain ⟨r, hr, h1, h2⟩ := exists_range_of_inRanges h
  simp only [blankRanges, List.mem_cons, List.not_mem_nil, or_false] at hr
  rcases hr with rfl | rfl | rfl | rfl | rfl | rfl | rfl | rfl | rfl | rfl <;>
    simp only at h1 h2 <;> omega

theorem trimStartChars_eq_nil {cs : List Char} : trimStartChars cs = [] ↔ ∀ c ∈ cs, isBlank c := by
  induction cs with
  | nil => simp [trimStartChars]
  | cons c cs ih =>
    rw [trimStartChars, List.forall_mem_cons]
    by_cases h : isBlank c
    · rw [List.dropWhile_cons_of_pos h, and_iff_right h]
      exact ih
    · rw [List.dropWhile_cons_of_neg h]
      exact iff_of_false (List.cons_ne_nil _ _) fun hall => h hall.1

theorem trimEndChars_eq_nil {cs : List Char} : trimEndChars cs = [] ↔ ∀ c ∈ cs, isBlank c := by
  rw [trimEndChars, List.reverse_eq_nil_iff, ← trimStartChars, trimStartChars_eq_nil]
  simp

theorem trimChars_eq_nil {cs : List Char} : trimChars cs = [] ↔ ∀ c ∈ cs, isBlank c := by
  induction cs with
  | nil => simp [trimChars, trimStartChars, trimEndChars]
  | cons c cs ih =>
    by_cases h : isBlank c
    · simpa [trimChars, trimStartChars, h] using ih
    · simp [trimChars, trimStartChars, trimEndChars_eq_nil, h]

theorem isBlankText_iff_trim {s : String} : isBlankText s ↔ trim s = "" := by
  rw [isBlankText, List.all_eq_true, ← trimChars_eq_nil, trim, ← String.toList_inj]
  simp

theorem dropWhile_blank_eq_self {cs : List Char} (h : ∀ c ∈ cs, ¬ isBlank c) :
    cs.dropWhile isBlank = cs := by
  cases cs with
  | nil => rfl
  | cons c cs => exact List.dropWhile_cons_of_neg (h c List.mem_cons_self)

theorem trim_eq_self {s : String} (h : ∀ c ∈ s.toList, ¬ isBlank c) : trim s = s := by
  have hreverse : ∀ c ∈ s.toList.reverse, ¬ isBlank c := fun c hc => h c (List.mem_reverse.1 hc)
  rw [trim, trimChars, trimStartChars, trimEndChars, dropWhile_blank_eq_self h,
    dropWhile_blank_eq_self hreverse, List.reverse_reverse, String.ofList_toList]

end FleetDesk.Text
