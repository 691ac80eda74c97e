import FleetDesk.Text.Redaction

/-!
# Characters of names, values and digests

A hexadecimal digit is a name character, and a name character is not blank. No secret word starts
with a hexadecimal digit, so digits in front of a name do not change whether it speaks of a secret
(`isSecretName_append_hex`). The marker holds neither blanks nor equals signs, and ends with a
character that belongs to no name.
-/

namespace FleetDesk.Text

theorem isUpper_iff {c : Char} : c.isUpper ↔ 65 ≤ c.toNat ∧ c.toNat ≤ 90 := by
  show decide (c.val ≥ 'A'.val ∧ c.val ≤ 'Z'.val) = true ↔ _
  simp [UInt32.le_iff_toNat_le]

theorem isLower_iff {c : Char} : c.isLower ↔ 97 ≤ c.toNat ∧ c.toNat ≤ 122 := by
  show (decide (c.val ≥ 'a'.val) && decide (c.val ≤ 'z'.val)) = true ↔ _
  simp [UInt32.le_iff_toNat_le]

theorem isDigit_iff {c : Char} : c.isDigit ↔ 48 ≤ c.toNat ∧ c.toNat ≤ 57 := by
  show (decide (c.val ≥ '0'.val) && decide (c.val ≤ '9'.val)) = true ↔ _
  simp [UInt32.le_iff_toNat_le]

theorem isHexDigit_iff {c : Char} : isHexDigit c ↔
    (48 ≤ c.toNat ∧ c.toNat ≤ 57) ∨ (97 ≤ c.toNat ∧ c.toNat ≤ 102) ∨
      (65 ≤ c.toNat ∧ c.toNat ≤ 70) := by
  simp [isHexDigit, isDigit_iff, Char.le_def, UInt32.le_iff_toNat_le, or_assoc]

theorem isNameChar_iff {c : Char} : isNameChar c ↔
    (65 ≤ c.toNat ∧ c.toNat ≤ 90) ∨ (97 ≤ c.toNat ∧ c.toNat ≤ 122) ∨
      (48 ≤ c.toNat ∧ c.toNat ≤ 57) ∨ c.toNat = 0x5F ∨ c.toNat = 0x17F ∨ c.toNat = 0x212A := by
  show (c.isUpper || c.isLower || c.isDigit || decide (c = '_') || decide (c = '\u017F') ||
    decide (c = '\u212A')) = true ↔ _
  simp only [Bool.or_eq_true, isUpper_iff, isLower_iff, isDigit_iff, decide_eq_true_eq, or_assoc,
    ← Char.toNat_inj]
  rfl

theorem isNameChar_of_isHexDigit {c : Char} (h : isHexDigit c) : isNameChar c := by
  rw [isHexDigit_iff] at h
  rw [isNameChar_iff]
  omega

theorem not_isHexDigit_of_not_isNameChar {c : Char} (h : ¬ isNameChar c) : ¬ isHexDigit c :=
  fun hx => h (isNameChar_of_isHexDigit hx)

theorem not_isBlank_of_isNameChar {c : Char} (h : isNameChar c) : ¬ isBlank c := by
  rw [isNameChar_iff] at h
  intro hb
  have hcode := toNat_of_isBlank hb
  omega

theorem not_isNameChar_of_isBlank {c : Char} (h : isBlank c) : ¬ isNameChar c :=
  fun hn => not_isBlank_of_isNameChar hn h

theorem not_isNameChar_equals : ¬ isNameChar '=' := by decide

theorem equals_notMem_name {name : List Char} (h : ∀ c ∈ name, isNameChar c) : '=' ∉ name :=
  fun hm => not_isNameChar_equals (h '=' hm)

theorem not_isBlank_equals : ¬ isBlank '=' := by decide

theorem not_isHexDigit_equals : ¬ isHexDigit '=' := by decide

theorem not_isHexDigit_of_isBlank {c : Char} (h : isBlank c) : ¬ isHexDigit c :=
  not_isHexDigit_of_not_isNameChar (not_isNameChar_of_isBlank h)

/-! ### The marker -/

theorem marker_eq : marker = "[REDACTED".toList ++ [']'] := by decide

theorem equals_notMem_marker : '=' ∉ marker := by decide

theorem not_isBlank_of_mem_marker {c : Char} (h : c ∈ marker) : ¬ isBlank c := by
  have hall : marker.all (!isBlank ·) := by decide
  simpa using List.all_eq_true.1 hall c h

theorem getLast?_marker : marker.getLast? = some ']' := by decide

theorem not_isNameChar_bracket : ¬ isNameChar ']' := by decide

/-! ### Secret names -/

theorem isSecretName_iff {name : List Char} :
    isSecretName name ↔ ∃ word ∈ secretWords, word <:+: name.map foldName := by
  simp [isSecretName, occursIn_iff]

theorem isSecretName_nil : isSecretName [] = false := by decide

/-- A name that holds a secret name is one. -/
theorem isSecretName_of_infix {name longer : List Char} (h : isSecretName name)
    (hin : name <:+: longer) : isSecretName longer := by
  obtain ⟨word, hw, ho⟩ := isSecretName_iff.1 h
  exact isSecretName_iff.2 ⟨word, hw, ho.trans (hin.map foldName)⟩

theorem toNat_toLower (c : Char) :
    c.toLower.toNat = if 65 ≤ c.toNat ∧ c.toNat ≤ 90 then c.toNat + 32 else c.toNat := by
  by_cases h : c.val ≥ 'A'.val ∧ c.val ≤ 'Z'.val
  · have hval : c.toLower.val = c.val + 32 := congrArg Char.val (dif_pos h)
    have h : 65 ≤ c.toNat ∧ c.toNat ≤ 90 := h
    rw [if_pos h, ← Char.toNat_val, hval, UInt32.toNat_add]
    show (c.toNat + 32) % 4294967296 = c.toNat + 32
    omega
  · have hval : c.toLower = c := dif_neg h
    have h : ¬ (65 ≤ c.toNat ∧ c.toNat ≤ 90) := h
    rw [if_neg h, hval]

theorem isNameChar_of_foldName {c : Char} (h : isNameChar (foldName c)) : isNameChar c := by
  unfold foldName at h
  split at h
  · next hc => rw [hc]; decide
  · split at h
    · next hc => rw [hc]; decide
    · rw [isNameChar_iff] at h ⊢
      rw [toNat_toLower] at h
      split at h <;> omega

theorem isHexDigit_foldName {c : Char} (h : isHexDigit c) : isHexDigit (foldName c) := by
  have h1 : c ≠ '\u017F' := by rintro rfl; revert h; decide
  have h2 : c ≠ '\u212A' := by rintro rfl; revert h; decide
  simp only [foldName, h1, h2, ↓reduceIte]
  rw [isHexDigit_iff] at h ⊢
  rw [toNat_toLower]
  split <;> omega

theorem head_of_mem_secretWords {word : List Char} (h : word ∈ secretWords) :
    ∃ c rest, word = c :: rest ∧ ¬ isHexDigit c := by
  simp only [secretWords, List.mem_cons, List.not_mem_nil, or_false] at h
  rcases h with rfl | rfl | rfl | rfl
  · exact ⟨'s', "ecret".toList, by decide, by decide⟩
  · exact ⟨'k', "ey".toList, by decide, by decide⟩
  · exact ⟨'p', "assword".toList, by decide, by decide⟩
  · exact ⟨'t', "oken".toList, by decide, by decide⟩

theorem isNameChar_of_mem_secretWords {word : List Char} (h : word ∈ secretWords) :
    ∀ c ∈ word, isNameChar c := by
  have hall : secretWords.all (·.all isNameChar) := by decide
  exact List.all_eq_true.1 (List.all_eq_true.1 hall word h)

theorem isSecretName_cons_hex {c : Char} (h : isHexDigit c) (name : List Char) :
    isSecretName (c :: name) = isSecretName name := by
  rw [Bool.eq_iff_iff, isSecretName_iff, isSecretName_iff]
  refine exists_congr fun word => and_congr_right fun hw => ?_
  obtain ⟨d, rest, rfl, hd⟩ := head_of_mem_secretWords hw
  rw [List.map_cons, List.infix_cons_iff, List.cons_prefix_cons]
  refine or_iff_right ?_
  rintro ⟨rfl, -⟩
  exact hd (isHexDigit_foldName h)

theorem isSecretName_append_hex {digits : List Char} (h : ∀ c ∈ digits, isHexDigit c)
    (name : List Char) : isSecretName (digits ++ name) = isSecretName name := by
  induction digits with
  | nil => rfl
  | cons c cs ih =>
    rw [List.cons_append, isSecretName_cons_hex (h c List.mem_cons_self),
      ih fun d hd => h d (List.mem_cons_of_mem _ hd)]

end FleetDesk.Text
