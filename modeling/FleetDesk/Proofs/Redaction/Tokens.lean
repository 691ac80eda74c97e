import FleetDesk.Proofs.Redaction.Search
import Mathlib.Data.List.DropRight

/-!
# Redaction token by token

A token is a maximal run of characters that are not blank. `maskToken` looks for the first equals
sign in it that a secret name precedes and a character follows, and masks all that follows. Masking
the tokens of a text is the first pass (`maskValues_eq_maskTokens`), since a blank ends whatever the
scanner has read.
-/

namespace FleetDesk.Text

/-- The name characters right before place `i`. -/
def nameBefore (token : List Char) (i : Nat) : List Char := (token.take i).rtakeWhile isNameChar

def setsSecret (token : List Char) (i : Nat) : Bool :=
  token[i]? == some '=' && decide (i + 1 < token.length) && isSecretName (nameBefore token i)

/-- The first equals sign that sets a secret. -/
def secretAt? (token : List Char) : Option Nat := (List.range token.length).find? (setsSecret token)

def maskToken (token : List Char) : List Char :=
  match secretAt? token with
  | some i => token.take (i + 1) ++ marker
  | none => token

def maskTokens (cs : List Char) : List Char := mapRuns (!isBlank ·) maskToken cs

def redactTokens (s : String) : String := String.ofList (maskDigests (maskTokens s.toList))

theorem nameBefore_length (p rest : List Char) :
    nameBefore (p ++ rest) p.length = p.rtakeWhile isNameChar := by
  rw [nameBefore, List.take_left]

theorem rtakeWhile_concat_name (p : List Char) (c : Char) :
    (p ++ [c]).rtakeWhile isNameChar = extendName (p.rtakeWhile isNameChar) c := by
  by_cases hc : isNameChar c
  · rw [List.rtakeWhile_concat_pos _ _ _ hc, extendName_pos hc]
  · rw [List.rtakeWhile_concat_neg _ _ _ hc, extendName_neg hc]

/-- In a token the scanner stops where the token sets a secret. -/
theorem setsSecret_length {c : Char} {rest : List Char} (h : ∀ d ∈ rest, ¬ isBlank d)
    (p : List Char) :
    setsSecret (p ++ c :: rest) p.length = opensValue (p.rtakeWhile isNameChar) c rest := by
  have hv : (∃ v ∈ rest.head?, ¬ isBlank v) ↔ rest ≠ [] := by
    refine ⟨?_, fun hn => IsValue.exists_head? ⟨hn, h⟩⟩
    rintro ⟨v, hv, -⟩ rfl
    cases hv
  rw [Bool.eq_iff_iff, opensValue_iff, hv, setsSecret, nameBefore_length]
  simp [List.length_pos_iff, and_assoc, and_comm]

theorem maskFrom_token {token : List Char} (h : ∀ c ∈ token, ¬ isBlank c) (p : List Char) :
    maskFrom (p.rtakeWhile isNameChar) token =
      match (List.range' p.length token.length).find? (setsSecret (p ++ token)) with
      | some i => token.take (i + 1 - p.length) ++ marker
      | none => token := by
  induction token generalizing p with
  | nil => simp
  | cons c rest ih =>
    have hrest : ∀ d ∈ rest, ¬ isBlank d := fun d hd => h d (List.mem_cons_of_mem _ hd)
    have hs := setsSecret_length (c := c) hrest p
    rw [List.length_cons, List.range'_succ, List.find?_cons, hs]
    by_cases ho : opensValue (p.rtakeWhile isNameChar) c rest
    · have hdrop : rest.dropWhile (!isBlank ·) = [] :=
        List.dropWhile_eq_nil_iff.2 fun d hd => by simpa using hrest d hd
      rw [maskFrom_cons_pos ho, hdrop, maskFrom_nil_right, ho]
      simp
    · have hp := ih hrest (p ++ [c])
      rw [List.length_append, List.length_singleton, List.append_assoc, List.singleton_append] at hp
      rw [maskFrom_cons_neg ho, ← rtakeWhile_concat_name, hp, Bool.eq_false_iff.2 ho]
      cases hi : (List.range' (p.length + 1) rest.length).find? (setsSecret (p ++ c :: rest)) with
      | none => rfl
      | some i =>
        have hlt : p.length + 1 ≤ i := (List.mem_range'_1.1 (List.mem_of_find?_eq_some hi)).1
        obtain ⟨k, rfl⟩ := Nat.exists_eq_add_of_le hlt
        have h1 : p.length + 1 + k + 1 - (p.length + 1) = k + 1 := by omega
        have h2 : p.length + 1 + k + 1 - p.length = k + 2 := by omega
        simp only [h1, h2]
        rfl

theorem maskFrom_eq_maskToken {token : List Char} (h : ∀ c ∈ token, ¬ isBlank c) :
    maskFrom [] token = maskToken token := by
  have := maskFrom_token h []
  rwa [List.rtakeWhile_nil, List.length_nil, ← List.range_eq_range'] at this

theorem secretAt?_eq_none {token : List Char} (h : '=' ∉ token) : secretAt? token = none := by
  rw [secretAt?, List.find?_eq_none]
  intro i _ hs
  simp only [setsSecret, Bool.and_eq_true, beq_iff_eq] at hs
  exact h (List.mem_of_getElem? hs.1.1)

theorem fixesGaps_maskToken : FixesGaps (!isBlank ·) maskToken := by
  intro gap hg
  have he : '=' ∉ gap := fun hm => hg '=' hm (by decide)
  rw [maskToken, secretAt?_eq_none he]

theorem maskValues_eq_maskTokens (cs : List Char) : maskValues cs = maskTokens cs := by
  have htoken : ∀ token : List Char, (∀ c ∈ token, (!isBlank c) = true) →
      maskFrom [] token = maskToken token :=
    fun token ht => maskFrom_eq_maskToken fun c hc => by simpa using ht c hc
  rw [← maskFrom_nil, maskTokens]
  induction cs using run_induction (p := (!isBlank ·)) with
  | run t ht => rw [mapRuns_of_const fixesGaps_maskToken ht, htoken t ht]
  | cut t c cs ht hc ih =>
    have hb : isBlank c := by simpa using hc
    rw [mapRuns_run_cons fixesGaps_maskToken ht hc, maskFrom_append [] t (by simpa using hb),
      htoken t ht, maskFrom_cons_neg (by simp [opensValue_nil]),
      extendName_neg (not_isNameChar_of_isBlank hb), ih]

theorem redact_eq_redactTokens (s : String) : redact s = redactTokens s := by
  rw [redact, redactTokens, maskValues_eq_maskTokens]

/-! ### Blanks separate -/

theorem maskTokens_append_cons {w : Char} (hw : isBlank w) (p q : List Char) :
    maskTokens (p ++ w :: q) = maskTokens p ++ w :: maskTokens q :=
  mapRuns_append_cons fixesGaps_maskToken (by simpa using hw) p q

theorem redact_append_blank {w : Char} (hw : isBlank w) (a b : String) :
    redact (a ++ String.singleton w ++ b) = redact a ++ String.singleton w ++ redact b := by
  rw [← String.toList_inj]
  simp only [redact_eq_redactTokens, redactTokens, String.toList_append, String.toList_singleton,
    String.toList_ofList, List.append_assoc, List.singleton_append, maskTokens_append_cons hw,
    maskDigests_append_cons (not_isHexDigit_of_isBlank hw)]

/-! ### What is kept -/

/-- The second text is the first with markers in place of some values. -/
inductive ValuesReplaced : List Char → List Char → Prop
  | nil : ValuesReplaced [] []
  | keep (c : Char) {x y : List Char} (h : ValuesReplaced x y) : ValuesReplaced (c :: x) (c :: y)
  | value {v x y : List Char} (hv : IsValue v) (h : ValuesReplaced x y) :
    ValuesReplaced ('=' :: (v ++ x)) ('=' :: (marker ++ y))

/-- The second text is the first with markers in place of some values and digests. -/
inductive Masked : List Char → List Char → Prop
  | nil : Masked [] []
  | keep (c : Char) {x y : List Char} (h : Masked x y) : Masked (c :: x) (c :: y)
  | value {v x y : List Char} (hv : IsValue v) (h : Masked x y) :
    Masked ('=' :: (v ++ x)) ('=' :: (marker ++ y))
  | digest {d x y : List Char} (hd : IsDigest d) (h : Masked x y) : Masked (d ++ x) (marker ++ y)

theorem Masked.append_left (p : List Char) {x y : List Char} (h : Masked x y) :
    Masked (p ++ x) (p ++ y) := by
  induction p with
  | nil => exact h
  | cons c p ih => exact .keep c ih

theorem Masked.run {run x y : List Char} (hrun : ∀ c ∈ run, isHexDigit c) (h : Masked x y) :
    Masked (run ++ x) (maskRun run ++ y) := by
  rcases maskRun_cases run with ⟨hm, -, hlen⟩ | hk
  · rw [hm]
    exact .digest ⟨hrun, hlen⟩ h
  · rw [hk]
    exact h.append_left run

theorem valuesReplaced_maskFrom (name cs : List Char) : ValuesReplaced cs (maskFrom name cs) := by
  fun_induction maskFrom name cs with
  | case1 name => exact .nil
  | case2 name c rest ho ih =>
    obtain ⟨rfl, -, hv⟩ := opensValue_iff.1 ho
    have := ValuesReplaced.value (isValue_takeWhile hv) ih
    rwa [List.takeWhile_append_dropWhile] at this
  | case3 name c rest ho ih => exact .keep c ih

/-- The second pass, after digits that were read before. -/
theorem ValuesReplaced.masked {run x y : List Char} (hrun : ∀ c ∈ run, isHexDigit c)
    (h : ValuesReplaced x y) : Masked (run ++ x) (maskDigests (run ++ y)) := by
  induction h generalizing run with
  | nil =>
    rw [List.append_nil, maskDigests_run hrun]
    simpa using Masked.run hrun .nil
  | keep c h ih =>
    by_cases hc : isHexDigit c
    · have hmore : ∀ d ∈ run ++ [c], isHexDigit d := by
        simpa [or_imp, forall_and] using ⟨hrun, hc⟩
      simpa using ih hmore
    · rw [maskDigests_run_cons hrun hc]
      exact .run hrun (.keep c (ih (List.forall_mem_nil _)))
  | value hv h ih =>
    rw [maskDigests_run_cons hrun not_isHexDigit_equals, maskDigests_marker_append]
    exact .run hrun (.value hv (ih (List.forall_mem_nil _)))

theorem masked_redact (s : String) : Masked s.toList (redact s).toList := by
  have h := valuesReplaced_maskFrom [] s.toList
  rw [maskFrom_nil] at h
  rw [redact, String.toList_ofList]
  exact h.masked (List.forall_mem_nil _)

/-- Redaction is what its two searches do, which is to mask tokens and digests one by one. Nothing
else changes, and blanks separate. -/
theorem redact_by_tokens :
    (∀ s, redact s = redactTokens s ∧ redact s = redactSearch s ∧
      Masked s.toList (redact s).toList) ∧
    ∀ w, isBlank w → ∀ a b, redact (a ++ String.singleton w ++ b) =
      redact a ++ String.singleton w ++ redact b :=
  ⟨fun s => ⟨redact_eq_redactTokens s, redact_eq_redactSearch s, masked_redact s⟩,
    fun _ hw a b => redact_append_blank hw a b⟩

theorem redact_by_tokens_at_space :
    isBlank ' ' ∧ redact ("KEY=a=b" ++ String.singleton ' ' ++ "=c") =
      redact "KEY=a=b" ++ String.singleton ' ' ++ redact "=c" :=
  ⟨by decide, redact_by_tokens.2 ' ' (by decide) _ _⟩

end FleetDesk.Text
