import FleetDesk.Proofs.Redaction.Assignments
import FleetDesk.Proofs.Redaction.Digests

/-!
# Redacted output is clean

In a clean text every secret is set to the marker, and no digest stands by itself. Redaction makes a
text clean and leaves a clean text alone, so redacting twice is redacting once. The first pass makes
the values right (`valuesMasked_maskFrom`). The second pass may cut names short and shorten the gaps
between them, but what looks like an assignment in its output was one in its input
(`valuesMasked_maskDigests`).
-/

namespace FleetDesk.Text

/-- Every secret is set to the marker. -/
def ValuesMasked (cs : List Char) : Prop :=
  ∀ a name v b, cs = a ++ name ++ '=' :: (v ++ b) → Assignment name v b → v = marker

structure Clean (cs : List Char) : Prop where
  values : ValuesMasked cs
  digests : ∀ a h b, cs = a ++ (h ++ b) → ¬ LoneDigest a h b

theorem ValuesMasked.of_append (p : List Char) {q : List Char} (h : ValuesMasked (p ++ q)) :
    ValuesMasked q := by
  rintro a name v b rfl hA
  exact h (p ++ a) name v b (by simp) hA

/-- Behind a character that belongs to no name a text is masked if what follows is. -/
theorem eq_append_of_behind {a name x z : List Char} {d : Char} (hn : ∀ c ∈ name, isNameChar c)
    (hd : ¬ isNameChar d) (h : a ++ name = x ++ d :: z) : ∃ a', z = a' ++ name := by
  obtain ⟨a', -, hz⟩ := suffix_of_append_cons hn hd h
  exact ⟨a', hz⟩

/-- A mark that the marker does not hold stands behind it. -/
theorem eq_append_of_marker {x z y : List Char} {e : Char} (he : e ∉ marker)
    (h : marker ++ x = z ++ e :: y) : ∃ w, z = marker ++ w ∧ x = w ++ e :: y := by
  rcases List.append_eq_append_iff.1 h with ⟨w, hz, hx⟩ | ⟨w, hm, hx⟩
  · exact ⟨w, hz, hx⟩
  · cases w with
    | nil => exact ⟨[], by simpa using hm.symm, by simpa using hx.symm⟩
    | cons d w =>
      obtain ⟨rfl, -⟩ := List.cons.inj hx
      exact absurd (by simp [hm]) he

/-! ### The first pass -/

theorem valuesMasked_maskFrom {name : List Char} (hn : ∀ c ∈ name, isNameChar c) (cs : List Char) :
    ValuesMasked (name ++ maskFrom name cs) := by
  fun_induction maskFrom name cs with
  | case1 name =>
    intro a n v b h hA
    rw [List.append_nil] at h
    exact absurd (by simp [h]) (equals_notMem_name hn)
  | case2 name c rest ho ih =>
    obtain ⟨rfl, -⟩ := opensValue_iff.1 ho
    have hblank : ∀ c ∈ (maskFrom [] (rest.dropWhile (!isBlank ·))).head?, isBlank c := by
      rw [head?_maskFrom]
      exact head?_dropWhile_blank rest
    intro a n v b h hA
    rcases append_cons_cases h.symm with ⟨-, -, hv⟩ | ⟨z, hz, -⟩ | ⟨z, hz, hrest⟩
    · exact hA.value.eq_of_append_eq isValue_marker hA.after hblank hv
    · exact absurd (by simp [hz]) (equals_notMem_name hn)
    · obtain ⟨w, rfl, hw⟩ := eq_append_of_marker equals_notMem_marker hrest
      rw [marker_eq] at hz
      obtain ⟨a', rfl⟩ := eq_append_of_behind (x := name ++ '=' :: "[REDACTED".toList) (z := w)
        hA.name_chars not_isNameChar_bracket (by rw [hz]; simp)
      exact ih (by simp) a' n v b (by simpa using hw) hA
  | case3 name c rest ho ih =>
    by_cases hc : isNameChar c
    · rw [extendName_pos hc] at ih ⊢
      have := ih (by simpa [or_imp, forall_and] using ⟨hn, hc⟩)
      simpa using this
    · rw [extendName_neg hc] at ih ⊢
      intro a n v b h hA
      rcases append_cons_cases h.symm with ⟨hname, rfl, hv⟩ | ⟨z, hz, -⟩ | ⟨z, hz, hrest⟩
      · -- The equals sign would have opened the value.
        refine absurd (opensValue_iff.2 ⟨rfl, ?_, ?_⟩) ho
        · exact isSecretName_of_infix hA.secret ⟨a, [], by simp [← hname]⟩
        · obtain ⟨d, hd, hb⟩ := hA.value.exists_head?
          refine ⟨d, ?_, hb⟩
          rw [← head?_maskFrom [], ← hv, List.head?_append_of_ne_nil _ hA.value.ne_nil]
          exact hd
      · exact absurd (by simp [hz]) (equals_notMem_name hn)
      · obtain ⟨a', rfl⟩ := eq_append_of_behind hA.name_chars hc hz
        exact ih (by simp) a' n v b (by simpa using hrest) hA

theorem valuesMasked_maskValues (cs : List Char) : ValuesMasked (maskValues cs) := by
  have h : ValuesMasked ([] ++ maskFrom [] cs) := valuesMasked_maskFrom (by simp) cs
  rwa [List.nil_append, maskFrom_nil] at h

theorem maskFrom_eq_self {name cs : List Char} (hn : ∀ c ∈ name, isNameChar c)
    (h : ValuesMasked (name ++ cs)) : maskFrom name cs = cs := by
  fun_induction maskFrom name cs with
  | case1 name => rfl
  | case2 name c rest ho ih =>
    obtain ⟨rfl, -⟩ := opensValue_iff.1 ho
    have hsplit := List.takeWhile_append_dropWhile (p := (!isBlank ·)) (l := rest)
    have hA := assignment_of_opensValue hn ho
    have hm := h [] name _ _ (by rw [hsplit]; rfl) hA
    have hrest : ValuesMasked (rest.dropWhile (!isBlank ·)) := by
      refine ValuesMasked.of_append (name ++ '=' :: rest.takeWhile (!isBlank ·)) ?_
      rwa [List.append_assoc, List.cons_append, hsplit]
    rw [ih (by simp) hrest, ← hm, hsplit]
  | case3 name c rest ho ih =>
    by_cases hc : isNameChar c
    · rw [extendName_pos hc] at ih ⊢
      rw [ih (by simpa [or_imp, forall_and] using ⟨hn, hc⟩) (by simpa using h)]
    · rw [extendName_neg hc] at ih ⊢
      rw [ih (by simp) (ValuesMasked.of_append (name ++ [c]) (by simpa using h))]

theorem maskValues_eq_self {cs : List Char} (h : ValuesMasked cs) : maskValues cs = cs := by
  rw [← maskFrom_nil]
  exact maskFrom_eq_self (by simp) h

/-! ### The second pass -/

theorem notMem_marker_of_isBlank {c : Char} (h : isBlank c) : c ∉ marker :=
  fun hm => not_isBlank_of_mem_marker hm h

/-- A value in the output was a value in the input. -/
theorem IsValue.of_maskDigests {v : List Char} (h : IsValue (maskDigests v)) : IsValue v := by
  refine ⟨fun hv => h.ne_nil (by rw [hv]; rfl), fun c hc hb => ?_⟩
  obtain ⟨p, q, rfl⟩ := List.append_of_mem hc
  rw [maskDigests_append_cons (not_isHexDigit_of_isBlank hb)] at h
  exact h.not_blank c (by simp) hb

/-- A value and what follows it come from a value and what follows it. -/
theorem maskDigests_eq_append_value {cs v b : List Char} (hv : IsValue v)
    (hb : ∀ c ∈ b.head?, isBlank c) (h : maskDigests cs = v ++ b) :
    ∃ v' b', cs = v' ++ b' ∧ IsValue v' ∧ maskDigests v' = v ∧ ∀ c ∈ b'.head?, isBlank c := by
  cases b with
  | nil =>
    rw [List.append_nil] at h
    exact ⟨cs, [], by simp, IsValue.of_maskDigests (by rwa [h]), h, by simp⟩
  | cons w b =>
    have hw : isBlank w := hb w rfl
    obtain ⟨v', b', rfl, rfl, -⟩ := maskDigests_eq_append_cons (not_isHexDigit_of_isBlank hw)
      (notMem_marker_of_isBlank hw) h
    exact ⟨v', w :: b', rfl, hv.of_maskDigests, rfl, by simpa using hw⟩

theorem valuesMasked_maskDigests {cs : List Char} (h : ValuesMasked cs) :
    ValuesMasked (maskDigests cs) := by
  intro a name v b hcs hA
  obtain ⟨x, y, rfl, hx, hy⟩ :=
    maskDigests_eq_append_cons not_isHexDigit_equals equals_notMem_marker hcs
  obtain ⟨a', rfl⟩ := maskDigests_eq_append_name hA.name_chars hx
  obtain ⟨v', b', rfl, hv', rfl, hb'⟩ := maskDigests_eq_append_value hA.value hA.after hy
  rw [h a' name v' b' rfl ⟨hA.name_chars, hA.secret, hv', hb'⟩, maskDigests_marker]

/-! ### Both passes -/

theorem clean_redact (s : String) : Clean (redact s).toList := by
  rw [redact, String.toList_ofList]
  refine ⟨valuesMasked_maskDigests (valuesMasked_maskValues _), fun a h b hcs => ?_⟩
  refine not_loneDigest_of_maskDigests_eq ?_
  rw [← hcs, maskDigests_maskDigests]

theorem redact_eq_self {s : String} (hv : ValuesMasked s.toList)
    (hd : maskDigests s.toList = s.toList) : redact s = s := by
  rw [redact, maskValues_eq_self hv, hd, String.ofList_toList]

theorem redact_idempotent_and_clean (s : String) :
    redact (redact s) = redact s ∧ Clean (redact s).toList := by
  refine ⟨redact_eq_self (clean_redact s).values ?_, clean_redact s⟩
  rw [redact, String.toList_ofList, maskDigests_maskDigests]

end FleetDesk.Text
