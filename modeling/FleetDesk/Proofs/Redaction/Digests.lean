import FleetDesk.Proofs.Redaction.Classes
import FleetDesk.Proofs.Redaction.Runs

/-!
# Masking digests run by run

`maskDigests` masks a run of digits, keeps the character behind it and goes on
(`maskDigests_run_cons`). So a character that is no digit separates what stands on its two sides
(`maskDigests_append_cons`), masking twice is masking once, and a character of the output that the
marker does not hold stands for itself in the input (`maskDigests_eq_append_cons`).
-/

namespace FleetDesk.Text

/-- A run is masked or kept. -/
theorem maskRun_cases (run : List Char) :
    (maskRun run = marker ∧ (∀ c ∈ run, isHexDigit c) ∧ run.length = digestLength) ∨
      maskRun run = run := by
  by_cases h : run.all isHexDigit && run.length == digestLength
  · refine .inl ⟨if_pos h, ?_⟩
    simpa using h
  · exact .inr (if_neg h)

theorem fixesGaps_maskRun : FixesGaps isHexDigit maskRun := by
  intro gap hg
  rcases maskRun_cases gap with ⟨-, hx, hlen⟩ | hk
  · obtain ⟨c, hc⟩ := List.exists_mem_of_length_pos (by rw [hlen]; decide)
    exact absurd (hx c hc) (hg c hc)
  · exact hk

theorem maskDigests_append_of_ne {p q : List Char}
    (h : ∀ x ∈ p.getLast?, ∀ y ∈ q.head?, isHexDigit x ≠ isHexDigit y) :
    maskDigests (p ++ q) = maskDigests p ++ maskDigests q := mapRuns_append h

theorem maskDigests_run {run : List Char} (h : ∀ c ∈ run, isHexDigit c) :
    maskDigests run = maskRun run := mapRuns_of_const fixesGaps_maskRun h

theorem maskDigests_run_cons {run : List Char} {c : Char} (h : ∀ d ∈ run, isHexDigit d)
    (hc : ¬ isHexDigit c) (cs : List Char) :
    maskDigests (run ++ c :: cs) = maskRun run ++ c :: maskDigests cs :=
  mapRuns_run_cons fixesGaps_maskRun h hc cs

theorem maskDigests_append_cons {c : Char} (hc : ¬ isHexDigit c) (p q : List Char) :
    maskDigests (p ++ c :: q) = maskDigests p ++ c :: maskDigests q :=
  mapRuns_append_cons fixesGaps_maskRun hc p q

structure IsDigest (h : List Char) : Prop where
  digits : ∀ c ∈ h, isHexDigit c
  length : h.length = digestLength

/-- A digest that no further digit touches. -/
structure LoneDigest (before h after : List Char) : Prop where
  digest : IsDigest h
  before : ∀ c ∈ before.getLast?, ¬ isHexDigit c
  after : ∀ c ∈ after.head?, ¬ isHexDigit c

theorem IsDigest.ne_nil {h : List Char} (hd : IsDigest h) : h ≠ [] :=
  List.ne_nil_of_length_pos (by rw [hd.length]; decide)

theorem IsDigest.maskRun {h : List Char} (hd : IsDigest h) : maskRun h = marker :=
  if_pos (by simp [List.all_eq_true.2 hd.digits, hd.length])

theorem maskDigests_loneDigest {a h b : List Char} (hd : LoneDigest a h b) :
    maskDigests (a ++ (h ++ b)) = maskDigests a ++ (marker ++ maskDigests b) := by
  have hb : maskDigests (h ++ b) = marker ++ maskDigests b := by
    rw [maskDigests_append_of_ne, maskDigests_run hd.digest.digits, hd.digest.maskRun]
    intro x hx y hy
    have hx := hd.digest.digits x (List.mem_of_getLast? hx)
    have hy := hd.after y hy
    rw [hx]
    exact fun e => hy e.symm
  rw [maskDigests_append_of_ne, hb]
  intro x hx y hy
  have hx := hd.before x hx
  rw [List.head?_append_of_ne_nil _ hd.digest.ne_nil] at hy
  have hy := hd.digest.digits y (List.mem_of_head? hy)
  rw [hy]
  exact hx

/-! ### Masking twice -/

theorem maskDigests_marker : maskDigests marker = marker := by decide

theorem maskDigests_marker_append (cs : List Char) :
    maskDigests (marker ++ cs) = marker ++ maskDigests cs := by
  have hend : ¬ isHexDigit ']' := not_isHexDigit_of_not_isNameChar not_isNameChar_bracket
  have hinit : maskDigests "[REDACTED".toList = "[REDACTED".toList := by decide
  rw [marker_eq, List.append_assoc, List.singleton_append, maskDigests_append_cons hend, hinit]
  simp

theorem maskDigests_maskDigests (cs : List Char) :
    maskDigests (maskDigests cs) = maskDigests cs := by
  have hrun : ∀ h : List Char, (∀ c ∈ h, isHexDigit c) → maskDigests (maskRun h) = maskRun h := by
    intro h hh
    rcases maskRun_cases h with ⟨hm, -⟩ | hk
    · rw [hm, maskDigests_marker]
    · rw [hk, maskDigests_run hh, hk]
  induction cs using run_induction (p := isHexDigit) with
  | run h hh => rw [maskDigests_run hh, hrun h hh]
  | cut h c cs hh hc ih =>
    rw [maskDigests_run_cons hh hc, maskDigests_append_cons hc, hrun h hh, ih]

theorem length_maskRun_le (run : List Char) : (maskRun run).length ≤ run.length := by
  rcases maskRun_cases run with ⟨hm, -, hl⟩ | hk
  · rw [hm, hl]; decide
  · rw [hk]

theorem length_maskDigests_le (cs : List Char) : (maskDigests cs).length ≤ cs.length := by
  induction cs using run_induction (p := isHexDigit) with
  | run r hr => rw [maskDigests_run hr]; exact length_maskRun_le r
  | cut r c cs hr hc ih =>
    have := length_maskRun_le r
    rw [maskDigests_run_cons hr hc]
    simp only [List.length_append, List.length_cons]
    omega

/-- What masking leaves alone holds no digest by itself. -/
theorem not_loneDigest_of_maskDigests_eq {a h b : List Char}
    (hfix : maskDigests (a ++ (h ++ b)) = a ++ (h ++ b)) : ¬ LoneDigest a h b := by
  intro hd
  have hlen := congrArg List.length hfix
  rw [maskDigests_loneDigest hd] at hlen
  have ha := length_maskDigests_le a
  have hb := length_maskDigests_le b
  have hm : marker.length = 10 := by decide
  have h64 : h.length = 64 := hd.digest.length
  simp only [List.length_append] at hlen
  omega

/-! ### From the output back to the input -/

theorem notMem_maskRun {run : List Char} {e : Char} (h : ∀ c ∈ run, isHexDigit c)
    (he : ¬ isHexDigit e) (hm : e ∉ marker) : e ∉ maskRun run := by
  rcases maskRun_cases run with ⟨hk, -⟩ | hk <;> rw [hk]
  · exact hm
  · exact fun hr => he (h e hr)

theorem maskDigests_eq_append_cons {e : Char} (he : ¬ isHexDigit e) (hm : e ∉ marker)
    {cs x y : List Char} (h : maskDigests cs = x ++ e :: y) :
    ∃ x' y', cs = x' ++ e :: y' ∧ maskDigests x' = x ∧ maskDigests y' = y := by
  induction cs using run_induction (p := isHexDigit) generalizing x with
  | run r hr =>
    rw [maskDigests_run hr] at h
    exact absurd (by simp [h]) (notMem_maskRun hr he hm)
  | cut r c cs hr hc ih =>
    rw [maskDigests_run_cons hr hc] at h
    rcases append_cons_cases h with ⟨rfl, rfl, rfl⟩ | ⟨z, rfl, hz⟩ | ⟨z, hz, -⟩
    · exact ⟨r, cs, rfl, maskDigests_run hr, rfl⟩
    · obtain ⟨x', y', rfl, rfl, rfl⟩ := ih hz
      exact ⟨r ++ c :: x', y', by simp, maskDigests_run_cons hr hc x', rfl⟩
    · exact absurd (by simp [hz]) (notMem_maskRun hr he hm)

/-- A name that was not masked is the input. -/
theorem maskDigests_eq_self_of_name {cs : List Char} (h : ∀ c ∈ maskDigests cs, isNameChar c) :
    maskDigests cs = cs := by
  have hrun : ∀ r : List Char, (∀ c ∈ maskRun r, isNameChar c) → maskRun r = r := by
    intro r hr
    rcases maskRun_cases r with ⟨hm, -⟩ | hk
    · rw [hm] at hr
      exact absurd (hr ']' (by decide)) not_isNameChar_bracket
    · exact hk
  induction cs using run_induction (p := isHexDigit) with
  | run r hr =>
    rw [maskDigests_run hr] at h ⊢
    exact hrun r h
  | cut r c cs hr hc ih =>
    rw [maskDigests_run_cons hr hc] at h ⊢
    rw [hrun r fun d hd => h d (by simp [hd]), ih fun d hd => h d (by simp [hd])]

theorem maskRun_eq_append_name {run a name : List Char} (hn : ∀ c ∈ name, isNameChar c)
    (h : maskRun run = a ++ name) : ∃ a', run = a' ++ name := by
  rcases maskRun_cases run with ⟨hm, -⟩ | hk
  · -- The marker ends with a bracket.
    rcases List.eq_nil_or_concat name with rfl | ⟨init, c, rfl⟩
    · exact ⟨run, by simp⟩
    · have hlast := congrArg List.getLast? (hm.symm.trans h)
      rw [getLast?_marker] at hlast
      have hc : ']' = c := by simpa using hlast
      exact absurd (hn ']' (by simp [← hc])) not_isNameChar_bracket
  · exact ⟨a, hk.symm.trans h⟩

/-- A name at the end of the output stands at the end of the input. -/
theorem maskDigests_eq_append_name {cs a name : List Char} (hn : ∀ c ∈ name, isNameChar c)
    (h : maskDigests cs = a ++ name) : ∃ a', cs = a' ++ name := by
  induction cs using run_induction (p := isHexDigit) generalizing a with
  | run r hr =>
    rw [maskDigests_run hr] at h
    exact maskRun_eq_append_name hn h
  | cut r c cs hr hc ih =>
    rw [maskDigests_run_cons hr hc] at h
    -- Either the name lies behind `c`, or it reaches back over `c` and nothing behind is masked.
    rcases List.append_eq_append_iff.1 h.symm with ⟨w, hw, rfl⟩ | ⟨w, rfl, hw⟩
    · have hcs : maskDigests cs = cs := maskDigests_eq_self_of_name fun d hd => hn d (by simp [hd])
      obtain ⟨a', rfl⟩ := maskRun_eq_append_name (fun d hd => hn d (by simp [hd])) hw
      exact ⟨a', by rw [hcs]; simp⟩
    · cases w with
      | nil =>
        rw [List.nil_append] at hw
        have hcs : maskDigests cs = cs :=
          maskDigests_eq_self_of_name fun d hd => hn d (by simp [← hw, hd])
        exact ⟨r, by rw [← hw, hcs]⟩
      | cons d w =>
        obtain ⟨rfl, hrest⟩ := List.cons.inj hw
        obtain ⟨a', rfl⟩ := ih hrest
        exact ⟨r ++ c :: a', by simp⟩

end FleetDesk.Text
