import FleetDesk.Domain.Punycode
import FleetDesk.Proofs.Distinct
import FleetDesk.Proofs.Text.Utf8
import Mathlib.Data.List.TakeWhile

/-!
# Reading what was written in Punycode

`decode` puts a character where `encode` passed it. While the characters with one code point are
placed, the label that has been read holds those of lower code points, and of the same code point
what was passed (`placed`); the distance that will be written next leads from where the last
character was put to where the next one goes (`Writer.Leads`). Each character that is passed keeps
it so, and in the end the label is there (`decode_encode`).
-/

namespace FleetDesk.Domain.Punycode

/-! ### Digits -/

theorem digitValue?_digitChar {d : Nat} (h : d < base) : digitValue? (digitChar d) = some d := by
  have hall : ∀ e : Fin base, digitValue? (digitChar e) = some e.val := by decide
  exact hall ⟨d, h⟩

theorem digitChar_ne_hyphen {d : Nat} (h : d < base) : digitChar d ≠ '-' := by
  intro heq
  have hvalue := digitValue?_digitChar h
  rw [heq] at hvalue
  cases hvalue

theorem distance?_cons {bias position weight acc d : Nat} (h : d < base) (rest : List Char) :
    distance? bias position weight acc (digitChar d :: rest) =
      if d < threshold bias position then some (acc + d * weight, rest)
      else distance? bias (position + base) (weight * (base - threshold bias position))
        (acc + d * weight) rest := by
  rw [distance?, digitValue?_digitChar h]
  rfl

theorem distance?_digits (bias position n weight acc : Nat) (rest : List Char) :
    distance? bias position weight acc (digits bias position n ++ rest) =
      some (acc + n * weight, rest) := by
  fun_induction digits bias position n generalizing weight acc with
  | case1 position n t hlt =>
    have hle := threshold_le bias position
    have hdigit : n < base := Nat.lt_of_lt_of_le hlt (Nat.le_trans hle (by decide))
    rw [List.singleton_append, distance?_cons hdigit, if_pos hlt]
  | case2 position n t hge ih =>
    have hle := threshold_le bias position
    have hroom : 0 < base - t := Nat.sub_pos_of_lt (Nat.lt_of_le_of_lt hle (by decide))
    have hmod := Nat.mod_lt (n - t) hroom
    have hsplit := Nat.mod_add_div (n - t) (base - t)
    rw [List.cons_append, distance?_cons (by omega), if_neg (by omega), ih]
    -- The digit and what is left of the number make up the number again.
    have hnumber : t + (n - t) % (base - t) + (n - t) / (base - t) * (base - t) = n := by
      rw [Nat.mul_comm]
      omega
    rw [Nat.mul_comm weight, ← Nat.mul_assoc, Nat.add_assoc, ← Nat.add_mul, hnumber]

theorem digits_ne_nil (bias position n : Nat) : digits bias position n ≠ [] := by
  rw [digits]
  split <;> simp

theorem exists_of_mem_digits {bias position n : Nat} {c : Char} (h : c ∈ digits bias position n) :
    ∃ d, d < base ∧ c = digitChar d := by
  fun_induction digits bias position n with
  | case1 position n t hlt =>
    have hle := threshold_le bias position
    exact ⟨n, Nat.lt_of_lt_of_le hlt (Nat.le_trans hle (by decide)), List.mem_singleton.1 h⟩
  | case2 position n t hge ih =>
    have hle := threshold_le bias position
    have hroom : 0 < base - t := Nat.sub_pos_of_lt (Nat.lt_of_le_of_lt hle (by decide))
    have hmod := Nat.mod_lt (n - t) hroom
    rcases List.mem_cons.1 h with rfl | h
    · exact ⟨_, by omega, rfl⟩
    · exact ih h

/-! ### Labels on the way -/

/-- The characters of a label whose turn was before `n`, and of those with the code point `n` what
was passed. -/
def placed (n : Nat) (passed toCome : List Char) : List Char :=
  passed.filter (·.toNat ≤ n) ++ toCome.filter (·.toNat < n)

/-- What a writer has put out is read back to a label, from which reading goes on. -/
structure Writer.Leads (start : List Char) (w : Writer) (place code : Nat) (label : List Char) :
    Prop where
  count : w.count = label.length
  reads (rest : List Char) : placeFrom firstBias 0 firstCode true start (w.out.reverse ++ rest) =
    placeFrom w.bias place code w.first label rest

/-- The distance so far leads from where reading has come to behind what was passed. -/
def Writer.Passing (start : List Char) (n : Nat) (passed toCome : List Char) (w : Writer) : Prop :=
  ∃ place code, w.Leads start place code (placed n passed toCome) ∧
    code * (w.count + 1) + place + w.delta =
      n * (w.count + 1) + (passed.filter (·.toNat ≤ n)).length

/-- The distance so far leads to the start of the label, when those before `next` are placed. -/
def Writer.Ready (start : List Char) (next : Nat) (label : List Char) (w : Writer) : Prop :=
  ∃ place code, w.Leads start place code (label.filter (·.toNat < next)) ∧
    code * (w.count + 1) + place + w.delta = next * (w.count + 1)

theorem placeFrom_digits {bias place code delta n k : Nat} {first : Bool} {label rest : List Char}
    (hn : n.isValidChar) (hk : k ≤ label.length)
    (hdelta : code * (label.length + 1) + place + delta = n * (label.length + 1) + k) :
    placeFrom bias place code first label (digits bias base delta ++ rest) =
      placeFrom (adapt delta (label.length + 1) first) (k + 1) n false
        (label.take k ++ Char.ofNat n :: label.drop k) rest := by
  have hread := distance?_digits bias base delta 1 0 rest
  obtain ⟨d, ds, hdigits⟩ := List.exists_cons_of_ne_nil (digits_ne_nil bias base delta)
  rw [hdigits, List.cons_append] at hread ⊢
  rw [Nat.zero_add, Nat.mul_one] at hread
  have hroom : 0 < label.length + 1 := Nat.succ_pos _
  have hsum : place + delta + code * (label.length + 1) = k + n * (label.length + 1) := by omega
  have hcode : code + (place + delta) / (label.length + 1) = n := by
    have hquotient := congrArg (· / (label.length + 1)) hsum
    simp only [Nat.add_mul_div_right _ _ hroom, Nat.div_eq_of_lt (Nat.lt_succ_of_le hk)]
      at hquotient
    omega
  have hplace : (place + delta) % (label.length + 1) = k := by
    have hrest := congrArg (· % (label.length + 1)) hsum
    simpa only [Nat.add_mul_mod_self_right, Nat.mod_eq_of_lt (Nat.lt_succ_of_le hk)] using hrest
  rw [placeFrom]
  split
  · next hnone =>
    rw [hread] at hnone
    cases hnone
  · next m after hsome =>
    rw [hread] at hsome
    cases hsome
    simp only [hcode, hplace, if_pos hn]

theorem Writer.Passing.pass {start passed toCome : List Char} {n : Nat} {c : Char} {w : Writer}
    (h : w.Passing start n passed (c :: toCome)) :
    (w.pass n c).Passing start n (passed ++ [c]) toCome := by
  obtain ⟨place, code, hleads, hdelta⟩ := h
  rcases Nat.lt_trichotomy c.toNat n with hlt | heq | hgt
  · have hplaced : placed n (passed ++ [c]) toCome = placed n passed (c :: toCome) := by
      simp [placed, hlt, Nat.le_of_lt hlt]
    refine ⟨place, code, ?_, ?_⟩
    · rw [hplaced]
      simp only [Writer.pass, if_pos hlt]
      exact ⟨hleads.count, hleads.reads⟩
    · simp only [Writer.pass, if_pos hlt, List.filter_append, List.length_append]
      simp [Nat.le_of_lt hlt]
      omega
  · subst heq
    obtain ⟨front, hfront⟩ : ∃ front, passed.filter (·.toNat ≤ c.toNat) = front := ⟨_, rfl⟩
    obtain ⟨behind, hbehind⟩ : ∃ behind, toCome.filter (·.toNat < c.toNat) = behind := ⟨_, rfl⟩
    have hbefore : placed c.toNat passed (c :: toCome) = front ++ behind := by
      simp [placed, hfront, hbehind]
    have hafter : placed c.toNat (passed ++ [c]) toCome = front ++ c :: behind := by
      simp [placed, hfront, hbehind]
    rw [hbefore] at hleads
    rw [hfront, hleads.count] at hdelta
    have hpass : w.pass c.toNat c =
        { out := (digits w.bias base w.delta).reverse ++ w.out
          delta := 0
          bias := adapt w.delta (w.count + 1) w.first
          count := w.count + 1
          first := false } := by
      rw [Writer.pass, if_neg (Nat.lt_irrefl _), if_pos rfl]
    refine ⟨front.length + 1, c.toNat, ?_, ?_⟩
    · rw [hafter, hpass]
      refine ⟨by simp [hleads.count]; omega, fun rest => ?_⟩
      rw [List.reverse_append, List.reverse_reverse, List.append_assoc, hleads.reads,
        placeFrom_digits c.valid (by simp) hdelta, ← hleads.count]
      simp
    · rw [hpass]
      simp [hfront]
  · have hplaced : placed n (passed ++ [c]) toCome = placed n passed (c :: toCome) := by
      simp [placed, hgt, Nat.le_of_lt hgt]
    have hpass : w.pass n c = w := by
      rw [Writer.pass, if_neg (by omega), if_neg (by omega)]
    refine ⟨place, code, ?_, ?_⟩
    · rw [hplaced, hpass]
      exact hleads
    · rw [hpass, hdelta]
      simp [hgt]

theorem Writer.Passing.foldl {start passed toCome : List Char} {n : Nat} {w : Writer}
    (h : w.Passing start n passed toCome) :
    (toCome.foldl (Writer.pass n) w).Passing start n (passed ++ toCome) [] := by
  induction toCome generalizing w passed with
  | nil => simpa using h
  | cons c toCome ih => simpa using ih h.pass

/-- All characters with the code point `n` are placed at once. -/
theorem Writer.Ready.place_one {start label : List Char} {w : Writer} {next n : Nat}
    (h : w.Ready start next label) (hle : next ≤ n)
    (hnone : ∀ c ∈ label, next ≤ c.toNat → n ≤ c.toNat) :
    let w' := label.foldl (Writer.pass n) { w with delta := w.delta + (n - next) * (w.count + 1) }
    Writer.Ready start (n + 1) label { w' with delta := w'.delta + 1 } := by
  obtain ⟨place, code, hleads, hdelta⟩ := h
  have hplaced : label.filter (·.toNat < next) = placed n [] label := by
    refine List.filter_congr fun c hc => decide_eq_decide.2 ⟨fun hlt => ?_, fun hlt => ?_⟩
    · exact Nat.lt_of_lt_of_le hlt hle
    · exact Nat.lt_of_not_le fun hge => Nat.not_le_of_lt hlt (hnone c hc hge)
  have hpassing : Writer.Passing start n [] label
      { w with delta := w.delta + (n - next) * (w.count + 1) } := by
    refine ⟨place, code, hplaced ▸ ⟨hleads.count, hleads.reads⟩, ?_⟩
    rw [List.filter_nil, List.length_nil, Nat.add_zero, ← Nat.add_assoc, hdelta, ← Nat.add_mul,
      Nat.add_sub_cancel' hle]
    rfl
  obtain ⟨place', code', hleads', hdelta'⟩ := hpassing.foldl
  have hall : placed n ([] ++ label) [] = label.filter (·.toNat < n + 1) := by
    rw [placed, List.nil_append, List.filter_nil, List.append_nil]
    exact List.filter_congr fun c _ => decide_eq_decide.2 Nat.lt_succ_iff.symm
  have hcount := hleads'.count
  rw [hall] at hleads' hcount
  refine ⟨place', code', ⟨hleads'.count, hleads'.reads⟩, ?_⟩
  simp only [List.nil_append, Nat.lt_succ_iff] at hdelta' hcount
  rw [← hcount] at hdelta'
  simp only [Nat.add_mul]
  omega

theorem Writer.Ready.place {start label : List Char} {w : Writer} {next : Nat} {ns : List Nat}
    (h : w.Ready start next label) (hsorted : ns.Pairwise (· < ·))
    (hlabel : ∀ n, n ∈ ns ↔ next ≤ n ∧ ∃ c ∈ label, c.toNat = n) :
    placeFrom firstBias 0 firstCode true start (Writer.place label w next ns).out.reverse =
      some label := by
  induction ns generalizing w next with
  | nil =>
    obtain ⟨place, code, hleads, -⟩ := h
    have hall : label.filter (·.toNat < next) = label := by
      refine List.filter_eq_self.2 fun c hc => decide_eq_true (Nat.lt_of_not_le fun hge => ?_)
      exact List.not_mem_nil ((hlabel c.toNat).2 ⟨hge, c, hc, rfl⟩)
    have hread := hleads.reads []
    rw [List.append_nil, hall] at hread
    rw [Writer.place, hread, placeFrom]
  | cons n ns ih =>
    obtain ⟨hfirst, hrest⟩ := List.pairwise_cons.1 hsorted
    have hle : next ≤ n := ((hlabel n).1 List.mem_cons_self).1
    have hmem : ∀ c ∈ label, next ≤ c.toNat → c.toNat = n ∨ c.toNat ∈ ns := fun c hc hge =>
      List.mem_cons.1 ((hlabel c.toNat).2 ⟨hge, c, hc, rfl⟩)
    have hnone : ∀ c ∈ label, next ≤ c.toNat → n ≤ c.toNat := fun c hc hge =>
      (hmem c hc hge).elim (fun heq => Nat.le_of_eq heq.symm)
        fun hlater => Nat.le_of_lt (hfirst _ hlater)
    rw [Writer.place]
    refine ih (h.place_one hle hnone) hrest fun m => ?_
    constructor
    · intro hm
      exact ⟨hfirst m hm, ((hlabel m).1 (List.mem_cons_of_mem n hm)).2⟩
    · rintro ⟨hlt, c, hc, rfl⟩
      exact (hmem c hc (by omega)).resolve_left (by omega)

/-! ### Labels -/

theorem mem_others {label : List Char} {n : Nat} :
    n ∈ ((label.filter (!isBasic ·)).map Char.toNat).mergeSort.eraseDups ↔
      firstCode ≤ n ∧ ∃ c ∈ label, c.toNat = n := by
  simp only [List.mem_eraseDups, List.mem_mergeSort, List.mem_map, List.mem_filter, isBasic,
    Bool.not_eq_true', decide_eq_false_iff_not, Nat.not_lt]
  constructor
  · rintro ⟨c, ⟨hc, hge⟩, rfl⟩
    exact ⟨hge, c, hc, rfl⟩
  · rintro ⟨hge, c, hc, rfl⟩
    exact ⟨c, ⟨hc, hge⟩, rfl⟩

/-- The distances of a label, as they are written behind its ASCII characters. -/
def distances (label : List Char) : List Char :=
  (Writer.place label { count := (label.filter isBasic).length } firstCode
    ((label.filter (!isBasic ·)).map Char.toNat).mergeSort.eraseDups).out.reverse

theorem placeFrom_distances (label : List Char) :
    placeFrom firstBias 0 firstCode true (label.filter isBasic) (distances label) = some label := by
  have hready : Writer.Ready (label.filter isBasic) firstCode label
      { count := (label.filter isBasic).length } := ⟨0, firstCode, ⟨rfl, fun _ => rfl⟩, by simp⟩
  exact hready.place (pairwise_lt_of_sorted _) fun n => mem_others

theorem Writer.exists_of_mem_pass {w : Writer} {n : Nat} {c x : Char} (h : x ∈ (w.pass n c).out) :
    x ∈ w.out ∨ ∃ d, d < base ∧ x = digitChar d := by
  rw [Writer.pass] at h
  split at h
  · exact .inl h
  · split at h
    · rcases List.mem_append.1 h with h | h
      · exact .inr (exists_of_mem_digits (List.mem_reverse.1 h))
      · exact .inl h
    · exact .inl h

theorem Writer.exists_of_mem_place {w : Writer} {label : List Char} {next : Nat} {ns : List Nat}
    {x : Char} (h : x ∈ (w.place label next ns).out) :
    x ∈ w.out ∨ ∃ d, d < base ∧ x = digitChar d := by
  have hfold : ∀ (cs : List Char) (n : Nat) (w : Writer), x ∈ (cs.foldl (Writer.pass n) w).out →
      x ∈ w.out ∨ ∃ d, d < base ∧ x = digitChar d := by
    intro cs n
    induction cs with
    | nil => exact fun w h => .inl h
    | cons c cs ih => exact fun w h => (ih _ h).elim exists_of_mem_pass .inr
  induction ns generalizing w next with
  | nil => exact .inl h
  | cons n ns ih => exact (ih h).elim (hfold label n _) .inr

theorem exists_of_mem_distances {label : List Char} {x : Char} (h : x ∈ distances label) :
    ∃ d, d < base ∧ x = digitChar d :=
  (Writer.exists_of_mem_place (List.mem_reverse.1 h)).resolve_left (by simp)

theorem encode_eq (label : List Char) : encode label =
    label.filter isBasic ++ (if (label.filter isBasic).isEmpty then [] else ['-']) ++
      distances label := rfl

theorem decode_encode (label : List Char) : decode (encode label) = some label := by
  have hbasic : (label.filter isBasic).all isBasic := by simp
  have hdigits : ∀ c ∈ (distances label).reverse, (c != '-') = true := by
    intro c hc
    obtain ⟨d, hd, rfl⟩ := exists_of_mem_distances (List.mem_reverse.1 hc)
    exact bne_iff_ne.2 (digitChar_ne_hyphen hd)
  by_cases hempty : label.filter isBasic = []
  · have hwritten : encode label = distances label := by simp [encode_eq, hempty]
    have htail : (distances label).reverse.takeWhile (· != '-') = (distances label).reverse :=
      List.takeWhile_eq_self_iff.2 hdigits
    have hread := placeFrom_distances label
    rw [hempty] at hread
    simpa [decode, hwritten, htail] using hread
  · have hwritten : encode label = label.filter isBasic ++ '-' :: distances label := by
      simp [encode_eq, hempty]
    have htail : (encode label).reverse.takeWhile (· != '-') = (distances label).reverse := by
      rw [hwritten, List.reverse_append, List.reverse_cons, List.append_assoc,
        List.takeWhile_append_of_pos hdigits]
      simp
    have hfront : (encode label).take ((encode label).length - (distances label).length - 1) =
        label.filter isBasic := by
      have hlength : (encode label).length - (distances label).length - 1 =
          (label.filter isBasic).length := by
        rw [hwritten, List.length_append, List.length_cons]
        omega
      rw [hlength, hwritten, List.take_left]
    rw [decode, htail, List.reverse_reverse, hfront, if_pos hbasic,
      if_neg (by simpa using hempty), placeFrom_distances]

theorem mem_placeFrom {bias place code : Nat} {first : Bool} {label cs label' : List Char}
    {c : Char} (h : placeFrom bias place code first label cs = some label') (hcode : firstCode ≤ code)
    (hc : c ∈ label') : c ∈ label ∨ firstCode ≤ c.toNat := by
  fun_induction placeFrom bias place code first label cs with
  | case1 =>
    cases h
    exact .inl hc
  | case2 => cases h
  | case3 bias place code first label d rest n after hread count next place' hvalid ih =>
    have hnext : firstCode ≤ next := Nat.le_trans hcode (Nat.le_add_right _ _)
    rcases ih h hnext with hmem | hbig
    · rcases List.mem_append.1 hmem with hmem | hmem
      · exact .inl (List.mem_of_mem_take hmem)
      · rcases List.mem_cons.1 hmem with rfl | hmem
        · exact .inr ((Utf8.toNat_ofNat hvalid).symm ▸ hnext)
        · exact .inl (List.mem_of_mem_drop hmem)
    · exact .inr hbig
  | case4 => cases h

/-- Reading adds no ASCII characters. -/
theorem mem_decode {cs label : List Char} {c : Char} (h : decode cs = some label) (hc : c ∈ label) :
    c ∈ cs ∨ firstCode ≤ c.toNat := by
  rw [decode] at h
  split at h
  · exact (mem_placeFrom h (Nat.le_refl _) hc).imp_left List.mem_of_mem_take
  · cases h

end FleetDesk.Domain.Punycode
