import FleetDesk.Proofs.Json.Flat

/-!
# Compact texts stay on one line

The compact text of a value holds no control character at any depth (`plain_compactChars`): texts
are written with escapes in their place, and nothing else that is written needs one. So it holds no
line feed (`lineFeed_notMem_compact`).
-/

namespace FleetDesk.Json

/-- No control characters. -/
def Plain (cs : List Char) : Prop := ∀ c ∈ cs, 0x20 ≤ c.toNat

@[simp] theorem plain_nil : Plain [] := by simp [Plain]

@[simp] theorem plain_cons {c : Char} {cs : List Char} :
    Plain (c :: cs) ↔ 0x20 ≤ c.toNat ∧ Plain cs := List.forall_mem_cons

@[simp] theorem plain_append {cs ds : List Char} : Plain (cs ++ ds) ↔ Plain cs ∧ Plain ds :=
  List.forall_mem_append

theorem Plain.of_subset {cs ds : List Char} (h : Plain ds) (hs : ∀ c ∈ cs, c ∈ ds) : Plain cs :=
  fun c hc => h c (hs c hc)

theorem plain_joinWith {sep : List Char} {parts : List (List Char)} (hs : Plain sep)
    (h : ∀ p ∈ parts, Plain p) : Plain (joinWith sep parts) := by
  induction parts with
  | nil => simp [joinWith]
  | cons p parts ih =>
    have hp := h p List.mem_cons_self
    have hparts := fun q hq => h q (List.mem_cons_of_mem _ hq)
    cases parts with
    | nil => simpa [joinWith] using hp
    | cons q parts => simpa [joinWith, hp, hs] using ih hparts

/-! ### Texts -/

theorem plain_escapeChar (c : Char) : Plain (escapeChar c) := by
  have hhex : ∀ n < 16, 0x20 ≤ (hexDigit n).toNat := by decide
  unfold escapeChar
  iterate 7
    split
    · simp
  split
  · next h => simp [hhex (c.toNat / 16) (by omega), hhex (c.toNat % 16) (by omega)]
  · next h => simpa using h

theorem plain_quote (s : String) : Plain (quote s) := by
  have hescaped : Plain (s.toList.flatMap escapeChar) := by
    intro c hc
    obtain ⟨d, -, hd⟩ := List.mem_flatMap.1 hc
    exact plain_escapeChar d c hd
  simpa [quote] using hescaped

/-! ### Numbers -/

theorem plain_of_isDigit {ds : List Char} (h : ∀ c ∈ ds, c.isDigit) : Plain ds := by
  intro c hc
  have hdigit := h c hc
  simp only [Char.isDigit, Bool.and_eq_true, decide_eq_true_eq, ge_iff_le,
    UInt32.le_iff_toNat_le] at hdigit
  exact Nat.le_trans (by decide) hdigit.1

theorem plain_decimalDigits (n : Nat) : Plain (decimalDigits n) :=
  plain_of_isDigit fun _ => isDigit_of_mem_decimalDigits

theorem plain_intDigits (n : Int) : Plain (intDigits n) := by
  unfold intDigits
  split <;> simp [plain_decimalDigits]

theorem plain_replicate_zero (n : Nat) : Plain (List.replicate n '0') := by
  intro c hc
  rw [List.eq_of_mem_replicate hc]
  decide

theorem plain_placeDigits {ds : List Char} (h : Plain ds) (point : Int) :
    Plain (placeDigits ds point) := by
  have htake : ∀ n, Plain (ds.take n) := fun n => h.of_subset fun _ => List.mem_of_mem_take
  have hdrop : ∀ n, Plain (ds.drop n) := fun n => h.of_subset fun _ => List.mem_of_mem_drop
  unfold placeDigits
  split
  · simp only
    split
    · simp [h, plain_replicate_zero]
    · simp [htake, hdrop]
  split
  · simp [h, plain_replicate_zero]
  · have hsign : ∀ n : Int, 0x20 ≤ (if n < 0 then '-' else '+').toNat := by
      intro n
      split <;> decide
    simp only [plain_append, plain_cons, plain_decimalDigits, hsign, and_true]
    refine ⟨?_, by decide⟩
    split
    · simpa using h
    · exact h

theorem plain_doubleDigits (x : Double) : Plain (doubleDigits x) := by
  have hdigits : Plain x.shortest.significant.1 :=
    (plain_decimalDigits x.shortest.digits).of_subset fun c hc =>
      List.mem_reverse.1 ((List.dropWhile_suffix _).mem (List.mem_reverse.1 hc))
  have hzero : Plain "0.0".toList := by simp
  have hunsigned : Plain (if x.isZero then "0.0".toList else
      placeDigits x.shortest.significant.1 x.shortest.significant.2) := by
    split
    · exact hzero
    · exact plain_placeDigits hdigits _
  unfold doubleDigits
  simp only
  split
  · exact plain_cons.2 ⟨by decide, hunsigned⟩
  · exact hunsigned

theorem plain_numberChars (n : Number) : Plain (numberChars n) := by
  cases n with
  | int n => exact plain_intDigits n
  | real x => exact plain_doubleDigits x

/-! ### Values -/

mutual

theorem plain_compactChars : ∀ v : Json, Plain (compactChars v)
  | .null => by simp [compactChars]
  | .bool true => by simp [compactChars]
  | .bool false => by simp [compactChars]
  | .number n => plain_numberChars n
  | .string s => plain_quote s
  | .array items => by
    simpa [compactChars] using plain_joinWith (by simp) (plain_compactItems items)
  | .object members => by
    simpa [compactChars] using plain_joinWith (by simp) (plain_compactMembers members)

theorem plain_compactItems : ∀ items : List Json, ∀ p ∈ compactItems items, Plain p
  | [] => by simp [compactItems]
  | v :: vs => by
    simpa [compactItems] using ⟨plain_compactChars v, plain_compactItems vs⟩

theorem plain_compactMembers :
    ∀ members : List (String × Json), ∀ p ∈ compactMembers members, Plain p
  | [] => by simp [compactMembers]
  | (k, v) :: ms => by
    simpa [compactMembers, plain_quote] using ⟨plain_compactChars v, plain_compactMembers ms⟩

end

theorem lineFeed_notMem_compact (v : Json) : '\n' ∉ v.compact.toList := by
  intro h
  rw [compact, String.toList_ofList] at h
  exact absurd (plain_compactChars v '\n' h) (by decide)

end FleetDesk.Json
