import FleetDesk.Decimal.Port
import FleetDesk.Json.Token
import FleetDesk.Proofs.Redaction.Classes

/-!
# Which texts are port numbers

`WritesPort` says in plain terms which text writes which port, and `port?` reads just these
(`port?_eq_some`).
-/

namespace FleetDesk

/-- Decimal digits, with a plus sign before them or without, that write a port. -/
structure WritesPort (s : String) (p : Nat) : Prop where
  le_max : p ≤ maxPort
  digits : ∃ ds, (s.toList = ds ∨ s.toList = '+' :: ds) ∧ ds ≠ [] ∧ (∀ d ∈ ds, d.isDigit) ∧
    Json.digitsValue ds = p

theorem digitIn?_ten (c : Char) :
    Text.digitIn? 10 c = if c.isDigit then some (c.toNat - '0'.toNat) else none := by
  rw [Text.digitIn?, Text.hexDigit?]
  by_cases hc : c.isDigit
  · have hvalue : c.toNat - 48 < 10 := by
      have hrange := Text.isDigit_iff.1 hc
      omega
    simp [hc, hvalue]
  · simp only [if_neg hc]
    -- Letters stand for ten and more.
    split
    · simp
    · split <;> simp

theorem foldlM_digits {cs : List Char} {n m : Nat} :
    cs.foldlM (fun n c => (Text.digitIn? 10 c).map (10 * n + ·)) n = some m ↔
      (∀ c ∈ cs, c.isDigit) ∧ cs.foldl (fun n c => 10 * n + (c.toNat - '0'.toNat)) n = m := by
  induction cs generalizing n with
  | nil => simp
  | cons c cs ih =>
    rw [List.foldlM_cons, digitIn?_ten, List.forall_mem_cons, List.foldl_cons]
    cases hc : c.isDigit with
    | false => simp
    | true => simpa using ih

theorem decimal?_eq_some {cs : List Char} {n : Nat} : decimal? cs = some n ↔
    cs ≠ [] ∧ (∀ c ∈ cs, c.isDigit) ∧ Json.digitsValue cs = n := by
  cases cs with
  | nil => simp [decimal?]
  | cons c cs => exact foldlM_digits.trans (and_iff_right (List.cons_ne_nil c cs)).symm

theorem port?_eq_some {s : String} {p : Nat} : port? s = some p ↔ WritesPort s p := by
  rw [port?, Option.filter_eq_some_iff, decide_eq_true_iff]
  constructor
  · rintro ⟨hvalue, hle⟩
    split at hvalue
    · next cs hs => exact ⟨hle, cs, .inr hs, decimal?_eq_some.1 hvalue⟩
    · exact ⟨hle, _, .inl rfl, decimal?_eq_some.1 hvalue⟩
  · rintro ⟨hle, ds, hs, hdigits⟩
    refine ⟨?_, hle⟩
    split
    · next cs hplus =>
      rcases hs with hs | hs
      · -- A plus sign is no digit.
        have hmem : '+' ∈ ds := by
          rw [← hs, hplus]
          exact List.mem_cons_self
        exact absurd (hdigits.2.1 '+' hmem) (by decide)
      · obtain rfl : cs = ds := (List.cons.inj (hplus.symm.trans hs)).2
        exact decimal?_eq_some.2 hdigits
    · next hplus =>
      rcases hs with hs | hs
      · rw [hs]
        exact decimal?_eq_some.2 hdigits
      · exact absurd hs (hplus ds)

end FleetDesk
