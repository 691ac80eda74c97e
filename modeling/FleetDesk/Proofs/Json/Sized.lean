import FleetDesk.Json.Reader
import FleetDesk.Proofs.Decimal.Double
import FleetDesk.Proofs.Json.Members

/-!
# Sizes of numbers

Every integer in a value that is read from a text has at most 64 bits (`Json.sized_of_parse?`): what
a token gives is sized, and each step of the reader keeps that of its open containers. A sized
number that is positive is positive as a `Double` too (`Number.isPositive_toDouble`), so nothing is
lost to rounding. Any other number is read to the nearest `Double` as long as it has few digits
(`Numeral.number?_of_short`).
-/

namespace FleetDesk

/-- An integer of at most 64 bits, or no integer. -/
def Number.Sized : Number → Prop
  | .int n => fits n
  | .real _ => True

namespace Json

/-- All numbers in the value are sized. -/
inductive Sized : Json → Prop
  | null : Sized .null
  | bool (b : Bool) : Sized (.bool b)
  | number {n : Number} (h : n.Sized) : Sized (.number n)
  | string (s : String) : Sized (.string s)
  | array {items : List Json} (h : ∀ v ∈ items, Sized v) : Sized (.array items)
  | object {ms : List (String × Json)} (h : ∀ m ∈ ms, Sized m.2) : Sized (.object ms)

theorem mem_of_member? {key : String} {v : Json} {ms : List (String × Json)}
    (h : member? key ms = some v) : (key, v) ∈ ms := by
  induction ms with
  | nil => cases h
  | cons m ms ih =>
    obtain ⟨k, w⟩ := m
    rw [member?] at h
    split at h
    · next hk =>
      cases h
      subst hk
      exact List.mem_cons_self
    · exact List.mem_cons_of_mem _ (ih h)

theorem Sized.get? {v w : Json} {key : String} (h : v.Sized) (hw : v.get? key = some w) :
    w.Sized := by
  cases h with
  | object hms => exact hms _ (mem_of_member? hw)
  | _ => cases hw

theorem le_foldl_digits (ds : List Char) (n : Nat) :
    n ≤ ds.foldl (fun n d => 10 * n + digitValue d) n := by
  induction ds generalizing n with
  | nil => exact Nat.le_refl n
  | cons d ds ih =>
    have hstep := ih (10 * n + digitValue d)
    rw [List.foldl_cons]
    omega

/-- All digits are taken if the number that they write fits. -/
theorem takeDigits_eq {ds : List Char} {n : Nat}
    (h : (ds.foldl (fun n d => 10 * n + digitValue d) n : Nat) ≤ Number.maxUnsigned) :
    takeDigits n ds = (ds.foldl (fun n d => 10 * n + digitValue d) n, []) := by
  induction ds generalizing n with
  | nil => rfl
  | cons d ds ih =>
    have hle := le_foldl_digits ds (10 * n + digitValue d)
    rw [List.foldl_cons] at h ⊢
    rw [takeDigits, if_pos (by omega), ih h]

namespace Numeral

variable {x : Numeral}

/-- The digits of a numeral without its point. -/
def digits (x : Numeral) : List Char := x.whole ++ x.fraction.getD []

/-- The power of ten that the digits are scaled by. -/
def scale (x : Numeral) : Int := x.power.getD 0 - (x.fraction.getD []).length

theorem parts_eq (h : (digitsValue x.digits : Int) ≤ Number.maxUnsigned) :
    x.parts = (digitsValue x.digits, x.scale) := by
  have hdigits : digitsValue x.digits =
      (x.fraction.getD []).foldl (fun n d => 10 * n + digitValue d) (digitsValue x.whole) := by
    rw [digits, digitsValue, List.foldl_append]
    rfl
  rw [hdigits] at h
  have hle := le_foldl_digits (x.fraction.getD []) (digitsValue x.whole)
  have hwhole : takeDigits 0 x.whole = (digitsValue x.whole, []) :=
    takeDigits_eq ((Int.ofNat_le.2 hle).trans h)
  have hfraction := takeDigits_eq h
  rw [← hdigits] at hfraction
  simp only [parts, hwhole, hfraction, scale, List.length_nil, Nat.sub_zero, Nat.cast_zero,
    Int.add_zero]

/-- A number that is not written as an integer is read to the nearest one if it has few digits: at
most 53 bits of them, and a power of ten between -22 and 22. -/
theorem number?_of_short (hreal : x.fraction.isSome ∨ x.power.isSome)
    (hdigits : digitsValue x.digits < 2 ^ 53) (hscale : x.scale.natAbs ≤ 22) :
    x.number? = (Double.ofDecimal? x.negative (digitsValue x.digits) x.scale).map .real := by
  have hfits : (digitsValue x.digits : Int) ≤ Number.maxUnsigned := by
    rw [Number.maxUnsigned]
    omega
  have hinteger : (x.fraction.isNone && x.power.isNone) = false := by
    rcases hreal with h | h <;> simp [Option.isNone_eq_false_iff.2 h]
  simp only [number?, hinteger, Bool.false_and, parts_eq hfits, Bool.false_eq_true, if_false]
  rw [Double.ofParts?_eq_ofDecimal? x.negative hdigits hscale]

end Numeral

/-! ### Tokens -/

def Token.Sized : Token → Prop
  | .number n => n.Sized
  | _ => True

theorem Numeral.sized_of_number? {x : Numeral} {n : Number} (h : x.number? = some n) :
    n.Sized := by
  simp only [Numeral.number?] at h
  generalize (if x.negative then -(digitsValue x.whole : Int) else digitsValue x.whole) = i at h
  split at h
  · next hfits =>
    cases h
    simp only [Bool.and_eq_true] at hfits
    exact hfits.1.2
  · obtain ⟨y, -, rfl⟩ := Option.map_eq_some_iff.1 h
    trivial

theorem sized_of_word? {word cs after : List Char} {token t : Token} (h : token.Sized)
    (ht : word? word token cs = some (t, after)) : t.Sized := by
  unfold word? at ht
  split at ht <;> cases ht
  exact h

theorem sized_of_next? {cs after : List Char} {t : Token} (h : next? cs = some (t, after)) :
    t.Sized := by
  unfold next? at h
  split at h
  · cases h
  repeat' split at h
  all_goals first
    | (cases h; trivial)
    | exact sized_of_word? (by trivial) h
    | skip
  · obtain ⟨⟨s, rest⟩, -, hs⟩ := Option.map_eq_some_iff.1 h
    cases hs
    trivial
  · simp only [Option.bind_eq_bind, Option.bind_eq_some_iff, Option.some.injEq,
      Prod.mk.injEq] at h
    obtain ⟨⟨numeral, rest⟩, -, n, hn, rfl, -⟩ := h
    exact Numeral.sized_of_number? hn

theorem sized_of_tokensFrom {acc ts : List Token} {cs : List Char} (hacc : ∀ t ∈ acc, t.Sized)
    (h : tokensFrom acc cs = some ts) : ∀ t ∈ ts, t.Sized := by
  fun_induction tokensFrom acc cs with
  | case1 acc cs hd =>
    cases h
    simpa using hacc
  | case2 acc cs c rest hd t after hn ih =>
    refine ih (fun u hu => ?_) h
    rcases List.mem_cons.1 hu with rfl | hu
    · exact sized_of_next? hn
    · exact hacc u hu
  | case3 acc cs c rest hd hn => cases h

/-! ### The reader -/

def Frame.Sized : Frame → Prop
  | .items done => ∀ v ∈ done, v.Sized
  | .member done _ => ∀ m ∈ done, m.2.Sized

/-- All that has been read so far is sized. -/
def ReadState.Sized : ReadState → Prop
  | .want stack | .opened stack => ∀ f ∈ stack, f.Sized
  | .entry stack done _ | .named stack done _ =>
    (Frame.member done "").Sized ∧ ∀ f ∈ stack, f.Sized
  | .got stack v => v.Sized ∧ ∀ f ∈ stack, f.Sized

theorem sized_insertMember {key : String} {v : Json} {ms : List (String × Json)} (hv : v.Sized)
    (h : ∀ m ∈ ms, m.2.Sized) : ∀ m ∈ insertMember key v ms, m.2.Sized := by
  intro m hm
  rcases eq_or_mem_of_mem_insertMember hm with rfl | hm
  · exact hv
  · exact h m hm

theorem ReadState.sized_start {stack : List Frame} {t : Token} {s : ReadState}
    (hstack : ∀ f ∈ stack, f.Sized) (ht : t.Sized) (h : start stack t = some s) : s.Sized := by
  cases t <;> simp only [start] at h
  case openArray =>
    split at h <;> cases h
    exact hstack
  case openObject =>
    split at h <;> cases h
    exact ⟨fun m hm => absurd hm List.not_mem_nil, hstack⟩
  all_goals cases h
  case null => exact ⟨.null, hstack⟩
  case bool b => exact ⟨.bool b, hstack⟩
  case number n => exact ⟨.number ht, hstack⟩
  case string s => exact ⟨.string s, hstack⟩

theorem ReadState.sized_step {s s' : ReadState} {t : Token} (hs : s.Sized) (ht : t.Sized)
    (h : s.step t = some s') : s'.Sized := by
  unfold step at h
  split at h
  · exact sized_start hs ht h
  · cases h
    exact ⟨.array fun v hv => absurd hv List.not_mem_nil, hs⟩
  · refine sized_start (List.forall_mem_cons.2 ⟨?_, hs⟩) ht h
    exact fun v hv => absurd hv List.not_mem_nil
  · cases h
    exact ⟨.object fun m hm => absurd hm List.not_mem_nil, hs.2⟩
  · cases h
    exact hs
  · cases h
    exact List.forall_mem_cons.2 hs
  · cases h
    obtain ⟨hdone, hstack⟩ := List.forall_mem_cons.1 hs.2
    exact List.forall_mem_cons.2 ⟨List.forall_mem_cons.2 ⟨hs.1, hdone⟩, hstack⟩
  · cases h
    obtain ⟨hdone, hstack⟩ := List.forall_mem_cons.1 hs.2
    refine ⟨.array fun v hv => ?_, hstack⟩
    exact List.forall_mem_cons.2 ⟨hs.1, hdone⟩ v (List.mem_reverse.1 hv)
  · cases h
    obtain ⟨hdone, hstack⟩ := List.forall_mem_cons.1 hs.2
    exact ⟨sized_insertMember hs.1 hdone, hstack⟩
  · cases h
    obtain ⟨hdone, hstack⟩ := List.forall_mem_cons.1 hs.2
    exact ⟨.object (sized_insertMember hs.1 hdone), hstack⟩
  · cases h

theorem ReadState.sized_foldlM {s s' : ReadState} {ts : List Token} (hs : s.Sized)
    (hts : ∀ t ∈ ts, t.Sized) (h : ts.foldlM step s = some s') : s'.Sized := by
  induction ts generalizing s with
  | nil =>
    cases h
    exact hs
  | cons t ts ih =>
    rw [List.foldlM_cons] at h
    obtain ⟨u, hu, h⟩ := Option.bind_eq_some_iff.1 h
    obtain ⟨ht, hts⟩ := List.forall_mem_cons.1 hts
    exact ih (sized_step hs ht hu) hts h

theorem sized_of_parse? {text : String} {v : Json} (h : parse? text = some v) : v.Sized := by
  obtain ⟨ts, htokens, hv⟩ := Option.bind_eq_some_iff.1 h
  have hts := sized_of_tokensFrom (fun t ht => absurd ht List.not_mem_nil) htokens
  unfold ofTokens? at hv
  split at hv
  · next hrun =>
    cases hv
    have hstart : (ReadState.want []).Sized := fun f hf => absurd hf List.not_mem_nil
    exact (ReadState.sized_foldlM hstart hts hrun).1
  · cases hv

end Json

end FleetDesk
