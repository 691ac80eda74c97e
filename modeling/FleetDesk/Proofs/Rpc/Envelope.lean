import FleetDesk.Proofs.Json.Decode
import FleetDesk.Rpc.Server

/-!
# What lines are decided to

A request is read from an object or, by the places of its fields, from a short array; so are the
parameters of a tool call (`Request.read_eq_ok`, `CallParams.read_eq_ok`). `decide_cases` and
`decideRequest_cases` say all that a line can be decided to, with what it takes.
-/

namespace FleetDesk.Rpc

open Decode

theorem Request.read_eq_ok {v : Json} {r : Request} : read v = .ok r ↔
    ∃ version method, shape.part? "jsonrpc" 0 v = some (.string version) ∧
      shape.part? "method" 2 v = some (.string method) ∧
      r = ⟨version, (shape.part? "id" 1 v).bind present, method,
        (shape.part? "params" 3 v).getD .null⟩ := by
  cases v with
  | object ms =>
    simp only [read, Shape.read, shape, List.foldlM_cons, List.foldlM_nil, Shape.fillNamed,
      Json.get?_object, Shape.part?]
    cases hversion : Json.member? "jsonrpc" ms <;> cases hmethod : Json.member? "method" ms <;>
      cases Json.member? "id" ms <;> cases Json.member? "params" ms <;>
      simp [bind_eq_ok_iff, text_eq_ok, hversion, hmethod, @eq_comm _ r, pure, Except.pure]
  | array items =>
    simp only [read, Shape.read, shape, Shape.part?]
    rcases items with _ | ⟨version, _ | ⟨id, _ | ⟨method, _ | ⟨params, _ | ⟨more, rest⟩⟩⟩⟩⟩ <;>
      simp [bind_eq_ok_iff, text_eq_ok, List.range_succ, Shape.fillPlaced, @eq_comm _ r, pure,
        Except.pure]
  | _ => simp [read, Shape.read, Shape.part?]

theorem CallParams.read_eq_ok {v : Json} {p : CallParams} : read v = .ok p ↔
    shape.Takes v ∧ ∃ name, (shape.part? "name" 0 v).getD (.string "") = .string name ∧
      p = ⟨name, (shape.part? "arguments" 1 v).bind present⟩ := by
  cases v with
  | object ms =>
    simp only [read, Shape.read, shape, List.foldlM_cons, List.foldlM_nil, Shape.fillNamed,
      Json.get?_object, Shape.part?]
    cases Json.member? "name" ms <;> cases Json.member? "arguments" ms <;>
      simp [bind_eq_ok_iff, text_eq_ok, @eq_comm _ p, pure, Except.pure, Shape.Takes]
  | array items =>
    simp only [read, Shape.read, shape, Shape.part?]
    rcases items with _ | ⟨name, _ | ⟨arguments, _ | ⟨more, rest⟩⟩⟩ <;>
      simp [bind_eq_ok_iff, text_eq_ok, List.range_succ, Shape.fillPlaced, @eq_comm _ p, pure,
        Except.pure, Shape.Takes]
  | _ => simp [read, Shape.read, Shape.Takes]

/-- The id that is given, null or not. -/
def givenId (v : Json) : Option Json := Request.shape.part? "id" 1 v

theorem Request.id_eq_none {v : Json} {r : Request} (h : read v = .ok r) :
    r.id = none ↔ givenId v = none ∨ givenId v = some .null := by
  obtain ⟨version, method, -, -, rfl⟩ := read_eq_ok.1 h
  change (givenId v).bind present = none ↔ _
  cases givenId v with
  | none => simp
  | some id => cases id <;> simp [present]

theorem Request.id_eq_some {v id : Json} {r : Request} (h : read v = .ok r) (hid : r.id = some id) :
    givenId v = some id := by
  obtain ⟨version, method, -, -, rfl⟩ := read_eq_ok.1 h
  change (givenId v).bind present = some id at hid
  cases hv : givenId v with
  | none => rw [hv] at hid; cases hid
  | some w =>
    rw [hv] at hid
    cases w <;> cases hid <;> rfl

/-- An id that is null is none. -/
theorem Request.id_ne_null {v : Json} {r : Request} (h : read v = .ok r) : r.id ≠ some .null := by
  intro hid
  have hnone := (id_eq_none h).2 (.inr (id_eq_some h hid))
  rw [hid] at hnone
  cases hnone

/-- The line holds a value, and the value a request. -/
def Decodes (line : String) (v : Json) (r : Request) : Prop :=
  Json.parse? (Text.trim line) = some v ∧ Request.read v = .ok r

theorem not_isBlankText_of_parse? {line : String} {v : Json}
    (h : Json.parse? (Text.trim line) = some v) : ¬ Text.isBlankText line := by
  have hempty : Json.parse? "" = none := by decide +kernel
  intro hblank
  rw [Text.isBlankText_iff_trim.1 hblank, hempty] at h
  cases h

theorem Decodes.inj {line : String} {v v' : Json} {q q' : Request} (h : Decodes line v q)
    (h' : Decodes line v' q') : v = v' ∧ q = q' := by
  obtain ⟨hv, hq⟩ := h
  obtain ⟨hv', hq'⟩ := h'
  obtain rfl := Option.some.inj (hv.symm.trans hv')
  exact ⟨rfl, Except.ok.inj (hq.symm.trans hq')⟩

theorem Decodes.parse?_ne_none {line : String} {v : Json} {q : Request} (h : Decodes line v q) :
    Json.parse? (Text.trim line) ≠ none := by
  rw [h.1]
  exact Option.some_ne_none v

theorem Decodes.not_isBlankText {line : String} {v : Json} {q : Request} (h : Decodes line v q) :
    ¬ Text.isBlankText line := not_isBlankText_of_parse? h.1

theorem decide_cases (line : String) :
    (Text.isBlankText line ∧ decide line = .silence) ∨
    (¬ Text.isBlankText line ∧ Json.parse? (Text.trim line) = none ∧
      decide line = .answer (.failure .null ⟨.parseError, "Parse error"⟩)) ∨
    (∃ v, Json.parse? (Text.trim line) = some v ∧ (∀ r, Request.read v ≠ .ok r) ∧
      decide line = .answer (.failure .null ⟨.invalidRequest, "Invalid request"⟩)) ∨
    ∃ v r, Decodes line v r ∧ decide line = decideRequest r := by
  by_cases hblank : Text.isBlankText line
  · exact .inl ⟨hblank, by rw [decide, if_pos (Text.isBlankText_iff_trim.1 hblank)]⟩
  have hdecide := decide.eq_def line
  rw [if_neg (Text.isBlankText_iff_trim.not.1 hblank)] at hdecide
  refine .inr ?_
  cases hv : Json.parse? (Text.trim line) with
  | none => exact .inl ⟨hblank, rfl, by rw [hdecide, hv]⟩
  | some v =>
    refine .inr ?_
    simp only [hv] at hdecide
    cases hr : Request.read v with
    | error m => exact .inl ⟨v, rfl, by simp [hr], by rw [hdecide, hr]⟩
    | ok r => exact .inr ⟨v, r, ⟨hv, hr⟩, by rw [hdecide, hr]⟩

theorem Decodes.decide_eq {line : String} {v : Json} {q : Request} (h : Decodes line v q) :
    decide line = decideRequest q := by
  rcases decide_cases line with ⟨hblank, -⟩ | ⟨-, hv, -⟩ | ⟨v', hv, hno, -⟩ | ⟨v', q', h', hd⟩
  · exact absurd hblank h.not_isBlankText
  · exact absurd hv h.parse?_ne_none
  · obtain rfl := Option.some.inj (h.1.symm.trans hv)
    exact absurd h.2 (hno q)
  · obtain ⟨rfl, rfl⟩ := h.inj h'
    exact hd

/-- A request is passed over, or answered or acted on under its id. -/
theorem decideRequest_cases (r : Request) :
    ((notificationStart <+: r.method.toList ∨ r.id = none) ∧ decideRequest r = .silence) ∨
    ∃ id, ¬ notificationStart <+: r.method.toList ∧ r.id = some id ∧
      ((∃ body, decideRequest r = .answer ⟨id, body⟩) ∨
        ∃ name args, r.method = "tools/call" ∧ decideCall r.params = .ok (name, args) ∧
          decideRequest r = .call id name args) := by
  have hdecide := decideRequest.eq_def r
  by_cases hn : notificationStart <+: r.method.toList
  · rw [if_pos (List.isPrefixOf_iff_prefix.2 hn)] at hdecide
    exact .inl ⟨.inl hn, hdecide⟩
  rw [if_neg (List.isPrefixOf_iff_prefix.not.2 hn)] at hdecide
  cases hid : r.id with
  | none => exact .inl ⟨.inr rfl, by rw [hdecide, hid]⟩
  | some id =>
    simp only [hid] at hdecide
    refine .inr ⟨id, hn, rfl, ?_⟩
    split at hdecide
    · exact .inl ⟨_, hdecide⟩
    split at hdecide
    · exact .inl ⟨_, hdecide⟩
    split at hdecide
    · exact .inl ⟨_, hdecide⟩
    split at hdecide
    · next hm =>
      split at hdecide
      · next name args hc => exact .inr ⟨name, args, hm, hc, hdecide⟩
      · exact .inl ⟨_, hdecide⟩
    · exact .inl ⟨_, hdecide⟩

end FleetDesk.Rpc
