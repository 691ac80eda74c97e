import FleetDesk.Proofs.Rpc.Discipline
import FleetDesk.Proofs.Tool.Outcomes

/-!
# Which lines are requests

A line is refused as no request exactly if its value gives no text for the version or none for the
method; which version it is makes no difference, and the fields may come in an array, by their
places. The same goes for the parameters of a tool call (`Screened`). So a line without any member
can have a node deleted (`positional_line_deletes`).
-/

namespace FleetDesk.Rpc

/-- The value gives texts for the version and the method. -/
def Request.Shaped (v : Json) : Prop :=
  ∃ version method, shape.part? "jsonrpc" 0 v = some (.string version) ∧
    shape.part? "method" 2 v = some (.string method)

/-- An object or a short array, and if it gives a name, then as a text. -/
def CallParams.Shaped (v : Json) : Prop :=
  shape.Takes v ∧ ∃ name, (shape.part? "name" 0 v).getD (.string "") = .string name

theorem Request.exists_read_iff {v : Json} : (∃ q, read v = .ok q) ↔ Shaped v := by
  simp only [read_eq_ok, Shaped]
  constructor
  · rintro ⟨q, version, method, hversion, hmethod, -⟩
    exact ⟨version, method, hversion, hmethod⟩
  · rintro ⟨version, method, hversion, hmethod⟩
    exact ⟨_, version, method, hversion, hmethod, rfl⟩

theorem CallParams.exists_read_iff {v : Json} : (∃ p, read v = .ok p) ↔ Shaped v := by
  simp only [read_eq_ok, Shaped]
  constructor
  · rintro ⟨p, htakes, name, hname, -⟩
    exact ⟨htakes, name, hname⟩
  · rintro ⟨htakes, name, hname⟩
    exact ⟨_, htakes, name, hname, rfl⟩

/-- Refused without any effect. -/
def Refused (reply : Option Reply) (events : List Event) (id : Json) (code : ErrorCode) : Prop :=
  (∃ r ∈ reply, ∃ message, r.Refuses id ⟨code, message⟩) ∧ events = []

/-- What becomes of a line that holds a value. -/
structure Screened (line : String) (reply : Option Reply) (events : List Event) : Prop where
  refused : ∀ v, Json.parse? (Text.trim line) = some v → ¬ Request.Shaped v →
    Refused reply events .null .invalidRequest
  accepted : ∀ v, Json.parse? (Text.trim line) = some v → Request.Shaped v →
    ∀ r ∈ reply, r.toJson.get? "id" ≠ some .null
  callRefused : ∀ v q id, Decodes line v q → q.id = some id → q.method = "tools/call" →
    ¬ CallParams.Shaped q.params → Refused reply events id .invalidParams

theorem refuses_failure (id : Json) (e : Error) : (Reply.failure id e).Refuses id e :=
  ⟨rfl, rfl, _, rfl, rfl, rfl⟩

theorem decide_of_not_shaped {line : String} {v : Json}
    (hv : Json.parse? (Text.trim line) = some v) (h : ¬ Request.Shaped v) :
    decide line = .answer (.failure .null ⟨.invalidRequest, "Invalid request"⟩) := by
  rw [← Request.exists_read_iff] at h
  rcases decide_cases line with ⟨hblank, -⟩ | ⟨-, hv', -⟩ | ⟨v', hv', -, hd⟩ | ⟨v', q, hq, -⟩
  · exact absurd hblank (not_isBlankText_of_parse? hv)
  · rw [hv] at hv'
    cases hv'
  · exact hd
  · obtain rfl := Option.some.inj (hv.symm.trans hq.1)
    exact absurd ⟨q, hq.2⟩ h

theorem decideRequest_of_not_shaped {q : Request} {id : Json} (hid : q.id = some id)
    (hm : q.method = "tools/call") (hp : ¬ CallParams.Shaped q.params) :
    ∃ message, decideRequest q = .answer (.failure id ⟨.invalidParams, message⟩) := by
  rw [← CallParams.exists_read_iff] at hp
  cases hread : CallParams.read q.params with
  | ok p => exact absurd ⟨p, hread⟩ hp
  | error m =>
    refine ⟨"Invalid tools/call params: " ++ m.message, ?_⟩
    simp only [decideRequest_of_call hid hm, decideCall, hread]

theorem handleLine_screened (w : World) (line : String) :
    Screened line (handleLine w line).1 (handleLine w line).2 := by
  have hdue := handleLine_disciplined w line
  refine ⟨fun v hv hshape => ?_, ?_, fun v q id h hid hm hp => ?_⟩
  · rw [handleLine, decide_of_not_shaped hv hshape]
    exact ⟨⟨_, rfl, _, refuses_failure _ _⟩, rfl⟩
  · intro v hv hshape r hr hnull
    -- A null id is an id that is not answered.
    obtain ⟨q, hq⟩ := Request.exists_read_iff.2 hshape
    have hid : givenId v = some .null := by rw [← hdue.id r hr v q ⟨hv, hq⟩, hnull]
    have hnone := hdue.silent.2 (.inr ⟨v, q, ⟨hv, hq⟩, .inr (.inr hid)⟩)
    rw [hnone] at hr
    cases hr
  · obtain ⟨message, hq⟩ := decideRequest_of_not_shaped hid hm hp
    rw [handleLine, h.decide_eq, hq]
    exact ⟨⟨_, rfl, message, refuses_failure _ _⟩, rfl⟩

/-- A request by the places of its fields, with the parameters of its call in the same way. -/
def positionalLine : String :=
  "[\"2.0\",1,\"tools/call\",[\"delete_node\",\x7b\"ip\":\"10.0.0.7\"\x7d]]"

theorem positional_line_deletes :
    let answer := handleLine .unreachable positionalLine
    (Json.parse? (Text.trim positionalLine)).map Json.isObject = some false ∧
      ¬ Refused answer.1 answer.2 .null .invalidRequest ∧
      calls answer.2 = [.request (.delete "/app/nodes/10.0.0.7")] := by
  obtain ⟨id, args, hc, htest⟩ := exists_calls positionalLine .delete
    (fun args => (Delete.parse args).toOption = some "10.0.0.7") (by decide +kernel)
  rw [decide_eq_true_iff] at htest
  cases hip : Delete.parse args with
  | error c => rw [hip] at htest; cases htest
  | ok ip =>
    rw [hip] at htest
    cases htest
    have hcalls : calls (handleLine .unreachable positionalLine).2 =
        [.request (.delete "/app/nodes/10.0.0.7")] := by
      rw [calls_of_calls hc]
      exact (Delete.handle_eq hip .unreachable).2.1
    refine ⟨by decide +kernel, ?_, hcalls⟩
    rintro ⟨-, hnil⟩
    rw [hnil] at hcalls
    cases hcalls

end FleetDesk.Rpc
