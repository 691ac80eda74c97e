import FleetDesk.Proofs.Rpc.Replies
import FleetDesk.Proofs.Rpc.Session

/-!
# When there is a reply, and what it looks like

A line gets no reply exactly if it is blank, a notification, or a request without an id; then
nothing has happened either. A reply has the id of its request and one of result and error, and only
a request for `tools/call` has effects (`Rpc.Disciplined`). This holds of every line, in whatever
state a session is (`Session.handle_disciplined`).
-/

namespace FleetDesk

namespace Rpc

def Reply.errorCode? (r : Reply) : Option Json := (r.toJson.get? "error").bind (·.get? "code")

/-- Nothing is due to the request: it is a notification, or its id is absent or null. -/
def Unanswered (v : Json) (q : Request) : Prop :=
  notificationStart <+: q.method.toList ∨ givenId v = none ∨ givenId v = some .null

/-- What replies and effects are due to a line. -/
structure Disciplined (line : String) (reply : Option Reply) (events : List Event) : Prop where
  silent : reply = none ↔ Text.isBlankText line ∨ ∃ v q, Decodes line v q ∧ Unanswered v q
  quiet : reply = none → events = []
  body : ∀ r ∈ reply, (r.toJson.get? "result").isSome = !(r.toJson.get? "error").isSome
  id : ∀ r ∈ reply, ∀ v q, Decodes line v q → r.toJson.get? "id" = givenId v
  notJson : ∀ r ∈ reply, Json.parse? (Text.trim line) = none →
    r.toJson.get? "id" = some .null ∧ r.errorCode? = some (Json.int (-32700))
  notRequest : ∀ r ∈ reply, ∀ v, Json.parse? (Text.trim line) = some v →
    (∀ q, ¬ Decodes line v q) →
    r.toJson.get? "id" = some .null ∧ r.errorCode? = some (Json.int (-32600))
  acts : effects events ≠ [] → ∃ v q, Decodes line v q ∧ q.method = "tools/call"

theorem Reply.isSome_result (r : Reply) :
    (r.toJson.get? "result").isSome = !(r.toJson.get? "error").isSome := by
  obtain ⟨id, body⟩ := r
  cases body <;> rfl

theorem Reply.errorCode?_failure (id : Json) (e : Error) :
    (failure id e).errorCode? = some (Json.int e.code.number) := rfl

theorem exists_toolReply (id : Json) (tool : String) (result : Except Fault Json) :
    ∃ body, toolReply id tool result = ⟨id, body⟩ := by
  cases result <;> exact ⟨_, rfl⟩

theorem unanswered_iff {line : String} {v : Json} {q : Request} (h : Decodes line v q) :
    Unanswered v q ↔ notificationStart <+: q.method.toList ∨ q.id = none := by
  rw [Unanswered, Request.id_eq_none h.2]

namespace Disciplined

variable {line : String}

/-- Lines that nothing is due to. -/
theorem unanswered (h : Text.isBlankText line ∨ ∃ v q, Decodes line v q ∧ Unanswered v q) :
    Disciplined line none [] where
  silent := iff_of_true rfl h
  quiet _ := rfl
  body := by rintro r ⟨⟩
  id := by rintro r ⟨⟩
  notJson := by rintro r ⟨⟩
  notRequest := by rintro r ⟨⟩
  acts h := absurd rfl h

/-- Lines that are no requests. -/
theorem refused {e : Error} (hblank : ¬ Text.isBlankText line) (hno : ∀ v q, ¬ Decodes line v q)
    (hnone : Json.parse? (Text.trim line) = none → e.code = .parseError)
    (hsome : ∀ v, Json.parse? (Text.trim line) = some v → e.code = .invalidRequest) :
    Disciplined line (some (.failure .null e)) [] where
  silent := by
    refine iff_of_false (Option.some_ne_none _) ?_
    rintro (h | ⟨v, q, h, -⟩)
    · exact hblank h
    · exact hno v q h
  quiet _ := rfl
  body := by
    rintro r ⟨⟩
    exact Reply.isSome_result _
  id := by
    rintro r ⟨⟩ v q h
    exact absurd h (hno v q)
  notJson := by
    rintro r ⟨⟩ hv
    exact ⟨rfl, by rw [Reply.errorCode?_failure, hnone hv]; rfl⟩
  notRequest := by
    rintro r ⟨⟩ v hv -
    exact ⟨rfl, by rw [Reply.errorCode?_failure, hsome v hv]; rfl⟩
  acts h := absurd rfl h

/-- Requests that are answered. -/
theorem answered {v id : Json} {q : Request} {body : Body} {events : List Event}
    (h : Decodes line v q) (hn : ¬ notificationStart <+: q.method.toList) (hid : q.id = some id)
    (he : effects events ≠ [] → q.method = "tools/call") :
    Disciplined line (some ⟨id, body⟩) events where
  silent := by
    refine iff_of_false (Option.some_ne_none _) ?_
    rintro (hblank | ⟨v', q', h', hun⟩)
    · exact h.not_isBlankText hblank
    · obtain ⟨rfl, rfl⟩ := h.inj h'
      rw [unanswered_iff h, hid] at hun
      exact hun.elim hn (Option.some_ne_none id)
  quiet h := absurd h (Option.some_ne_none _)
  body := by
    rintro r ⟨⟩
    exact Reply.isSome_result _
  id := by
    rintro r ⟨⟩ v' q' h'
    obtain ⟨rfl, rfl⟩ := h.inj h'
    exact (Request.id_eq_some h.2 hid).symm
  notJson _ _ hv := absurd hv h.parse?_ne_none
  notRequest := by
    intro r _ v' hv hno
    obtain rfl := Option.some.inj (h.1.symm.trans hv)
    exact absurd h (hno q)
  acts he' := ⟨v, q, h, he he'⟩

end Disciplined

theorem handleLine_disciplined (w : World) (line : String) :
    Disciplined line (handleLine w line).1 (handleLine w line).2 := by
  rw [handleLine]
  rcases decide_cases line with ⟨hblank, hd⟩ | ⟨hblank, hv, hd⟩ | ⟨v, hv, hno, hd⟩ | ⟨v, q, h, hd⟩
  · rw [hd]
    exact .unanswered (.inl hblank)
  · rw [hd]
    refine .refused hblank (fun v q h => h.parse?_ne_none hv) (fun _ => rfl) fun v hv' => ?_
    rw [hv] at hv'
    cases hv'
  · rw [hd]
    refine .refused (not_isBlankText_of_parse? hv) (fun v' q h => ?_) (fun hv' => ?_)
      fun _ _ => rfl
    · obtain rfl := Option.some.inj (hv.symm.trans h.1)
      exact hno q h.2
    · rw [hv] at hv'
      cases hv'
  · rw [hd]
    rcases decideRequest_cases q with
      ⟨hun, hq⟩ | ⟨id, hn, hid, ⟨body, hq⟩ | ⟨name, args, hm, -, hq⟩⟩
    · rw [hq]
      exact .unanswered (.inr ⟨v, q, h, (unanswered_iff h).2 hun⟩)
    · rw [hq]
      exact .answered h hn hid fun he => absurd rfl he
    · let o := w.registry.execute w.callTime name args
      obtain ⟨body, hbody⟩ := exists_toolReply id name o.result
      rw [hq, perform, hbody]
      exact .answered h hn hid fun _ => hm

end Rpc

namespace Session

variable {σ : Type}

/-- Without a record, the trail is left alone. -/
theorem foldl_meet_of_effects_eq_nil {backend : Audit.Backend σ} (stamp : String)
    {events : List Event} (h : effects events = []) (t : Audit.Trail σ) :
    events.foldl (meet backend stamp) t = t := by
  induction events with
  | nil => rfl
  | cons e es ih =>
    cases e with
    | log entry => exact ih h
    | call c => cases h
    | audit r => cases h

/-- In every state of a session, a line is answered as is due to it; without effects, the trail is
as it was, its tally with it. -/
theorem handle_disciplined (backend : Audit.Backend σ) (s : Session σ) (turn : Turn) :
    ∃ reply events, (s.handle backend turn).log = s.log ++ [⟨turn, reply, events⟩] ∧
      Rpc.Disciplined turn.line reply events ∧
      (effects events = [] → (s.handle backend turn).trail = s.trail) := by
  refine ⟨_, _, handle_log s turn, Rpc.handleLine_disciplined turn.world turn.line, fun h => ?_⟩
  rw [handle_trail, foldl_meet_of_effects_eq_nil turn.stamp h]

end Session

end FleetDesk
