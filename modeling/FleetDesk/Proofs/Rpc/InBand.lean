import FleetDesk.Proofs.Json.Flat
import FleetDesk.Proofs.Rpc.Replies
import FleetDesk.Proofs.Rpc.Session
import FleetDesk.Proofs.Tool.Outcomes

/-!
# Failures are answers

A tool that acts on a node or on the fleet answers every request that it accepts with an object, and
the object says whether the remote side did what was asked: `Exec.Tells`, `Ping.Tells` and
`Delete.Tells` name the outcomes that lead to each of its forms. Only a list that cannot be had is
an error of the channel (`Rpc.InBand`). This holds of every line of a session, whatever becomes of
its record (`Session.run_in_band`).
-/

namespace FleetDesk

/-- Latencies and exit codes fit 64 bits. -/
structure World.Worded (w : World) : Prop where
  latency : ∀ host n, w.probe host = .ok n → Number.fits n
  exitCode : ∀ c o, w.run c = .ok o → Number.fits o.exitCode

/-! ### Running a command -/

namespace Exec

/-- One of the calls gave this output. -/
def Returned (w : World) (calls : List Call) (o : Remote.Output) : Prop :=
  ∃ c, Call.run c ∈ calls ∧ w.run c = .ok o

def Failed (w : World) (calls : List Call) : Prop :=
  ∃ c f, Call.run c ∈ calls ∧ w.run c = .error f

/-- What the status says of the calls. -/
structure Tells (w : World) (args : Json) (calls : List Call) (v : Json) : Prop where
  sshError : v.get? "status" = some (.string "ssh_error") ↔
    Failed w calls ∨ ScriptUnreadable w args
  timeout : v.get? "status" = some (.string "timeout") ↔
    ∃ o, Returned w calls o ∧ o.exitCode = -1
  success : v.get? "status" = some (.string "success") ↔
    ∃ o, Returned w calls o ∧ o.exitCode ≠ -1

theorem Response.get?_status (r : Response) : r.toJson.get? "status" = some (.string r.status) := by
  cases r <;> simp [toJson, members, reportMembers, Json.get?_ofMembers]

def Response.exitCode : Response → Int
  | success report | timeout report => report.exitCode
  | sshError _ => Remote.timeoutExitCode

theorem Response.scalar_of_mem_members {r : Response} (h : Number.fits r.exitCode) :
    ∀ m ∈ r.members, Json.Scalar m.2 := by
  have hcode : Json.Scalar (Json.int r.exitCode) := .int h
  cases r <;>
    simpa [members, reportMembers, Json.Scalar.bool, Json.Scalar.string, exitCode] using hcode

theorem Response.ofOutput_cases (o : Remote.Output) :
    (o.exitCode = -1 ∧ ofOutput o = timeout (.ofOutput o)) ∨
      (o.exitCode ≠ -1 ∧ ofOutput o = success (.ofOutput o)) := by
  rw [ofOutput]
  by_cases h : o.exitCode = -1 <;> simp [h, Remote.Output.timedOut, Remote.timeoutExitCode]

theorem Response.exitCode_ofOutput (o : Remote.Output) : (ofOutput o).exitCode = o.exitCode := by
  rcases ofOutput_cases o with ⟨-, h⟩ | ⟨-, h⟩ <;> rw [h] <;> rfl

theorem fits_timeoutExitCode : Number.fits Remote.timeoutExitCode := by decide

theorem fits_exitCode {w : World} (hw : w.Worded) (c : Remote.Command) :
    Number.fits (Response.ofResult (w.run c)).exitCode := by
  cases hrun : w.run c with
  | error f => exact fits_timeoutExitCode
  | ok o =>
    rw [Response.ofResult, Response.exitCode_ofOutput]
    exact hw.exitCode c o hrun

theorem tells_unreadable {w : World} {args : Json} (h : ScriptUnreadable w args) (why : String) :
    Tells w args [] (Response.sshError why).toJson := by
  constructor <;> simp [Response.get?_status, Response.status, Returned, h]

theorem tells_run {w : World} {args : Json} (h : ¬ ScriptUnreadable w args) (c : Remote.Command) :
    Tells w args [.run c] (Response.ofResult (w.run c)).toJson := by
  cases hrun : w.run c with
  | error f =>
    constructor <;>
      simp [Response.get?_status, Response.ofResult, Response.status, Returned, Failed, h, hrun]
  | ok o =>
    rcases Response.ofOutput_cases o with ⟨hcode, ho⟩ | ⟨hcode, ho⟩ <;> constructor <;>
      simp [Response.get?_status, Response.ofResult, ho, Response.status, Returned, Failed, h, hrun,
        hcode]

theorem tells_handle {args : Json} {r : Request} (h : parse args = .ok r) (w : World) :
    ∃ response : Response, (handle w args).result = .ok response.toJson ∧
      (w.Worded → Number.fits response.exitCode) ∧
      Tells w args (calls (handle w args).events) response.toJson := by
  obtain ⟨response, hresult, -, hcases⟩ := handle_cases h w
  refine ⟨response, hresult, ?_⟩
  rcases hcases with ⟨why, hc, hcalls, rfl⟩ | ⟨c, hc, hcalls, rfl⟩
  · have hunreadable : ScriptUnreadable w args := (scriptUnreadable_iff h).2 ⟨why, hc⟩
    rw [hcalls]
    exact ⟨fun _ => fits_timeoutExitCode, tells_unreadable hunreadable why⟩
  · have hreadable : ¬ ScriptUnreadable w args := by
      rw [scriptUnreadable_iff h, hc]
      rintro ⟨why, hwhy⟩
      cases hwhy
    rw [hcalls]
    exact ⟨fun hw => fits_exitCode hw c, tells_run hreadable c⟩

theorem parse?_toJson {r : Response} (h : Number.fits r.exitCode) :
    Json.parse? r.toJson.compact = some r.toJson :=
  Json.parse?_compact_ofMembers (Response.scalar_of_mem_members h)

end Exec

/-! ### Asking whether a node can be reached -/

namespace Ping

/-- One of the calls reached its host. -/
def Reached (w : World) (calls : List Call) (latency : Nat) : Prop :=
  ∃ host, Call.probe host ∈ calls ∧ w.probe host = .ok latency

/-- What the response says of the calls. -/
structure Tells (w : World) (calls : List Call) (v : Json) : Prop where
  reachable : ∀ latency, (v.get? "reachable" = some (.bool true) ∧
    v.get? "latencyMs" = some (Json.nat latency) ∧ v.get? "error" = none) ↔
      Reached w calls latency
  unreachable : (∃ error, v.get? "reachable" = some (.bool false) ∧
    v.get? "error" = some (.string error) ∧ v.get? "latencyMs" = none) ↔
      ∀ latency, ¬ Reached w calls latency

theorem nat_inj {m n : Nat} : Json.nat m = Json.nat n ↔ m = n := by
  simp only [Json.nat, Json.int, Json.number.injEq, Number.int.injEq]
  exact Int.ofNat_inj

theorem isObject_toJson (r : Response) : r.toJson.isObject := by cases r <;> rfl

theorem tells_probe (w : World) (ip : String) :
    Tells w [.probe ip] (Response.ofProbe (w.probe ip)).toJson := by
  cases h : w.probe ip <;> constructor <;>
    simp [Response.ofProbe, Response.toJson, Json.get?_ofMembers, Reached, h, nat_inj]

theorem parse?_toJson {w : World} (hw : w.Worded) (ip : String) :
    let v := (Response.ofProbe (w.probe ip)).toJson
    Json.parse? v.compact = some v := by
  intro v
  cases h : w.probe ip with
  | error f =>
    simp only [v, h, Response.ofProbe, Response.toJson]
    exact Json.parse?_compact_ofMembers (by simp [Json.Scalar.bool, Json.Scalar.string])
  | ok latency =>
    have hlatency : Json.Scalar (Json.nat latency) := .int (hw.latency ip latency h)
    simp only [v, h, Response.ofProbe, Response.toJson]
    exact Json.parse?_compact_ofMembers (by simpa [Json.Scalar.bool] using hlatency)

end Ping

/-! ### Deleting the record of a node -/

namespace Delete

/-- One of the calls was answered with the code of success. -/
def Granted (w : World) (calls : List Call) : Prop :=
  ∃ r answer, Call.request r ∈ calls ∧ w.fleet r = .ok answer ∧
    answer.get? "code" = some (Json.int 0)

/-- What the response says of the calls. -/
structure Tells (w : World) (calls : List Call) (v : Json) : Prop where
  deleted : (v.get? "deleted" = some (.bool true) ∧ v.get? "error" = none) ↔ Granted w calls
  refused : (∃ error, v.get? "deleted" = some (.bool false) ∧
    v.get? "error" = some (.string error)) ↔ ¬ Granted w calls

theorem eq_int_of_signed? {n : Number} {i : Int} (h : n.signed? = some i) : n = .int i := by
  cases n with
  | int m =>
    simp only [Number.signed?, Option.ite_none_right_eq_some, Option.some.injEq] at h
    rw [h.2]
  | real x => cases h

theorem eq_number_of_number? {v : Json} {n : Number} (h : v.number? = some n) : v = .number n := by
  cases v <;> cases h
  rfl

theorem refusal?_eq_none {answer : Json} :
    refusal? answer = none ↔ answer.get? "code" = some (Json.int 0) := by
  unfold refusal?
  constructor
  · intro h
    split at h
    · next code hcode =>
      obtain ⟨n, hn, hsigned⟩ := Option.bind_eq_some_iff.1 hcode
      obtain ⟨v, hv, hnumber⟩ := Option.bind_eq_some_iff.1 hn
      rw [hv, eq_number_of_number? hnumber, eq_int_of_signed? hsigned]
      split at h
      · next hzero => rw [hzero]; rfl
      · cases h
    · cases h
  · intro h
    rw [h]
    rfl

theorem outcome_eq_none {w : World} {ip : String} :
    outcome (w.fleet (request ip)) = none ↔ Granted w [.request (request ip)] := by
  cases h : w.fleet (request ip) with
  | error f => simp [outcome, Granted, h]
  | ok answer => simp [outcome, Granted, h, refusal?_eq_none]

theorem tells_request (w : World) (ip : String) : Tells w [.request (request ip)]
    (Response.toJson ⟨ip, outcome (w.fleet (request ip))⟩) := by
  have hgranted : outcome (w.fleet (request ip)) = none ↔ Granted w [.request (request ip)] :=
    outcome_eq_none
  cases h : outcome (w.fleet (request ip)) <;> rw [h] at hgranted <;> constructor <;>
    simp [← hgranted, Response.toJson, Response.deleted, Json.get?_ofMembers]

theorem parse?_toJson (r : Response) : Json.parse? r.toJson.compact = some r.toJson := by
  refine Json.parse?_compact_ofMembers ?_
  cases r.error <;> simp [Json.Scalar.bool, Json.Scalar.string]

end Delete

/-! ### Lines -/

namespace Rpc

/-- The reply delivers the object `v` as its only text, and the text reads back as `v`. -/
structure Carries (w : World) (reply : Option Reply) (id v : Json) : Prop where
  delivered : Delivered reply id v.compact
  isObject : v.isObject
  parses : w.Worded → Json.parse? v.compact = some v

/-- How a line that calls a tool is answered. -/
structure InBand (w : World) (line : String) (reply : Option Reply) (events : List Event) :
    Prop where
  exec : ∀ id args, Calls line id .exec args → Tool.exec.Accepts args →
    ∃ v, Carries w reply id v ∧ Exec.Tells w args (calls events) v
  ping : ∀ id args, Calls line id .ping args → Tool.ping.Accepts args →
    ∃ v, Carries w reply id v ∧ Ping.Tells w (calls events) v
  delete : ∀ id args, Calls line id .delete args → Tool.delete.Accepts args →
    ∃ v, Carries w reply id v ∧ Delete.Tells w (calls events) v
  list : ∀ id args filter, Calls line id .list args → Listing.parse args = .ok filter →
    ((∃ r e, reply = some r ∧ r.Refuses id e) ↔ ∃ f, Listing.Fails w filter f) ∧
    (∀ f, Listing.Fails w filter f →
      ∃ r, reply = some r ∧ r.Refuses id (.ofFault Tool.list.name f)) ∧
    ((∀ f, ¬ Listing.Fails w filter f) → ∃ items, Delivered reply id (Json.array items).pretty)

theorem handleLine_inBand (w : World) (line : String) :
    InBand w line (handleLine w line).1 (handleLine w line).2 := by
  refine ⟨?_, ?_, ?_, ?_⟩
  · rintro id args hc ⟨r, hr⟩
    obtain ⟨response, hv, hfits, ht⟩ := Exec.tells_handle hr w
    refine ⟨_, ⟨delivered_of_result hc (by simp) hv, rfl,
      fun hw => Exec.parse?_toJson (hfits hw)⟩, ?_⟩
    rw [calls_of_calls hc]
    exact ht
  · rintro id args hc ⟨ip, hip⟩
    obtain ⟨hv, hcalls, -⟩ := Ping.handle_eq hip w
    refine ⟨_, ⟨delivered_of_result hc (by simp) hv, Ping.isObject_toJson _,
      fun hw => Ping.parse?_toJson hw ip⟩, ?_⟩
    rw [calls_of_calls hc, Tool.handle, hcalls]
    exact Ping.tells_probe w ip
  · rintro id args hc ⟨ip, hip⟩
    obtain ⟨hv, hcalls, -⟩ := Delete.handle_eq hip w
    refine ⟨_, ⟨delivered_of_result hc (by simp) hv, rfl, fun _ => Delete.parse?_toJson _⟩, ?_⟩
    rw [calls_of_calls hc, Tool.handle, hcalls]
    exact Delete.tells_request w ip
  · intro id args filter hc hfilter
    rcases (Listing.handle_cases hfilter w).2 with ⟨f, hf, hresult, -⟩ | ⟨nodes, hnone, hresult, -⟩
    · have hrefuses : ∃ r, (handleLine w line).1 = some r ∧
          r.Refuses id (.ofFault Tool.list.name f) := by
        rw [handleLine_of_calls hc, Tool.handle, hresult]
        exact ⟨_, rfl, refuses_toolReply id Tool.list.name f⟩
      refine ⟨⟨fun _ => ⟨f, hf⟩, fun _ => ?_⟩, fun g hg => ?_, fun h => absurd hf (h f)⟩
      · obtain ⟨r, hr, hre⟩ := hrefuses
        exact ⟨r, _, hr, hre⟩
      · rw [hg.unique hf]
        exact hrefuses
    · have hdelivered := delivered_of_list hc hresult
      refine ⟨⟨?_, ?_⟩, fun f hf => absurd hf (hnone f), fun _ => ⟨_, hdelivered⟩⟩
      · rintro ⟨r, e, hr, hrefuses⟩
        obtain ⟨r', hr', hdelivers⟩ := hdelivered
        obtain rfl := Option.some.inj (hr.symm.trans hr')
        exact absurd hrefuses (hdelivers.not_refuses id e)
      · rintro ⟨f, hf⟩
        exact absurd hf (hnone f)

end Rpc

namespace Session

variable {σ : Type}

/-- Whatever the lines are, whatever they meet and whatever becomes of their records, a failure of
the remote side is told in the answer. -/
theorem run_in_band (backend : Audit.Backend σ) (store : σ) (turns : List Turn) :
    let s := run backend store turns
    s.log.map Handled.turn = turns ∧
      ∀ h ∈ s.log, Rpc.InBand h.turn.world h.turn.line h.reply h.events :=
  run_each (P := fun turn reply events => Rpc.InBand turn.world turn.line reply events)
    (fun turn => Rpc.handleLine_inBand turn.world turn.line) store turns

def deleteLine : String :=
  "\x7b\"jsonrpc\":\"2.0\",\"id\":\"d-1\",\"method\":\"tools/call\",\"params\":"
    ++ "\x7b\"name\":\"delete_node\",\"arguments\":\x7b\"ip\":\"10.0.0.7\"\x7d\x7d\x7d"

/-- The backend answers every request with the code zero, but as a floating-point number. -/
def World.realZero : World :=
  { World.unreachable with
    fleet := fun _ => .ok (.object [("code", .number (.real (Double.zero false)))]) }

/-- That is not the code of success, and the record of the answer is lost as well. -/
theorem delete_in_band :
    let turn : Turn := ⟨deleteLine, World.realZero, "now"⟩
    let s := run Audit.Gauge.perform { crashing := [.append] } [turn]
    ∃ id args, Rpc.Calls deleteLine id .delete args ∧ Tool.delete.Accepts args ∧
      ∃ h ∈ s.log, h.turn = turn ∧ ∃ v error, Rpc.Carries turn.world h.reply id v ∧
        v.get? "deleted" = some (.bool false) ∧ v.get? "error" = some (.string error) := by
  intro turn s
  obtain ⟨id, args, hc, hparse⟩ := Rpc.exists_calls deleteLine .delete
    (fun args => (Delete.parse args).toBool) (by decide +kernel)
  have haccepts : Tool.delete.Accepts args := by
    cases hip : Delete.parse args with
    | error c => rw [hip] at hparse; cases hparse
    | ok ip => exact ⟨ip, hip⟩
  obtain ⟨hturns, hlog⟩ := run_in_band Audit.Gauge.perform { crashing := [.append] } [turn]
  obtain ⟨h, hh, hturn⟩ := exists_handled hturns (List.mem_singleton_self turn)
  have hband := hlog h hh
  rw [hturn] at hband
  obtain ⟨v, hcarries, htells⟩ := hband.delete id args hc haccepts
  have hnot : ¬ Delete.Granted turn.world (calls h.events) := by
    rintro ⟨r, answer, -, hanswer, hcode⟩
    cases hanswer
    cases hcode
  obtain ⟨error, hdeleted, herror⟩ := htells.refused.2 hnot
  exact ⟨id, args, hc, haccepts, h, hh, hturn, v, error, hcarries, hdeleted, herror⟩

end Session

end FleetDesk
