import FleetDesk.Proofs.Effects
import FleetDesk.Proofs.Rpc.Calls

/-!
# One record after every remote call

`AuditedOnce` says which effects a line may have: those of the tool that it calls, if the tool
accepts the arguments, and else none. A tool that acts on a node or on the fleet makes its call, if
it gets so far, and records it once; listing the nodes is recorded if a list came of it.
-/

namespace FleetDesk

/-! ### What each tool does -/

namespace Tool

/-- The tool's own checks pass. -/
def Accepts : Tool → Json → Prop
  | exec, args => ∃ r, Exec.parse args = .ok r
  | ping, args => ∃ ip, Ping.parse args = .ok ip
  | list, args => ∃ filter, Listing.parse args = .ok filter
  | delete, args => ∃ ip, Delete.parse args = .ok ip

/-- The first complaint of the tool about the arguments. -/
def Complains : Tool → Json → Argument.Complaint → Prop
  | exec, args, c => Exec.parse args = .error c
  | ping, args, c => Ping.parse args = .error c
  | list, args, c => Listing.parse args = .error c
  | delete, args, c => Delete.parse args = .error c

theorem accepts_or_complains (tool : Tool) (args : Json) :
    tool.Accepts args ∨ ∃ c, tool.Complains args c := by
  cases tool with
  | exec =>
    cases h : Exec.parse args with
    | ok r => exact .inl ⟨r, h⟩
    | error c => exact .inr ⟨c, h⟩
  | ping =>
    cases h : Ping.parse args with
    | ok ip => exact .inl ⟨ip, h⟩
    | error c => exact .inr ⟨c, h⟩
  | list =>
    cases h : Listing.parse args with
    | ok filter => exact .inl ⟨filter, h⟩
    | error c => exact .inr ⟨c, h⟩
  | delete =>
    cases h : Delete.parse args with
    | ok ip => exact .inl ⟨ip, h⟩
    | error c => exact .inr ⟨c, h⟩

/-- A complaint is all that comes of the arguments. -/
theorem Complains.handle_eq {tool : Tool} {args : Json} {c : Argument.Complaint}
    (h : tool.Complains args c) (w : World) : tool.handle w args = ⟨.error c.toFault, []⟩ := by
  cases tool with
  | exec => rw [handle, Exec.handle, show Exec.parse args = .error c from h]
  | ping => rw [handle, Ping.handle, show Ping.parse args = .error c from h]
  | list => rw [handle, Listing.handle, show Listing.parse args = .error c from h]
  | delete => rw [handle, Delete.handle, show Delete.parse args = .error c from h]

/-- The kind of call that the tool makes. -/
def Makes : Tool → Call → Prop
  | exec, .run _ => True
  | ping, .probe _ => True
  | list, .request r => r = .get Listing.path
  | delete, .request r => r.method = "DELETE"
  | _, _ => False

end Tool

/-- The request names a script, and it cannot be read. -/
def Exec.ScriptUnreadable (w : World) (args : Json) : Prop :=
  ∃ r path why, parse args = .ok r ∧ r.script = some path ∧
    w.script (Home.expand w.home path) = .error why

/-- The backend answers, and the filter makes a list of its answer. -/
def Listing.Succeeds (w : World) (args : Json) : Prop :=
  ∃ filter answer nodes, parse args = .ok filter ∧ w.fleet (.get path) = .ok answer ∧
    Node.list answer filter = .ok nodes

theorem Exec.command?_eq_error {w : World} {r : Request} :
    (∃ why, r.command? w = .error why) ↔
      ∃ path why, r.script = some path ∧ w.script (Home.expand w.home path) = .error why := by
  unfold Request.command?
  cases hs : r.script with
  | none => simp
  | some path =>
    cases hw : w.script (Home.expand w.home path) with
    | ok script => simp [hw]
    | error why => simp [hw]

/-- A call at most, then a record: what comes of accepted arguments, unless they ask for a list. -/
def ActsOnce (w : World) (tool : Tool) (args : Json) (events : List Event) : Prop :=
  ∃ calls record, effects events = calls.map .call ++ [.audit record] ∧
    record.tool = tool.name ∧ (∀ c ∈ calls, tool.Makes c) ∧ calls.length ≤ 1 ∧
    (calls = [] ↔ tool = .exec ∧ Exec.ScriptUnreadable w args)

/-- A request, and a record if a list came of it. -/
def ListsOnce (w : World) (args : Json) (events : List Event) : Prop :=
  ∃ call records, effects events = .call call :: records.map .audit ∧ Tool.list.Makes call ∧
    (∀ r ∈ records, r.tool = Tool.list.name) ∧ records.length ≤ 1 ∧
    (records = [] ↔ ¬ Listing.Succeeds w args)

theorem Exec.scriptUnreadable_iff {w : World} {args : Json} {r : Request} (h : parse args = .ok r) :
    ScriptUnreadable w args ↔ ∃ why, r.command? w = .error why := by
  rw [command?_eq_error]
  constructor
  · rintro ⟨r', path, why, hr, hs, hw⟩
    obtain rfl := Except.ok.inj (h.symm.trans hr)
    exact ⟨path, why, hs, hw⟩
  · rintro ⟨path, why, hs, hw⟩
    exact ⟨r, path, why, h, hs, hw⟩

theorem Exec.actsOnce {w : World} {args : Json} {r : Request} (h : parse args = .ok r) :
    ActsOnce w .exec args (handle w args).events := by
  simp only [ActsOnce, scriptUnreadable_iff h, handle, h, Request.perform]
  cases hc : r.command? w with
  | error why => exact ⟨[], record r (.sshError why), by simp, rfl, by simp, by simp, by simp⟩
  | ok c =>
    exact ⟨[.run c], record r (.ofResult (w.run c)), by simp, rfl, by simp [Tool.Makes], by simp,
      by simp⟩

theorem Ping.actsOnce {w : World} {args : Json} {ip : String} (h : parse args = .ok ip) :
    ActsOnce w .ping args (handle w args).events := by
  simp only [ActsOnce, handle, h, perform]
  exact ⟨[.probe ip], record w ip (.ofProbe (w.probe ip)), by simp, rfl, by simp [Tool.Makes],
    by simp, by simp⟩

theorem Delete.actsOnce {w : World} {args : Json} {ip : String} (h : parse args = .ok ip) :
    ActsOnce w .delete args (handle w args).events := by
  simp only [ActsOnce, handle, h, perform]
  exact ⟨[.request (request ip)], record ⟨ip, outcome (w.fleet (request ip))⟩, by simp, rfl,
    by simp [Tool.Makes, request, Fleet.Request.delete], by simp, by simp⟩

theorem Listing.listsOnce {w : World} {args : Json} {filter : Node.Filter}
    (h : parse args = .ok filter) : ListsOnce w args (handle w args).events := by
  have hsucceeds : Succeeds w args ↔
      ∃ answer nodes, w.fleet (.get path) = .ok answer ∧ Node.list answer filter = .ok nodes := by
    constructor
    · rintro ⟨filter', answer, nodes, hf, ha, hn⟩
      obtain rfl := Except.ok.inj (h.symm.trans hf)
      exact ⟨answer, nodes, ha, hn⟩
    · rintro ⟨answer, nodes, ha, hn⟩
      exact ⟨filter, answer, nodes, h, ha, hn⟩
  simp only [ListsOnce, hsucceeds, handle, h, perform]
  cases ha : w.fleet (.get path) with
  | error f => exact ⟨.request (.get path), [], by simp, rfl, by simp, by simp, by simp⟩
  | ok answer =>
    cases hn : Node.list answer filter with
    | error e =>
      exact ⟨.request (.get path), [], by simp [hn], rfl, by simp, by simp, by simp [hn]⟩
    | ok nodes =>
      exact ⟨.request (.get path), [record filter nodes], by simp [hn], rfl,
        by simp [record, toolName, Tool.name], by simp, by simp [hn]⟩

/-- Arguments that the tool does not accept lead nowhere. -/
theorem Tool.handle_of_not_accepts {w : World} {tool : Tool} {args : Json}
    (h : ¬ tool.Accepts args) : effects (tool.handle w args).events = [] := by
  obtain ⟨c, hc⟩ := (tool.accepts_or_complains args).resolve_left h
  rw [hc.handle_eq]
  rfl

theorem Tool.handle_actsOnce {w : World} {tool : Tool} {args : Json} (h : tool.Accepts args)
    (hl : tool ≠ .list) : ActsOnce w tool args (tool.handle w args).events := by
  cases tool with
  | exec => exact Exec.actsOnce h.choose_spec
  | ping => exact Ping.actsOnce h.choose_spec
  | list => exact absurd rfl hl
  | delete => exact Delete.actsOnce h.choose_spec

/-! ### From a line to its tool -/

theorem find?_registry_name (w : World) (tool : Tool) :
    w.registry.find? tool.name = some ⟨tool.name, tool.handle w⟩ := by
  cases tool <;> rfl

theorem find?_registry_eq_none (w : World) {name : String} (h : ∀ t : Tool, t.name ≠ name) :
    w.registry.find? name = none := by
  rw [Registry.find?, List.find?_eq_none]
  intro handler hm
  obtain ⟨t, -, rfl⟩ := List.mem_map.1 (List.mem_reverse.1 hm)
  simpa using h t

namespace Rpc

theorem handleLine_events_of_calls {w : World} {line : String} {id : Json} {tool : Tool}
    {args : Json} (h : Calls line id tool args) :
    effects (handleLine w line).2 = effects (tool.handle w args).events := by
  rw [handleLine, decide_eq_call_iff.2 h, perform, Registry.execute, find?_registry_name]
  simp

/-- Only a call of a tool has effects. -/
theorem handleLine_quiet (w : World) {line : String}
    (h : ∀ id tool args, ¬ Calls line id tool args) : effects (handleLine w line).2 = [] := by
  rw [handleLine]
  cases hd : decide line with
  | silence => rfl
  | answer reply => rfl
  | call id name args =>
    have hname : ∀ t : Tool, t.name ≠ name := by
      rintro t rfl
      exact h id t args (decide_eq_call_iff.1 hd)
    rw [perform, Registry.execute, find?_registry_eq_none w hname]
    rfl

/-- The effects that a line has in a world. -/
structure AuditedOnce (w : World) (line : String) (events : List Event) : Prop where
  acts : ∀ id tool args, Calls line id tool args → tool.Accepts args → tool ≠ .list →
    ActsOnce w tool args events
  lists : ∀ id args, Calls line id .list args → Tool.list.Accepts args → ListsOnce w args events
  other : (∀ id tool args, Calls line id tool args → ¬ tool.Accepts args) → effects events = []

theorem handleLine_auditedOnce (w : World) (line : String) :
    AuditedOnce w line (handleLine w line).2 := by
  refine ⟨fun id tool args hc ha hl => ?_, fun id args hc ha => ?_, fun h => ?_⟩
  · rw [ActsOnce, handleLine_events_of_calls hc]
    exact Tool.handle_actsOnce ha hl
  · rw [ListsOnce, handleLine_events_of_calls hc]
    exact Listing.listsOnce ha.choose_spec
  · by_cases hc : ∃ id tool args, Calls line id tool args
    · obtain ⟨id, tool, args, hc⟩ := hc
      rw [handleLine_events_of_calls hc, Tool.handle_of_not_accepts (h id tool args hc)]
    · exact handleLine_quiet w fun id tool args hcalls => hc ⟨id, tool, args, hcalls⟩

end Rpc

end FleetDesk
