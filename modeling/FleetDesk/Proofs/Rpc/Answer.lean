import FleetDesk.Proofs.Rpc.Replies
import FleetDesk.Proofs.Tool.Outcomes

/-!
# What the answer to a line depends on

The answer to a line is its reply and the calls that it makes. Two worlds that give the same text
for the script of a line and the same answers to the calls that it makes in one of them lead to the
same answer (`Rpc.answer_congr`); clocks do not matter, nor what would be answered to other calls.
-/

namespace FleetDesk

/-- The two worlds give the same answer. -/
def Call.SameAnswer (v w : World) : Call → Prop
  | probe host => v.probe host = w.probe host
  | run c => v.run c = w.run c
  | request r => v.fleet r = w.fleet r

/-- What the caller and the remote side see of a tool call. -/
def Outcome.visible (o : Outcome) : Except Fault Json × List Call := (o.result, calls o.events)

/-! ### Tools -/

theorem Exec.handle_congr {v w : World} {args : Json}
    (hs : ∀ r, parse args = .ok r → r.command? v = r.command? w)
    (hc : ∀ c ∈ calls (handle v args).events, c.SameAnswer v w) :
    (handle v args).visible = (handle w args).visible := by
  cases hr : parse args with
  | error c => rw [handle, handle, hr]
  | ok r =>
    obtain ⟨a, hva, -, hv⟩ := handle_cases hr v
    obtain ⟨b, hwb, -, hw⟩ := handle_cases hr w
    rw [Outcome.visible, Outcome.visible, hva, hwb]
    -- With the same command, or none, in both worlds the cases that mix the two are out.
    rw [hs r hr] at hv
    rcases hv with ⟨why, hwhy, hcalls, rfl⟩ | ⟨c, hcommand, hcalls, rfl⟩
    · rcases hw with ⟨why', hwhy', hcalls', rfl⟩ | ⟨c', hcommand', -⟩
      · obtain rfl := Except.error.inj (hwhy.symm.trans hwhy')
        rw [hcalls, hcalls']
      · rw [hwhy] at hcommand'
        cases hcommand'
    · rcases hw with ⟨why', hwhy', -⟩ | ⟨c', hcommand', hcalls', rfl⟩
      · rw [hcommand] at hwhy'
        cases hwhy'
      · obtain rfl := Except.ok.inj (hcommand.symm.trans hcommand')
        have hrun : v.run c = w.run c := hc (.run c) (by rw [hcalls]; exact List.mem_cons_self)
        rw [hcalls, hcalls', hrun]

theorem Ping.handle_congr {v w : World} {args : Json}
    (hc : ∀ c ∈ calls (handle v args).events, c.SameAnswer v w) :
    (handle v args).visible = (handle w args).visible := by
  cases hip : parse args with
  | error c => rw [handle, handle, hip]
  | ok ip =>
    obtain ⟨hv, hcalls, -⟩ := handle_eq hip v
    obtain ⟨hw, hcalls', -⟩ := handle_eq hip w
    have hprobe : v.probe ip = w.probe ip :=
      hc (.probe ip) (by rw [hcalls]; exact List.mem_cons_self)
    rw [Outcome.visible, Outcome.visible, hv, hw, hcalls, hcalls', hprobe]

theorem Delete.handle_congr {v w : World} {args : Json}
    (hc : ∀ c ∈ calls (handle v args).events, c.SameAnswer v w) :
    (handle v args).visible = (handle w args).visible := by
  cases hip : parse args with
  | error c => rw [handle, handle, hip]
  | ok ip =>
    obtain ⟨hv, hcalls, -⟩ := handle_eq hip v
    obtain ⟨hw, hcalls', -⟩ := handle_eq hip w
    have hfleet : v.fleet (request ip) = w.fleet (request ip) :=
      hc (.request (request ip)) (by rw [hcalls]; exact List.mem_cons_self)
    rw [Outcome.visible, Outcome.visible, hv, hw, hcalls, hcalls', hfleet]

theorem Listing.handle_congr {v w : World} {args : Json}
    (hc : ∀ c ∈ calls (handle v args).events, c.SameAnswer v w) :
    (handle v args).visible = (handle w args).visible := by
  cases hf : parse args with
  | error c => rw [handle, handle, hf]
  | ok filter =>
    have hcalls := (handle_cases hf v).1
    have hcalls' := (handle_cases hf w).1
    have hfleet : v.fleet (.get path) = w.fleet (.get path) :=
      hc (.request (.get path)) (by rw [hcalls]; exact List.mem_cons_self)
    rw [Outcome.visible, Outcome.visible, hcalls, hcalls']
    simp only [handle, hf, perform, hfleet]

/-! ### Lines -/

namespace Rpc

/-- The line is a command that takes its script from this path. -/
def Reads (line : String) (home : Option String) (path : String) : Prop :=
  ∃ id args r raw, Calls line id .exec args ∧ Exec.parse args = .ok r ∧ r.script = some raw ∧
    path = Home.expand home raw

/-- The reply to a line and the calls that it makes. -/
def answer (w : World) (line : String) : Option Reply × List Call :=
  ((handleLine w line).1, calls (handleLine w line).2)

theorem unknownTool_registry (v w : World) (name : String) :
    v.registry.unknownTool name = w.registry.unknownTool name := by
  have hnames : v.registry.names = w.registry.names := by
    simp only [Registry.names, World.registry, List.map_map, Function.comp_def]
  simp only [Registry.unknownTool, hnames]

theorem answer_of_calls {line : String} {id : Json} {tool : Tool} {args : Json}
    (h : Calls line id tool args) (w : World) :
    answer w line = (some (toolReply id tool.name (tool.handle w args).visible.1),
      (tool.handle w args).visible.2) := by
  rw [answer, calls_of_calls h, handleLine_of_calls h]
  rfl

/-- Any other line is answered without a look at the world. -/
theorem answer_of_not_calls {line : String} (h : ∀ id tool args, ¬ Calls line id tool args)
    (v w : World) : answer v line = answer w line := by
  have hquiet : ∀ u, calls (handleLine u line).2 = [] := fun u => by
    rw [← calls_effects, handleLine_quiet u h]
    rfl
  have hreply : (handleLine v line).1 = (handleLine w line).1 := by
    rw [handleLine, handleLine]
    cases hd : decide line with
    | silence => rfl
    | answer reply => rfl
    | call id name args =>
      have hname : ∀ t : Tool, t.name ≠ name := by
        rintro t rfl
        exact h id t args (decide_eq_call_iff.1 hd)
      simp only [perform, Registry.execute, find?_registry_eq_none _ hname,
        unknownTool_registry v w]
  rw [answer, answer, hquiet, hquiet, hreply]

theorem answer_congr {v w : World} {line : String} (hh : v.home = w.home)
    (hs : ∀ path, Reads line v.home path → v.script path = w.script path)
    (hc : ∀ c ∈ (answer v line).2, c.SameAnswer v w) : answer v line = answer w line := by
  by_cases hcalls : ∃ id tool args, Calls line id tool args
  · obtain ⟨id, tool, args, hline⟩ := hcalls
    have hvisible : (tool.handle v args).visible = (tool.handle w args).visible := by
      rw [answer_of_calls hline] at hc
      cases tool with
      | exec =>
        refine Exec.handle_congr (fun r hr => ?_) hc
        unfold Exec.Request.command?
        split
        · rfl
        · next raw hraw => rw [← hh, hs _ ⟨id, args, r, raw, hline, hr, hraw, rfl⟩]
      | ping => exact Ping.handle_congr hc
      | list => exact Listing.handle_congr hc
      | delete => exact Delete.handle_congr hc
    rw [answer_of_calls hline, answer_of_calls hline, hvisible]
  · exact answer_of_not_calls (fun id tool args h => hcalls ⟨id, tool, args, h⟩) v w

end Rpc

end FleetDesk
