import FleetDesk.Proofs.Rpc.Envelope

/-!
# Lines that call a tool

`Asks line id tool args` says what a line must be like to ask for a tool of the catalog: a request
with an id for `tools/call` that names the tool. With arguments that pass the schema of the tool it
is one of the lines for which the server decides to call the tool (`Calls`, `decide_eq_call_iff`);
with others it is refused (`decide_of_asks`).
-/

namespace FleetDesk

theorem Tool.not_isBlankText_name (t : Tool) : ¬ Text.isBlankText t.name := by
  cases t <;> decide +kernel

theorem Catalog.checkArguments_name {tool : Tool} {args : Json} :
    checkArguments tool.name args = .ok () ↔ tool.schema.violations args = [] := by
  simp only [checkArguments, Tool.ofName?_name]
  split
  · next h => simp [h]
  · next h => simpa using h

theorem Catalog.checkArguments_eq_error {name : String} {args : Json} {e : Rpc.Error}
    (h : checkArguments name args = .error e) : e.code = .invalidParams := by
  unfold checkArguments at h
  split at h
  · cases h
  · split at h <;> cases h
    rfl

namespace Rpc

/-- The line asks for `tool`, with arguments that pass its schema. -/
def Calls (line : String) (id : Json) (tool : Tool) (args : Json) : Prop :=
  ∃ v r p, Json.parse? (Text.trim line) = some v ∧ Request.read v = .ok r ∧ r.id = some id ∧
    id ≠ .null ∧ r.method = "tools/call" ∧ CallParams.read r.params = .ok p ∧ p.name = tool.name ∧
    p.arguments.getD (.object []) = args ∧ tool.schema.violations args = []

theorem decideCall_eq_ok {params : Json} {name : String} {args : Json} :
    decideCall params = .ok (name, args) ↔ ∃ p, CallParams.read params = .ok p ∧
      ¬ Text.isBlankText p.name ∧ p.name = name ∧ p.arguments.getD (.object []) = args ∧
      Catalog.checkArguments name args = .ok () := by
  unfold decideCall
  constructor
  · intro h
    split at h
    · cases h
    · next p hp =>
      split at h
      · cases h
      · next hb =>
        cases hc : Catalog.checkArguments p.name (p.arguments.getD (.object [])) with
        | error e =>
          simp only [hc] at h
          cases h
        | ok u =>
          simp only [hc] at h
          cases h
          exact ⟨p, hp, hb, rfl, rfl, hc⟩
  · rintro ⟨p, hp, hb, rfl, rfl, hc⟩
    simp only [hp, if_neg hb, hc]
    rfl

theorem decideRequest_of_call {r : Request} {id : Json} (hid : r.id = some id)
    (hm : r.method = "tools/call") : decideRequest r =
      match decideCall r.params with
      | .ok (name, args) => .call id name args
      | .error e => .answer (.failure id e) := by
  have hn : ¬ notificationStart.isPrefixOf "tools/call".toList := by decide
  simp only [decideRequest, hid, hm, if_neg hn]
  rfl

theorem decideRequest_eq_call {r : Request} {id : Json} {name : String} {args : Json} :
    decideRequest r = .call id name args ↔
      r.id = some id ∧ r.method = "tools/call" ∧ decideCall r.params = .ok (name, args) := by
  constructor
  · intro h
    rcases decideRequest_cases r with
      ⟨-, hd⟩ | ⟨id', -, hid, ⟨body, hd⟩ | ⟨name', args', hm, hc, hd⟩⟩
    · rw [hd] at h
      cases h
    · rw [hd] at h
      cases h
    · rw [hd] at h
      cases h
      exact ⟨hid, hm, hc⟩
  · rintro ⟨hid, hm, hc⟩
    rw [decideRequest_of_call hid hm, hc]

theorem decide_eq_call {line : String} {id : Json} {name : String} {args : Json} :
    decide line = .call id name args ↔ ∃ v r, Json.parse? (Text.trim line) = some v ∧
      Request.read v = .ok r ∧ decideRequest r = .call id name args := by
  constructor
  · intro h
    rcases decide_cases line with ⟨-, hd⟩ | ⟨-, -, hd⟩ | ⟨v, -, -, hd⟩ | ⟨v, r, hline, hd⟩
    · rw [hd] at h
      cases h
    · rw [hd] at h
      cases h
    · rw [hd] at h
      cases h
    · exact ⟨v, r, hline.1, hline.2, hd.symm.trans h⟩
  · rintro ⟨v, r, hv, hr, h⟩
    have hline : Decodes line v r := ⟨hv, hr⟩
    rw [hline.decide_eq, h]

theorem decide_eq_call_iff {line : String} {id : Json} {tool : Tool} {args : Json} :
    decide line = .call id tool.name args ↔ Calls line id tool args := by
  simp only [decide_eq_call, decideRequest_eq_call, decideCall_eq_ok, Catalog.checkArguments_name]
  constructor
  · rintro ⟨v, r, hv, hr, hid, hm, p, hp, -, hn, ha, hs⟩
    have hnull : id ≠ .null := fun he => Request.id_ne_null hr (he ▸ hid)
    exact ⟨v, r, p, hv, hr, hid, hnull, hm, hp, hn, ha, hs⟩
  · rintro ⟨v, r, p, hv, hr, hid, -, hm, hp, hn, ha, hs⟩
    exact ⟨v, r, hv, hr, hid, hm, p, hp, hn ▸ tool.not_isBlankText_name, hn, ha, hs⟩

/-! ### Lines that ask for a tool -/

/-- The arguments of a call; the empty object stands for none, and for null. -/
def argumentsOf (params : Json) : Json :=
  match CallParams.shape.part? "arguments" 1 params with
  | none | some .null => .object []
  | some args => args

/-- The line asks for `tool` with these arguments, whether or not they pass its schema. -/
def Asks (line : String) (id : Json) (tool : Tool) (args : Json) : Prop :=
  ∃ v r p, Decodes line v r ∧ r.id = some id ∧ r.method = "tools/call" ∧
    CallParams.read r.params = .ok p ∧ p.name = tool.name ∧ argumentsOf r.params = args

theorem arguments_eq {params : Json} {p : CallParams} (h : CallParams.read params = .ok p) :
    p.arguments.getD (.object []) = argumentsOf params := by
  obtain ⟨-, name, -, rfl⟩ := CallParams.read_eq_ok.1 h
  rw [argumentsOf]
  cases CallParams.shape.part? "arguments" 1 params with
  | none => rfl
  | some args => cases args <;> rfl

theorem calls_iff_asks {line : String} {id : Json} {tool : Tool} {args : Json} :
    Calls line id tool args ↔ Asks line id tool args ∧ tool.schema.violations args = [] := by
  constructor
  · rintro ⟨v, r, p, hv, hr, hid, -, hm, hp, hn, ha, hs⟩
    exact ⟨⟨v, r, p, ⟨hv, hr⟩, hid, hm, hp, hn, (arguments_eq hp).symm.trans ha⟩, hs⟩
  · rintro ⟨⟨v, r, p, ⟨hv, hr⟩, hid, hm, hp, hn, ha⟩, hs⟩
    have hnull : id ≠ .null := fun he => Request.id_ne_null hr (he ▸ hid)
    exact ⟨v, r, p, hv, hr, hid, hnull, hm, hp, hn, (arguments_eq hp).trans ha, hs⟩

theorem decide_of_asks {line : String} {id : Json} {tool : Tool} {args : Json} {e : Error}
    (h : Asks line id tool args) (he : Catalog.checkArguments tool.name args = .error e) :
    decide line = .answer (.failure id e) := by
  obtain ⟨v, r, p, hline, hid, hm, hp, hn, rfl⟩ := h
  have hcall : decideCall r.params = .error e := by
    simp only [decideCall, hp, hn, if_neg tool.not_isBlankText_name, arguments_eq hp, he]
    rfl
  rw [hline.decide_eq, decideRequest_of_call hid hm, hcall]

/-- The action is a call of the tool, with arguments that pass a test. -/
def Action.asks (tool : Tool) (test : Json → Bool) : Action → Bool
  | .call _ name args => name = tool.name && test args
  | _ => false

/-- For lines that are given: the test is computed. -/
theorem exists_calls (line : String) (tool : Tool) (test : Json → Bool)
    (h : (decide line).asks tool test) : ∃ id args, Calls line id tool args ∧ test args := by
  cases hd : decide line with
  | silence => rw [hd] at h; cases h
  | answer reply => rw [hd] at h; cases h
  | call id name args =>
    rw [hd, Action.asks, Bool.and_eq_true, decide_eq_true_iff] at h
    obtain ⟨rfl, htest⟩ := h
    exact ⟨id, args, decide_eq_call_iff.1 hd, htest⟩

/-- A line calls a tool with one list of arguments only. -/
theorem Calls.args_eq {line : String} {id id' : Json} {tool tool' : Tool} {args args' : Json}
    (h : Calls line id tool args) (h' : Calls line id' tool' args') : args = args' := by
  have haction := (decide_eq_call_iff.2 h).symm.trans (decide_eq_call_iff.2 h')
  injection haction

/-- A line that has a script run on a node. -/
def scriptLine : String :=
  "\x7b\"jsonrpc\":\"2.0\",\"id\":3,\"method\":\"tools/call\",\"params\":"
    ++ "\x7b\"name\":\"exec_on_node\",\"arguments\":\x7b\"ip\":\"10.0.0.7\",\"command\":\"\","
    ++ "\"scriptPath\":\" up.sh\"\x7d\x7d\x7d"

theorem calls_scriptLine : ∃ id args r, Calls scriptLine id .exec args ∧
    Exec.parse args = .ok r ∧ r.script = some "up.sh" := by
  obtain ⟨id, args, hc, htest⟩ := exists_calls scriptLine .exec
    (fun args => (Exec.parse args).toOption.bind Exec.Request.script = some "up.sh")
    (by decide +kernel)
  rw [decide_eq_true_iff] at htest
  cases hr : Exec.parse args with
  | error c => rw [hr] at htest; cases htest
  | ok r =>
    rw [hr] at htest
    exact ⟨id, args, r, hc, hr, htest⟩

end Rpc

end FleetDesk
