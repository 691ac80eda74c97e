import FleetDesk.Proofs.Tool.Agreement

/-!
# Deleting stays among the nodes

A node is deleted below the collection of nodes, by one segment of a path that cannot lead anywhere
else: a name of address characters that is no dot segment. Whatever the arguments are, there is no
other request, and without such a name there is none at all (`Delete.confined`).
-/

namespace FleetDesk

namespace Delete

/-- Stands for itself as one segment of a path. -/
structure IsSegment (s : String) : Prop where
  ne_empty : s ≠ ""
  chars : ∀ c ∈ s.toList, AddressChar c
  ne_dot : s ≠ "."
  ne_dots : s ≠ ".."

/-- The address that is given, without the blanks around it, is this segment. -/
structure Names (args : Json) (ip : String) : Prop where
  given : ∃ raw, args.get? "ip" = some (.string raw) ∧ Text.trim raw = ip
  segment : IsSegment ip

/-- One request deletes the node, and the response and the record name it. -/
structure Deletes (ip : String) (v : Json) (events : List Event) : Prop where
  calls : calls events = [.request { method := "DELETE", path := "/app/nodes/" ++ ip, body := none }]
  response : v.get? "ip" = some (.string ip)
  record : ∃ record, audits events = [record] ∧ record.tool = "delete_node" ∧
    record.fields.lookup "ip" = some (.text ip)

theorem request_eq (ip : String) :
    request ip = { method := "DELETE", path := "/app/nodes/" ++ ip, body := none } := by
  have hstart : collection ++ "/" = "/app/nodes/" := by decide
  rw [request, hstart]
  rfl

theorem isSegment_iff {s : String} : IsSegment s ↔ s ≠ "" ∧ Argument.isAddress s := by
  simp only [Argument.isAddress, Bool.and_eq_true, bne_iff_ne, List.all_eq_true,
    Argument.isAddressChar_iff]
  constructor
  · rintro ⟨hne, hchars, hdot, hdots⟩
    exact ⟨hne, ⟨hdot, hdots⟩, hchars⟩
  · rintro ⟨hne, ⟨hdot, hdots⟩, hchars⟩
    exact ⟨hne, hchars, hdot, hdots⟩

theorem address_string {raw ip : String} :
    Argument.address "ip" (.string raw) = .ok ip ↔ Text.trim raw = ip ∧ IsSegment ip := by
  simp only [Argument.address, Argument.trimmed_string, Text.isBlankText_iff_trim, isSegment_iff,
    bind, Except.bind]
  by_cases hblank : Text.trim raw = ""
  · rw [if_pos hblank, hblank]
    exact iff_of_false (by rintro ⟨⟩) fun h => h.2.1 h.1.symm
  · rw [if_neg hblank]
    by_cases haddress : Argument.isAddress (Text.trim raw)
    · simp only [if_pos haddress, Except.ok.injEq]
      exact ⟨fun h => h ▸ ⟨rfl, hblank, haddress⟩, fun h => h.1⟩
    · simp only [if_neg haddress]
      exact iff_of_false (by rintro ⟨⟩) fun h => haddress (h.1 ▸ h.2.2)

theorem parse_eq_ok {args : Json} {ip : String} : parse args = .ok ip ↔ Names args ip := by
  constructor
  · intro h
    cases hget : args.get? "ip" with
    | none =>
      rw [parse, Argument.named, hget] at h
      cases h
    | some v =>
      rw [parse, Argument.named_eq hget] at h
      cases v with
      | string raw =>
        obtain ⟨htrim, hsegment⟩ := address_string.1 h
        exact ⟨⟨raw, hget, htrim⟩, hsegment⟩
      | _ => cases h
  · rintro ⟨⟨raw, hget, htrim⟩, hsegment⟩
    rw [parse, Argument.named_eq hget]
    exact address_string.2 ⟨htrim, hsegment⟩

/-! ### The tool -/

/-- What comes of the arguments. -/
structure Confined (w : World) (args : Json) : Prop where
  named : ∀ ip, Names args ip → ∃ v, (handle w args).result = .ok v ∧
    Deletes ip v (handle w args).events
  other : (∀ ip, ¬ Names args ip) → ∃ f : Fault, f.kind = .invalidParams ∧
    handle w args = ⟨.error f, []⟩

theorem handle_deletes {args : Json} {ip : String} (h : Names args ip) (w : World) :
    ∃ v, (handle w args).result = .ok v ∧ Deletes ip v (handle w args).events := by
  obtain ⟨hresult, hcalls, haudits⟩ := handle_eq (parse_eq_ok.2 h) w
  rw [request_eq] at hcalls
  refine ⟨_, hresult, hcalls, ?_, _, haudits, rfl, rfl⟩
  cases outcome (w.fleet (request ip)) <;> simp [Response.toJson, Json.get?_ofMembers]

theorem balks_of_not_names {args : Json} (h : ∀ ip, ¬ Names args ip) : Tool.delete.Balks args := by
  cases hparse : parse args with
  | ok ip => exact absurd (parse_eq_ok.1 hparse) (h ip)
  | error c => exact Tool.Complains.balks hparse

theorem handle_confined (w : World) (args : Json) : Confined w args where
  named _ h := handle_deletes h w
  other h := by
    obtain ⟨f, hf, hhandle⟩ := (balks_of_not_names h).fault
    exact ⟨f, hf, hhandle w⟩

/-! ### Lines -/

open Rpc (Asks Calls Delivered Reply handleLine)

/-- The line is refused for its parameters, without any effect. -/
def Declined (reply : Option Reply) (events : List Event) (id : Json) : Prop :=
  (∃ r e, reply = some r ∧ Reply.Refuses r id e ∧ e.code.number = -32602) ∧ effects events = []

/-- What comes of a line. -/
structure LineConfined (line : String) (reply : Option Reply) (events : List Event) : Prop where
  named : ∀ id args ip, Asks line id .delete args → Tool.delete.Admitted args → Names args ip →
    ∃ v, Delivered reply id v.compact ∧ Deletes ip v events
  other : ∀ id args, Asks line id .delete args →
    (Tool.delete.Admitted args → ∀ ip, ¬ Names args ip) → Declined reply events id
  /-- Without a node to be deleted, the fleet is only asked for its list. -/
  requests : ∀ r, .request r ∈ calls events → r = .get "/app/nodes/batch-matrix" ∨
    ∃ id args ip v, Asks line id .delete args ∧ Names args ip ∧ Deletes ip v events

theorem Deletes.of_line {line : String} {id args v : Json} {ip : String} {w : World}
    (hc : Calls line id .delete args) (h : Deletes ip v (handle w args).events) :
    Deletes ip v (handleLine w line).2 where
  calls := (Rpc.calls_of_calls hc w).trans h.calls
  response := h.response
  record := by
    obtain ⟨record, haudits, hrecord⟩ := h.record
    exact ⟨record, (Rpc.audits_of_calls hc w).trans haudits, hrecord⟩

theorem declined_of_asks {line : String} {id args : Json} (hasks : Asks line id .delete args)
    (h : Tool.delete.Admitted args → ∀ ip, ¬ Names args ip) (w : World) :
    Declined (handleLine w line).1 (handleLine w line).2 id := by
  have hchecked := Rpc.checked_of_asks hasks
  by_cases hadmitted : Tool.delete.Admitted args
  · obtain ⟨f, hf, hhandle⟩ := (balks_of_not_names (h hadmitted)).fault
    obtain ⟨hreply, heffects⟩ := hchecked.handed hadmitted w
    rw [hhandle w] at hreply heffects
    refine ⟨⟨_, _, hreply, Rpc.refuses_toolReply id _ f, ?_⟩, heffects⟩
    rw [Rpc.Error.ofFault, hf]
    rfl
  · obtain ⟨r, e, hr, hcode, hline⟩ := hchecked.refused hadmitted
    rw [hline w]
    exact ⟨⟨r, e, rfl, hr, hcode⟩, rfl⟩

/-- Running a command and asking for a node send no request, and a list needs only one. -/
theorem request_of_tool {w : World} {tool : Tool} {args : Json} {r : Fleet.Request}
    (h : .request r ∈ calls (tool.handle w args).events) (htool : tool ≠ .delete) :
    r = .get "/app/nodes/batch-matrix" := by
  by_cases haccepts : tool.Accepts args
  · cases tool with
    | exec =>
      obtain ⟨q, hq⟩ := haccepts
      obtain ⟨-, -, -, ⟨-, -, hcalls, -⟩ | ⟨c, -, hcalls, -⟩⟩ := Exec.handle_cases hq w
      · rw [Tool.handle, hcalls] at h
        cases h
      · rw [Tool.handle, hcalls, List.mem_singleton] at h
        cases h
    | ping =>
      obtain ⟨ip, hip⟩ := haccepts
      rw [Tool.handle, (Ping.handle_eq hip w).2.1, List.mem_singleton] at h
      cases h
    | list =>
      obtain ⟨filter, hfilter⟩ := haccepts
      rw [Tool.handle, (Listing.handle_cases hfilter w).1, List.mem_singleton] at h
      cases h
      rfl
    | delete => exact absurd rfl htool
  · rw [← calls_effects, Tool.handle_of_not_accepts haccepts] at h
    cases h

theorem request_of_line {w : World} {line : String} {r : Fleet.Request}
    (h : .request r ∈ calls (handleLine w line).2) : r = .get "/app/nodes/batch-matrix" ∨
      ∃ id args ip v, Asks line id .delete args ∧ Names args ip ∧
        Deletes ip v (handleLine w line).2 := by
  by_cases hcalls : ∃ id tool args, Calls line id tool args
  · obtain ⟨id, tool, args, hc⟩ := hcalls
    by_cases htool : tool = .delete
    · subst htool
      rw [Rpc.calls_of_calls hc] at h
      by_cases hnames : ∃ ip, Names args ip
      · obtain ⟨ip, hip⟩ := hnames
        obtain ⟨v, -, hv⟩ := handle_deletes hip w
        exact .inr ⟨id, args, ip, v, (Rpc.calls_iff_asks.1 hc).1, hip, hv.of_line hc⟩
      · obtain ⟨f, -, hhandle⟩ := (balks_of_not_names (not_exists.1 hnames)).fault
        rw [hhandle w] at h
        cases h
    · rw [Rpc.calls_of_calls hc] at h
      exact .inl (request_of_tool h htool)
  · have hquiet : effects (handleLine w line).2 = [] :=
      Rpc.handleLine_quiet w fun id tool args hc => hcalls ⟨id, tool, args, hc⟩
    rw [← calls_effects, hquiet] at h
    cases h

/-- Whether the tool is called with its arguments or by a line, a node is deleted by one segment
below the collection, which the response and the record name too, or the call is refused. -/
theorem confined (w : World) : (∀ args, Confined w args) ∧
    ∀ line, LineConfined line (handleLine w line).1 (handleLine w line).2 := by
  refine ⟨handle_confined w, fun line => ⟨?_, ?_, fun r => request_of_line⟩⟩
  · intro id args ip hasks hadmitted hip
    have hc : Calls line id .delete args :=
      Rpc.calls_iff_asks.2 ⟨hasks, Catalog.checkArguments_name.1 hadmitted⟩
    obtain ⟨v, hv, hdeletes⟩ := handle_deletes hip w
    exact ⟨v, Rpc.delivered_of_result hc (by simp) hv, hdeletes.of_line hc⟩
  · exact fun id args hasks hother => declined_of_asks hasks hother w

end Delete

end FleetDesk
