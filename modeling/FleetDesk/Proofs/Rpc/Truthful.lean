import FleetDesk.Proofs.Json.Members
import FleetDesk.Proofs.Rpc.Replies
import FleetDesk.Proofs.Rpc.Session
import FleetDesk.Proofs.Tool.Outcomes

/-!
# Records tell what happened

The record of a tool call and the answer to it are made apart from each other. They agree
nevertheless: `Exec.Attests`, `Ping.Attests`, `Delete.Attests` and `Listing.Attests` tie the fields
of a record to the calls that were made, to what was asked for and to the value that is delivered,
and the records of a line are such records (`Rpc.Truthful`). This holds of every line of a session,
whether its record can be written or not (`Session.run_truthful`).
-/

namespace FleetDesk

/-- The value of a field, as a response has it. -/
def Audit.Field.toJson : Field → Json
  | .text s => .string s
  | .int n => Json.int n
  | .flag b => .bool b

/-! ### Texts that may be absent -/

namespace Argument

theorem eq_string_of_nonBlank {label s : String} {v : Json} (h : nonBlank label v = .ok s) :
    v = .string s := by
  cases v with
  | string t =>
    rw [nonBlank] at h
    split at h
    · cases h
    · cases h
      rfl
  | _ => cases h

theorem eq_string_of_trimmed {label s : String} {v : Json} (h : trimmed label v = .ok s) :
    ∃ t, v = .string t ∧ s = Text.trim t := by
  rw [trimmed] at h
  cases ht : nonBlank label v with
  | error c =>
    rw [ht] at h
    cases h
  | ok t =>
    rw [ht] at h
    cases h
    exact ⟨t, eq_string_of_nonBlank ht, rfl⟩

/-- What is read is made of the text that is given, and nothing is read if there is none. -/
theorem optional_eq_ok {read : String → Json → Except Complaint String} {f : String → String}
    {label : String} (hread : ∀ {v s}, read label v = .ok s → ∃ t, v = .string t ∧ s = f t)
    {v? : Option Json} {s? : Option String} (h : optional read label v? = .ok s?) :
    s? = (v?.bind Json.string?).map f := by
  unfold optional at h
  split at h
  · cases h
    rfl
  · cases h
    rfl
  · next v hv =>
    cases hs : read label v with
    | error c =>
      rw [hs] at h
      cases h
    | ok s =>
      rw [hs] at h
      cases h
      obtain ⟨t, rfl, rfl⟩ := hread hs
      rfl

end Argument

/-! ### Running a command -/

namespace Exec

/-- A text without the blanks around it. -/
def trimmedText? : Option Json → Option String
  | some (.string s) => some (Text.trim s)
  | _ => none

/-- The path of a script among the arguments. -/
def givenScript (args : Json) : Option String := trimmedText? (args.get? "scriptPath")

theorem trimmedText?_eq (v : Option Json) :
    trimmedText? v = (v.bind Json.string?).map Text.trim := by
  rcases v with _ | _ | _ | _ | _ | _ | _ <;> rfl

theorem script_eq_givenScript {args : Json} {r : Request} (h : parse args = .ok r) :
    r.script = givenScript args := by
  rw [parse] at h
  obtain ⟨members, hmembers, h⟩ := Decode.bind_eq_ok h
  obtain ⟨ip, -, h⟩ := Decode.bind_eq_ok h
  obtain ⟨command, -, h⟩ := Decode.bind_eq_ok h
  obtain ⟨limit, -, h⟩ := Decode.bind_eq_ok h
  obtain ⟨script, hscript, h⟩ := Decode.bind_eq_ok h
  have hargs : args = .object members := by
    cases args <;> cases hmembers
    rfl
  have hr : r.script = script := by
    split at h
    · cases h
    · cases h
      rfl
  rw [hr, hargs, givenScript, Json.get?_object, trimmedText?_eq]
  exact Argument.optional_eq_ok Argument.eq_string_of_trimmed hscript

/-- The fields that tell of a command, and of the script that it reads. -/
def commandFields (c : Remote.Command) (script : Option String) : List (String × Audit.Field) :=
  [("ip", .text c.host), ("command", .text (String.ofList (c.text.toList.take 200)))]
    ++ (script.map fun path => ("script", Audit.Field.text path)).toList

/-- The members of a response with this status that its record repeats. -/
def repeatedKeys (status : String) : List String :=
  if status = "ssh_error" then ["status", "error"]
  else ["status", "exitCode", "truncated", "stderrTruncated"]

/-- The record tells of every command that is `sent`, and repeats the response. -/
structure Attests (sent : Remote.Command → Prop) (script : Option String) (v : Json)
    (record : Audit.Record) : Prop where
  tool : record.tool = "exec_on_node"
  fields : ∃ status repeated, v.get? "status" = some (.string status) ∧
    repeated.map Prod.fst = repeatedKeys status ∧
    (∀ m ∈ repeated, v.get? m.1 = some m.2.toJson) ∧
    ∀ c, sent c → record.fields = commandFields c script ++ repeated

theorem keys_repeated (response : Response) :
    (("status", Audit.Field.text response.status) :: responseFields response).map Prod.fst =
      repeatedKeys response.status := by
  cases response <;> rfl

theorem get?_of_mem_repeated {response : Response} {m : String × Audit.Field}
    (h : m ∈ ("status", .text response.status) :: responseFields response) :
    response.toJson.get? m.1 = some m.2.toJson := by
  cases response <;>
    simp only [responseFields, List.mem_cons, List.not_mem_nil, or_false] at h <;>
    rcases h with rfl | rfl | rfl | rfl <;>
    simp [Response.toJson, Response.members, Response.reportMembers, Response.status,
      Json.get?_ofMembers, Audit.Field.toJson]

theorem record_fields {r : Request} {u : World} {c : Remote.Command} (h : r.command? u = .ok c)
    (response : Response) : (record r response).fields =
      commandFields c r.script ++ ("status", .text response.status) :: responseFields response := by
  have hc : c.host = r.ip ∧ c.text = r.remoteText := by
    unfold Request.command? at h
    split at h
    · cases h
      exact ⟨rfl, rfl⟩
    · split at h <;> cases h
      exact ⟨rfl, rfl⟩
  simp [record, commandFields, hc, Text.cut_kept, auditedCommandChars]

/-- What the arguments have run, in some world. -/
def Sends (args : Json) (c : Remote.Command) : Prop :=
  ∃ u, Call.run c ∈ calls (handle u args).events

theorem attests {args : Json} {r : Request} (h : parse args = .ok r) (w : World) :
    ∃ response : Response, (handle w args).result = .ok response.toJson ∧
      ∃ record, audits (handle w args).events = [record] ∧
        Attests (Sends args) (givenScript args) response.toJson record := by
  obtain ⟨response, hresult, haudits, -⟩ := handle_cases h w
  refine ⟨response, hresult, record r response, haudits, rfl, response.status, _,
    get?_of_mem_repeated List.mem_cons_self, keys_repeated response,
    fun m hm => get?_of_mem_repeated hm, ?_⟩
  -- The command may be sent in another world than the one that the record comes from.
  rintro c ⟨u, hc⟩
  obtain ⟨-, -, -, ⟨why, -, hcalls, -⟩ | ⟨c', hc', hcalls, -⟩⟩ := handle_cases h u
  · rw [hcalls] at hc
    cases hc
  · rw [hcalls] at hc
    cases List.mem_singleton.1 hc
    rw [record_fields hc', script_eq_givenScript h]

/-- With a script that can be read there is a command. -/
theorem exists_sends {args : Json} {r : Request} (h : parse args = .ok r) : ∃ c, Sends args c := by
  let u : World := { World.unreachable with script := fun _ => .ok "" }
  obtain ⟨-, -, -, ⟨why, hc, -⟩ | ⟨c, -, hcalls, -⟩⟩ := handle_cases h u
  · obtain ⟨path, why, -, hread⟩ := command?_eq_error.1 ⟨why, hc⟩
    cases hread
  · exact ⟨c, u, by rw [hcalls]; exact List.mem_singleton_self _⟩

end Exec

/-! ### Asking whether a node can be reached -/

namespace Ping

/-- The record tells which host was asked, and repeats the response. -/
inductive Attests : List Call → Json → Audit.Record → Prop
  | reachable {ip : String} {v : Json} {latency : Nat}
    (hr : v.get? "reachable" = some (.bool true))
    (hl : v.get? "latencyMs" = some (Json.nat latency)) :
    Attests [.probe ip] v
      ⟨"ping_node",
        [("ip", .text ip), ("reachable", .flag true),
          ("latencyMs", .int (min latency Audit.maxInt))]⟩
  | unreachable {ip : String} {v : Json} {time : Nat} {error : String}
    (hr : v.get? "reachable" = some (.bool false))
    (he : v.get? "error" = some (.string error)) :
    Attests [.probe ip] v
      ⟨"ping_node",
        [("ip", .text ip), ("reachable", .flag false), ("latencyMs", .count time),
          ("error", .text error)]⟩

theorem attests {args : Json} {ip : String} (h : parse args = .ok ip) (w : World) :
    ∃ v, (handle w args).result = .ok v ∧
      ∃ record, audits (handle w args).events = [record] ∧
        Attests (calls (handle w args).events) v record := by
  obtain ⟨hresult, hcalls, haudits⟩ := handle_eq h w
  refine ⟨_, hresult, _, haudits, ?_⟩
  rw [hcalls]
  cases w.probe ip with
  | ok latency =>
    refine .reachable ?_ ?_ <;> simp [Response.ofProbe, Response.toJson, Json.get?_ofMembers]
  | error f =>
    refine .unreachable ?_ ?_ <;> simp [Response.ofProbe, Response.toJson, Json.get?_ofMembers]

end Ping

/-! ### Deleting the record of a node -/

namespace Delete

/-- The record tells of which node the backend was asked, and repeats the response. -/
inductive Attests : List Call → Json → Audit.Record → Prop
  | deleted {ip : String} {v : Json} (hi : v.get? "ip" = some (.string ip))
    (hd : v.get? "deleted" = some (.bool true)) (he : v.get? "error" = none) :
    Attests [.request (.delete ("/app/nodes/" ++ ip))] v
      ⟨"delete_node", [("ip", .text ip), ("deleted", .flag true)]⟩
  | refused {ip : String} {v : Json} {error : String} (hi : v.get? "ip" = some (.string ip))
    (hd : v.get? "deleted" = some (.bool false)) (he : v.get? "error" = some (.string error)) :
    Attests [.request (.delete ("/app/nodes/" ++ ip))] v
      ⟨"delete_node", [("ip", .text ip), ("deleted", .flag false), ("error", .text error)]⟩

theorem attests {args : Json} {ip : String} (h : parse args = .ok ip) (w : World) :
    ∃ v, (handle w args).result = .ok v ∧
      ∃ record, audits (handle w args).events = [record] ∧
        Attests (calls (handle w args).events) v record := by
  obtain ⟨hresult, hcalls, haudits⟩ := handle_eq h w
  refine ⟨_, hresult, _, haudits, ?_⟩
  have hpath : collection ++ "/" = "/app/nodes/" := by decide
  rw [hcalls]
  generalize outcome (w.fleet (request ip)) = error
  rw [request, hpath]
  cases error with
  | none =>
    refine .deleted ?_ ?_ ?_ <;> simp [Response.toJson, Response.deleted, Json.get?_ofMembers]
  | some error =>
    refine .refused ?_ ?_ ?_ <;> simp [Response.toJson, Response.deleted, Json.get?_ofMembers]

end Delete

/-! ### Listing nodes -/

namespace Listing

/-- The filter that the arguments give. -/
def givenFilter (args : Json) : Node.Filter where
  country := (args.get? "country").bind Json.string?
  name := (args.get? "name").bind Json.string?

theorem eq_givenFilter {args : Json} {filter : Node.Filter} (h : parse args = .ok filter) :
    filter = givenFilter args := by
  rw [parse] at h
  obtain ⟨country, hcountry, h⟩ := Decode.bind_eq_ok h
  obtain ⟨name, hname, h⟩ := Decode.bind_eq_ok h
  have hread : ∀ {label : String} {v s}, Argument.nonBlank label v = .ok s →
      ∃ t, v = .string t ∧ s = id t := fun h => ⟨_, Argument.eq_string_of_nonBlank h, rfl⟩
  cases h
  rw [givenFilter, Argument.optional_eq_ok hread hcountry, Argument.optional_eq_ok hread hname,
    Option.map_id, id, id]

/-- The text that tells of a filter: the country and the name that it wants, with a comma between
them if there are both. An empty text is not wanted. -/
inductive Told (filter : Node.Filter) : String → Prop
  | neither (hc : filter.country.getD "" = "") (hn : filter.name.getD "" = "") : Told filter "none"
  | country {c : String} (hc : filter.country = some c) (hne : c ≠ "")
      (hn : filter.name.getD "" = "") : Told filter c
  | name {n : String} (hc : filter.country.getD "" = "") (hn : filter.name = some n)
      (hne : n ≠ "") : Told filter n
  | both {c n : String} (hc : filter.country = some c) (hcne : c ≠ "")
      (hn : filter.name = some n) (hnne : n ≠ "") : Told filter (c ++ "," ++ n)

theorem getD_eq_or (v : Option String) : v.getD "" = "" ∨ ∃ s, v = some s ∧ s ≠ "" := by
  cases v with
  | none => exact .inl rfl
  | some s => exact (em (s = "")).imp id fun hne => ⟨s, rfl, hne⟩

theorem filter_eq_none {v : Option String} (h : v.getD "" = "") : v.filter (· != "") = none := by
  cases v with
  | none => rfl
  | some s =>
    cases h
    rfl

theorem filter_eq_some {s : String} (h : s ≠ "") : (some s).filter (· != "") = some s := by
  simp [h]

theorem told_describe (filter : Node.Filter) : Told filter filter.describe := by
  rw [Node.Filter.describe, List.filterMap_cons, List.filterMap_cons, List.filterMap_nil]
  rcases getD_eq_or filter.country with hc | ⟨c, hc, hcne⟩ <;>
    rcases getD_eq_or filter.name with hn | ⟨n, hn, hnne⟩
  · rw [filter_eq_none hc, filter_eq_none hn]
    exact .neither hc hn
  · rw [filter_eq_none hc, hn, filter_eq_some hnne]
    exact .name hc hn hnne
  · rw [filter_eq_none hn, hc, filter_eq_some hcne]
    exact .country hc hcne hn
  · rw [hc, hn, filter_eq_some hcne, filter_eq_some hnne]
    exact .both hc hcne hn hnne

/-- The record tells which nodes were wanted, and how many are listed. -/
inductive Attests (filter : Node.Filter) (items : List Json) : Audit.Record → Prop
  | listed {text : String} (h : Told filter text) :
      Attests filter items
        ⟨"list_nodes",
          [("filter", .text text), ("count", .int (min items.length Audit.maxInt))]⟩

theorem attests {args : Json} {filter : Node.Filter} (h : parse args = .ok filter) (w : World) :
    (∃ f, Fails w filter f ∧ audits (handle w args).events = []) ∨
      ∃ items, (handle w args).result = .ok (.array items) ∧
        ∃ record, audits (handle w args).events = [record] ∧ Attests filter items record := by
  obtain ⟨-, ⟨f, hf, -, haudits⟩ | ⟨nodes, -, hresult, haudits⟩⟩ := handle_cases h w
  · exact .inl ⟨f, hf, haudits⟩
  · refine .inr ⟨_, hresult, _, haudits, ?_⟩
    have hcount : nodes.length = (nodes.map Node.toJson).length := List.length_map _ |>.symm
    rw [record, hcount]
    exact .listed (told_describe filter)

end Listing

/-! ### Lines -/

namespace Rpc

/-- What the records of a line are like. -/
structure Truthful (w : World) (line : String) (reply : Option Reply) (events : List Event) :
    Prop where
  exec : ∀ id args, Calls line id .exec args → Tool.exec.Accepts args →
    ∃ v record, Delivered reply id v.compact ∧ audits events = [record] ∧
      Exec.Attests (Exec.Sends args) (Exec.givenScript args) v record
  /-- What was run is what the arguments have run, and so the record tells of it. -/
  sent : ∀ id args c, Calls line id .exec args → Call.run c ∈ calls events → Exec.Sends args c
  /-- Without a script to be read, the record tells of what would have been run. -/
  unsent : ∀ id args, Calls line id .exec args → Tool.exec.Accepts args → ∃ c, Exec.Sends args c
  ping : ∀ id args, Calls line id .ping args → Tool.ping.Accepts args →
    ∃ v record, Delivered reply id v.compact ∧ audits events = [record] ∧
      Ping.Attests (calls events) v record
  delete : ∀ id args, Calls line id .delete args → Tool.delete.Accepts args →
    ∃ v record, Delivered reply id v.compact ∧ audits events = [record] ∧
      Delete.Attests (calls events) v record
  list : ∀ id args filter, Calls line id .list args → Listing.parse args = .ok filter →
    filter = Listing.givenFilter args ∧
      ((∃ f, Listing.Fails w filter f ∧ audits events = []) ∨
        ∃ items record, Delivered reply id (Json.array items).pretty ∧ audits events = [record] ∧
          Listing.Attests filter items record)

theorem handleLine_truthful (w : World) (line : String) :
    Truthful w line (handleLine w line).1 (handleLine w line).2 := by
  refine ⟨?_, ?_, ?_, ?_, ?_, ?_⟩
  · rintro id args hc ⟨r, hr⟩
    obtain ⟨response, hresult, record, haudits, hattests⟩ := Exec.attests hr w
    exact ⟨_, record, delivered_of_result hc (by simp) hresult,
      (audits_of_calls hc w).trans haudits, hattests⟩
  · intro id args c hc hmem
    rw [calls_of_calls hc] at hmem
    exact ⟨w, hmem⟩
  · rintro id args - ⟨r, hr⟩
    exact Exec.exists_sends hr
  · rintro id args hc ⟨ip, hip⟩
    obtain ⟨v, hresult, record, haudits, hattests⟩ := Ping.attests hip w
    refine ⟨v, record, delivered_of_result hc (by simp) hresult,
      (audits_of_calls hc w).trans haudits, ?_⟩
    rw [calls_of_calls hc]
    exact hattests
  · rintro id args hc ⟨ip, hip⟩
    obtain ⟨v, hresult, record, haudits, hattests⟩ := Delete.attests hip w
    refine ⟨v, record, delivered_of_result hc (by simp) hresult,
      (audits_of_calls hc w).trans haudits, ?_⟩
    rw [calls_of_calls hc]
    exact hattests
  · intro id args filter hc hfilter
    rw [audits_of_calls hc]
    refine ⟨Listing.eq_givenFilter hfilter, ?_⟩
    rcases Listing.attests hfilter w with hfails | ⟨items, hresult, record, haudits, hattests⟩
    · exact .inl hfails
    · exact .inr ⟨items, record, delivered_of_list hc hresult, haudits, hattests⟩

end Rpc

namespace Session

variable {σ : Type}

/-- Whatever the lines are, whatever they meet and whatever becomes of their records, the records
agree with the calls and the answers. -/
theorem run_truthful (backend : Audit.Backend σ) (store : σ) (turns : List Turn) :
    let s := run backend store turns
    s.log.map Handled.turn = turns ∧
      ∀ h ∈ s.log, Rpc.Truthful h.turn.world h.turn.line h.reply h.events :=
  run_each (P := fun turn reply events => Rpc.Truthful turn.world turn.line reply events)
    (fun turn => Rpc.handleLine_truthful turn.world turn.line) store turns

/-- The script cannot be read, and nothing is run; the record tells of what would have been. -/
theorem script_truthful :
    let turn : Turn := ⟨Rpc.scriptLine, World.unreachable, "now"⟩
    let s := run Audit.Gauge.perform { failing := [.makeDir] } [turn]
    ∃ id args, Rpc.Calls Rpc.scriptLine id .exec args ∧ Exec.ScriptUnreadable turn.world args ∧
      ∃ h ∈ s.log, h.turn = turn ∧ ∃ v record, audits h.events = [record] ∧
        Exec.Attests (Exec.Sends args) (some "up.sh") v record := by
  intro turn s
  obtain ⟨id, args, r, hc, hr, hscript⟩ := Rpc.calls_scriptLine
  obtain ⟨hturns, hlog⟩ := run_truthful Audit.Gauge.perform { failing := [.makeDir] } [turn]
  obtain ⟨h, hh, hturn⟩ := exists_handled hturns (List.mem_singleton_self turn)
  have htruthful := hlog h hh
  rw [hturn] at htruthful
  obtain ⟨v, record, -, haudits, hattests⟩ := htruthful.exec id args hc ⟨r, hr⟩
  rw [← Exec.script_eq_givenScript hr, hscript] at hattests
  exact ⟨id, args, hc, ⟨r, "up.sh", "unreachable", hr, hscript, rfl⟩, h, hh, hturn, v, record,
    haudits, hattests⟩

end Session

end FleetDesk
