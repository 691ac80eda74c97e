import FleetDesk.Proofs.Json.Members
import FleetDesk.Proofs.Rpc.AuditOnce

/-!
# Replies to tool calls

A line that calls a tool is answered with what comes of the tool, and its effects are those of the
tool (`handleLine_of_calls`). A value is delivered as a result with one block of text
(`Reply.Delivers`), a fault takes the place of the result (`Reply.Refuses`).
-/

namespace FleetDesk.Rpc

theorem handleLine_of_calls {line : String} {id : Json} {tool : Tool} {args : Json}
    (h : Calls line id tool args) (w : World) :
    handleLine w line =
      (some (toolReply id tool.name (tool.handle w args).result),
        (tool.handle w args).events ++
          [.log (Registry.entry w.callTime tool.name (tool.handle w args).result)]) := by
  rw [handleLine, decide_eq_call_iff.2 h, perform, Registry.execute, find?_registry_name]

theorem audits_of_calls {line : String} {id : Json} {tool : Tool} {args : Json}
    (h : Calls line id tool args) (w : World) :
    audits (handleLine w line).2 = audits (tool.handle w args).events := by
  rw [handleLine_of_calls h, audits_append]
  exact List.append_nil _

theorem calls_of_calls {line : String} {id : Json} {tool : Tool} {args : Json}
    (h : Calls line id tool args) (w : World) :
    calls (handleLine w line).2 = calls (tool.handle w args).events := by
  rw [handleLine_of_calls h, calls_append]
  exact List.append_nil _

/-- A result with the text in its only block, and no error. -/
structure Reply.Delivers (r : Reply) (id : Json) (text : String) : Prop where
  id : r.toJson.get? "id" = some id
  result : ∃ result block, r.toJson.get? "result" = some result ∧
    result.get? "content" = some (.array [block]) ∧ block.get? "type" = some (.string "text") ∧
    block.get? "text" = some (.string text) ∧ result.get? "isError" = none
  error : r.toJson.get? "error" = none

theorem delivers_toolReply (id : Json) (tool : String) (v : Json) :
    (toolReply id tool (.ok v)).Delivers id (resultText tool v) := by
  let text := resultText tool v
  let block := Json.ofMembers [("type", .string "text"), ("text", .string text)]
  let result := TextResult.toJson Json.ofMembers { text }
  have hcontent : result.get? "content" = some (.array [block]) := by
    simp [result, block, TextResult.toJson, Json.get?_ofMembers]
  have herror : result.get? "isError" = none := by
    simp [result, TextResult.toJson, Json.get?_ofMembers]
  have htype : block.get? "type" = some (.string "text") := by simp [block, Json.get?_ofMembers]
  have htext : block.get? "text" = some (.string text) := by simp [block, Json.get?_ofMembers]
  refine ⟨?_, ⟨result, block, ?_, hcontent, htype, htext, herror⟩, ?_⟩ <;>
    simp [toolReply, Reply.success, Reply.toJson, Json.member?, result, text]

/-- There is a reply, and it delivers the text. -/
def Delivered (reply : Option Reply) (id : Json) (text : String) : Prop :=
  ∃ r, reply = some r ∧ r.Delivers id text

/-- Every value but a list is delivered in its compact form. -/
theorem delivered_of_result {w : World} {line : String} {id : Json} {tool : Tool} {args v : Json}
    (hc : Calls line id tool args) (hl : tool ≠ .list)
    (h : (tool.handle w args).result = .ok v) :
    Delivered (handleLine w line).1 id v.compact := by
  have htext : resultText tool.name v = v.compact := by
    rw [resultText, if_neg]
    cases tool <;> simp_all [Tool.name, Listing.toolName]
  rw [handleLine_of_calls hc, h, ← htext]
  exact ⟨_, rfl, delivers_toolReply id tool.name v⟩

theorem delivered_of_list {w : World} {line : String} {id : Json} {args v : Json}
    (hc : Calls line id .list args) (h : (Listing.handle w args).result = .ok v) :
    Delivered (handleLine w line).1 id v.pretty := by
  rw [handleLine_of_calls hc, Tool.handle, h]
  exact ⟨_, rfl, delivers_toolReply id Tool.list.name v⟩

/-- An error in place of a result. -/
structure Reply.Refuses (r : Reply) (id : Json) (e : Error) : Prop where
  id : r.toJson.get? "id" = some id
  result : r.toJson.get? "result" = none
  error : ∃ error, r.toJson.get? "error" = some error ∧
    error.get? "code" = some (Json.int e.code.number) ∧
    error.get? "message" = some (.string e.message)

theorem refuses_toolReply (id : Json) (tool : String) (f : Fault) :
    (toolReply id tool (.error f)).Refuses id (.ofFault tool f) := by
  refine ⟨?_, ?_, _, rfl, ?_, ?_⟩ <;>
    simp [toolReply, Reply.failure, Reply.toJson, Json.member?]

theorem Reply.Delivers.not_refuses {r : Reply} {id : Json} {text : String} (h : r.Delivers id text)
    (id' : Json) (e : Error) : ¬ r.Refuses id' e := by
  intro hr
  obtain ⟨error, he, -⟩ := hr.error
  rw [h.error] at he
  cases he

end FleetDesk.Rpc
