import FleetDesk.Proofs.Disk
import FleetDesk.Proofs.Json.Members
import FleetDesk.Proofs.Rpc.InBand
import FleetDesk.Proofs.Tool.Outcomes

/-!
# From a request to its report

A request has one command run, with the text of its script as input if it names one, and answers
with the output of the command, redacted and cut to so many characters. A script that cannot be read
as text has nothing run. This holds of every request, whatever the files and the node
(`Exec.perform_reported`).
-/

namespace FleetDesk

namespace Exec

/-! ### What a request has run -/

/-- The one command of a request whose script, if it has one, was read as `stdin`. -/
def Request.toRun (r : Request) (stdin : Option String) : Remote.Command where
  host := r.ip
  text := if stdin.isSome ∧ Text.isBlankText r.command then "bash -s" else r.command
  stdin := stdin
  limit := r.limit

/-- The file of a script holds this text. -/
def ScriptHolds (d : Disk) (home : Option String) (path text : String) : Prop :=
  d.read (Home.expand home path) = .ok text.toUTF8

/-- A world whose scripts are the files of a disk. -/
def onFiles (w : World) (d : Disk) : World := { w with script := d.readText }

theorem command?_of_no_script {r : Request} (w : World) (h : r.script = none) :
    r.command? w = .ok (r.toRun none) := by
  simp [Request.command?, Request.toRun, Request.remoteText, h]

theorem command?_of_script {r : Request} {w : World} {d : Disk} {path text : String}
    (h : r.script = some path) (htext : ScriptHolds d w.home path text) :
    r.command? (onFiles w d) = .ok (r.toRun (some text)) := by
  have hread : (onFiles w d).script (Home.expand (onFiles w d).home path) = .ok text :=
    Disk.readText_eq_ok.2 htext
  simp [Request.command?, Request.toRun, Request.remoteText, scriptShell, h, hread]

theorem command?_of_no_text {r : Request} {w : World} {d : Disk} {path : String}
    (h : r.script = some path) (hno : ∀ text, ¬ ScriptHolds d w.home path text) :
    ∃ why, r.command? (onFiles w d) = .error why := by
  cases hread : (onFiles w d).script (Home.expand (onFiles w d).home path) with
  | error why => simp [Request.command?, h, hread]
  | ok text => exact absurd (Disk.readText_eq_ok.1 hread) (hno text)

/-! ### What a response shows -/

/-- `shown` is the start of the redacted text, and `shortened` says whether that is not all of it. -/
structure ShowsText (raw : String) (limit : Nat) (shown : String) (shortened : Bool) : Prop where
  start : shown.toList = (Text.redact raw).toList.take limit
  shortened : shortened = true ↔ limit < (Text.redact raw).toList.length

/-- The response is made of the output of a command. -/
structure ShowsOutput (o : Remote.Output) (v : Json) : Prop where
  keys : v.keys = ["exitCode", "status", "stderr", "stderrTruncated", "stdout", "truncated"]
  status : v.get? "status" = some (.string (if o.exitCode = -1 then "timeout" else "success"))
  exitCode : v.get? "exitCode" = some (Json.int o.exitCode)
  stdout : ∃ shown shortened, ShowsText o.stdout 10000 shown shortened ∧
    v.get? "stdout" = some (.string shown) ∧ v.get? "truncated" = some (.bool shortened)
  stderr : ∃ shown shortened, ShowsText o.stderr 2000 shown shortened ∧
    v.get? "stderr" = some (.string shown) ∧ v.get? "stderrTruncated" = some (.bool shortened)

/-- The response says only why nothing came back from the node. -/
structure ShowsFailure (why : String) (v : Json) : Prop where
  keys : v.keys = ["error", "exitCode", "status"]
  status : v.get? "status" = some (.string "ssh_error")
  error : v.get? "error" = some (.string why)
  exitCode : v.get? "exitCode" = some (Json.int (-1))

theorem showsText_cut (raw : String) (limit : Nat) :
    ShowsText raw limit (Text.cut (Text.redact raw) limit).kept
      (Text.cut (Text.redact raw) limit).shortened where
  start := by rw [Text.cut_kept, String.toList_ofList]
  shortened := by rw [Text.cut_shortened, decide_eq_true_iff]

theorem Response.keys_toJson (r : Response) : r.toJson.keys = match r with
    | success _ | timeout _ =>
      ["exitCode", "status", "stderr", "stderrTruncated", "stdout", "truncated"]
    | sshError _ => ["error", "exitCode", "status"] := by
  cases r <;>
    simp [-String.lt_iff_ltb, toJson, Json.ofMembers, Json.sortMembers, members, reportMembers,
      Json.insertMember, Json.keys]

theorem showsOutput_ofOutput (o : Remote.Output) : ShowsOutput o (Response.ofOutput o).toJson := by
  have hout := showsText_cut o.stdout maxStdoutChars
  have herr := showsText_cut o.stderr maxStderrChars
  rcases Response.ofOutput_cases o with ⟨hcode, ho⟩ | ⟨hcode, ho⟩ <;> rw [ho]
  all_goals
    refine ⟨Response.keys_toJson _, ?_, ?_, ⟨_, _, hout, ?_, ?_⟩, ⟨_, _, herr, ?_, ?_⟩⟩ <;>
      simp [Response.toJson, Response.members, Response.status, Response.reportMembers,
        Report.ofOutput, Json.get?_ofMembers, hcode]

theorem showsFailure_sshError (why : String) :
    ShowsFailure why (Response.sshError why).toJson where
  keys := Response.keys_toJson _
  status := Response.get?_status _
  error := by simp [Response.toJson, Response.members, Json.get?_ofMembers]
  exitCode := by
    simp [Response.toJson, Response.members, Json.get?_ofMembers, Remote.timeoutExitCode]

/-! ### From the request to the response -/

/-- The calls that a request makes, and the response to it. -/
structure Reported (w : World) (d : Disk) (r : Request) (made : List Call) (v : Json) : Prop where
  plain : r.script = none → made = [.run (r.toRun none)]
  script : ∀ path text, r.script = some path → ScriptHolds d w.home path text →
    made = [.run (r.toRun (some text))]
  unreadable : ∀ path, r.script = some path → (∀ text, ¬ ScriptHolds d w.home path text) →
    made = [] ∧ ∃ why, ShowsFailure why v
  output : ∀ c o, .run c ∈ made → w.run c = .ok o → ShowsOutput o v
  failure : ∀ c f, .run c ∈ made → w.run c = .error f → ShowsFailure f.message v

theorem reported_of_error {w : World} {d : Disk} {r : Request} {why : String}
    (h : r.command? (onFiles w d) = .error why) :
    Reported w d r [] (Response.sshError why).toJson where
  plain hr := by rw [command?_of_no_script _ hr] at h; cases h
  script path text hr htext := by rw [command?_of_script hr htext] at h; cases h
  unreadable _ _ _ := ⟨rfl, why, showsFailure_sshError why⟩
  output c o hc := by cases hc
  failure c f hc := by cases hc

theorem reported_of_ok {w : World} {d : Disk} {r : Request} {c : Remote.Command}
    (h : r.command? (onFiles w d) = .ok c) :
    Reported w d r [.run c] (Response.ofResult (w.run c)).toJson where
  plain hr := by
    rw [command?_of_no_script _ hr] at h
    rw [Except.ok.inj h]
  script path text hr htext := by
    rw [command?_of_script hr htext] at h
    rw [Except.ok.inj h]
  unreadable path hr hno := by
    obtain ⟨why, hwhy⟩ := command?_of_no_text hr hno
    rw [hwhy] at h
    cases h
  output c' o hc ho := by
    obtain rfl : c' = c := by simpa using hc
    rw [ho]
    exact showsOutput_ofOutput o
  failure c' f hc hf := by
    obtain rfl : c' = c := by simpa using hc
    rw [hf]
    exact showsFailure_sshError f.message

/-- Every request makes the calls that its script asks for and answers with what came of them; the
tool makes the same calls for its arguments, and gives this answer. -/
theorem perform_reported (w : World) (d : Disk) (r : Request) :
    Reported w d r (calls (r.perform (onFiles w d)).2) (r.perform (onFiles w d)).1.toJson ∧
      ∀ args, parse args = .ok r →
        handle (onFiles w d) args =
          ⟨.ok (r.perform (onFiles w d)).1.toJson, (r.perform (onFiles w d)).2⟩ := by
  refine ⟨?_, fun args hr => handle_eq hr (onFiles w d)⟩
  obtain ⟨-, ⟨why, hc, hcalls, hresponse⟩ | ⟨c, hc, hcalls, hresponse⟩⟩ :=
    perform_cases (onFiles w d) r
  · rw [hcalls, hresponse]
    exact reported_of_error hc
  · rw [hcalls, hresponse]
    exact reported_of_ok hc

end Exec

end FleetDesk
