import FleetDesk.Proofs.Json.OneLine
import FleetDesk.Proofs.Rpc.Session
import FleetDesk.Proofs.Rpc.Stream

/-!
# Serving an input is handling its lines

A session that serves an input handles, one after the other, the lines in front of the first that is
no text, and nothing else (`Session.serve_refines`). Every reply is written on one line, so the
replies can be read off the output again (`Session.splitOn_output`). The server and the program
serve in this way (`Rpc.serve_eq`, `Program.serve_session`).
-/

namespace FleetDesk

namespace Rpc

/-- Texts that are written on a line each can be told apart again. -/
theorem splitOn_encode_lines {payloads : List String} (h : ∀ p ∈ payloads, '\n' ∉ p.toList) :
    (Utf8.encode (String.join (payloads.map (· ++ "\n")))).splitOn lineFeed =
      payloads.map Utf8.encode ++ [[]] := by
  induction payloads with
  | nil => rw [Utf8.encode_eq]; rfl
  | cons p ps ih =>
    have hp : lineFeed ∉ Utf8.encode p := fun hmem =>
      h p List.mem_cons_self (Utf8.mem_encode_lineFeed.1 hmem)
    rw [List.map_cons, String.join_cons, Utf8.encode_append, Utf8.encode_append, encode_lineFeed,
      List.append_assoc, List.singleton_append, List.splitOn_append_cons_self_of_not_mem hp,
      ih fun q hq => h q (List.mem_cons_of_mem p hq)]
    rfl

end Rpc

namespace Session

variable {σ : Type} {backend : Audit.Backend σ}

def replies (s : Session σ) : List Rpc.Reply := s.log.filterMap Handled.reply

theorem output_replies (s : Session σ) : s.output =
    String.join ((s.replies.map fun r => r.toJson.compact).map (· ++ "\n")) := by
  rw [output, replies]
  induction s.log with
  | nil => rfl
  | cons h log ih =>
    rw [List.map_cons, String.join_cons, ih]
    cases hr : h.reply with
    | none => rw [List.filterMap_cons_none hr, Rpc.written]; simp
    | some r =>
      rw [List.filterMap_cons_some hr, List.map_cons, List.map_cons, String.join_cons]
      rfl

theorem splitOn_output (s : Session σ) : (Utf8.encode s.output).splitOn Rpc.lineFeed =
    (s.replies.map fun r => Utf8.encode r.toJson.compact) ++ [[]] := by
  rw [output_replies, Rpc.splitOn_encode_lines, List.map_map]
  · rfl
  · intro p hp
    obtain ⟨r, -, rfl⟩ := List.mem_map.1 hp
    exact Json.lineFeed_notMem_compact _

/-- Serves an input. What a line meets, and when, may depend on all that came before it. -/
def serve (backend : Audit.Backend σ) (meets : Session σ → World × String) (store : σ)
    (input : List UInt8) : Session σ × Option Utf8.Flaw :=
  Rpc.feed (fun s line => s.handle backend ⟨line, (meets s).1, (meets s).2⟩)
    { trail := { store } } input

/-- Lines that meet what their turn brings are turns of the session. -/
theorem exists_turns (backend : Audit.Backend σ) (meets : Session σ → World × String)
    (texts : List String) (s : Session σ) :
    ∃ turns : List Turn, turns.map Turn.line = texts ∧
      texts.foldl (fun s line => s.handle backend ⟨line, (meets s).1, (meets s).2⟩) s =
        turns.foldl (handle backend) s ∧
      ∀ before turn after, turns = before ++ turn :: after →
        (turn.world, turn.stamp) = meets (before.foldl (handle backend) s) := by
  induction texts generalizing s with
  | nil => exact ⟨[], rfl, rfl, by simp⟩
  | cons text texts ih =>
    let first : Turn := ⟨text, (meets s).1, (meets s).2⟩
    obtain ⟨turns, rfl, hfold, hmeets⟩ := ih (s.handle backend first)
    refine ⟨first :: turns, rfl, ?_, ?_⟩
    · rw [List.foldl_cons, List.foldl_cons, hfold]
    intro before turn after heq
    cases before with
    | nil => cases heq; rfl
    | cons t before =>
      injection heq with ht heq
      subst ht
      rw [List.foldl_cons]
      exact hmeets before turn after heq

/-- The turns were taken one after the other, each by itself, and the trail took note of them. -/
structure Handles (backend : Audit.Backend σ) (store : σ) (turns : List Turn) (s : Session σ) :
    Prop where
  turns : s.log.map Handled.turn = turns
  each : ∀ h ∈ s.log, (h.reply, h.events) = Rpc.handleLine h.turn.world h.turn.line
  trail : s.trail = s.log.foldl (fun t h => h.events.foldl (meet backend h.turn.stamp) t) { store }

theorem Handles.handle {store : σ} {turns : List Turn} {s : Session σ}
    (h : Handles backend store turns s) (turn : Turn) :
    Handles backend store (turns ++ [turn]) (s.handle backend turn) := by
  refine ⟨?_, ?_, ?_⟩
  · rw [handle_log, List.map_append, h.turns]
    rfl
  · rw [handle_log]
    intro e he
    rcases List.mem_append.1 he with he | he
    · exact h.each e he
    · rw [List.mem_singleton.1 he]
  · rw [handle_log, List.foldl_append, ← h.trail, handle_trail, List.foldl_cons, List.foldl_nil]

theorem Handles.foldl {store : σ} {before : List Turn} {s : Session σ}
    (h : Handles backend store before s) (turns : List Turn) :
    Handles backend store (before ++ turns) (turns.foldl (Session.handle backend) s) := by
  induction turns generalizing before s with
  | nil => rwa [List.append_nil]
  | cons turn turns ih =>
    rw [List.append_cons, List.foldl_cons]
    exact ih (h.handle turn)

theorem run_handles (backend : Audit.Backend σ) (store : σ) (turns : List Turn) :
    Handles backend store turns (run backend store turns) := by
  have hstart : Handles backend store [] { trail := { store } } := ⟨rfl, by simp, rfl⟩
  exact hstart.foldl turns

end Session

/-! ### The server and the program -/

namespace Rpc

/-- In a world that stays as it is. -/
theorem serve_eq {σ : Type} (backend : Audit.Backend σ) (w : World) (stamp : String) (store : σ)
    (input : List UInt8) :
    let served := Session.serve backend (fun _ => (w, stamp)) store input
    serve w input =
      ⟨served.1.output, served.1.log.flatMap Handled.events, served.2.map brokenInput⟩ := by
  have hstep : ∀ (s : Session σ) (t : Served) (line : String),
      t = ⟨s.output, s.log.flatMap Handled.events, none⟩ →
      t.handle w line = ⟨(s.handle backend ⟨line, w, stamp⟩).output,
        (s.handle backend ⟨line, w, stamp⟩).log.flatMap Handled.events, none⟩ := by
    rintro s t line rfl
    simp [Served.handle, Session.output, Session.handle_log, String.join_append]
  obtain ⟨hserved, hflaw⟩ := feed_rel
    (R := fun (s : Session σ) (t : Served) => t = ⟨s.output, s.log.flatMap Handled.events, none⟩)
    hstep (s := { trail := { store } }) (t := {}) rfl input
  simp only [serve, Session.serve, hserved, hflaw]

end Rpc

namespace Program

/-- What the lines of a program meet: the network, and the files as they are by then. -/
def meets (desk : Desk) (net : Network) (home : Option String) (stamps : Stamps)
    (s : Session Disk) : World × String :=
  (desk.world net home s.trail.store.readText, stamps.record)

theorem serve_session (net : Network) (env : Environment) (stamps : Stamps) (d : Disk)
    (startup : Startup) (desk : Desk) (stdin : List UInt8) :
    let served := Session.serve (auditBackend desk) (meets desk net env.home? stamps) d stdin
    let transcript := serve net env stamps d startup desk stdin
    transcript.stdout = served.1.output ∧ transcript.disk = served.1.trail.store ∧
      (transcript.exit = 0 ↔ served.2 = none) := by
  have hstep : ∀ (t : Session Disk) (s : State) (line : String), Follows t s →
      Follows (t.handle (auditBackend desk) ⟨line, (meets desk net env.home? stamps t).1,
        (meets desk net env.home? stamps t).2⟩) (s.handle desk net env.home? stamps line) := by
    intro t s line h
    rw [meets, h.trail]
    exact h.handle line
  have hstart : Follows { trail := { store := d } }
      { trail := { store := d }, entries := startup.entries ++ [servingEntry] } := ⟨rfl, rfl⟩
  obtain ⟨⟨htrail, houtput⟩, hflaw⟩ := Rpc.feed_rel hstep hstart stdin
  refine ⟨houtput.symm, congrArg Audit.Trail.store htrail.symm, ?_⟩
  have hexit : (serve net env stamps d startup desk stdin).exit =
      if (Session.serve (auditBackend desk) (meets desk net env.home? stamps) d stdin).2.isSome
        then 1 else 0 := by
    rw [serve, Session.serve, hflaw]
  rw [hexit]
  cases (Session.serve (auditBackend desk) (meets desk net env.home? stamps) d stdin).2 <;> simp

end Program

namespace Session

/-- Whatever the bytes of an input are, whatever its lines meet and whatever becomes of the trail:
the lines up to the first that is no text are handled in order, each in the world that it meets, and
the output is their replies, each on a line. -/
theorem serve_refines (backend : Audit.Backend σ) (meets : Session σ → World × String) (store : σ)
    (input : List UInt8) :
    let s := (serve backend meets store input).1
    let flaw := (serve backend meets store input).2
    ∃ turns : List Turn,
      Rpc.Decoded input (turns.map Turn.line) flaw ∧
      (∀ before turn after, turns = before ++ turn :: after →
        (turn.world, turn.stamp) = meets (run backend store before)) ∧
      Handles backend store turns s ∧
      s.output = String.join (s.replies.map fun r => r.toJson.compact ++ "\n") ∧
      (Utf8.encode s.output).splitOn Rpc.lineFeed =
        (s.replies.map fun r => Utf8.encode r.toJson.compact) ++ [[]] ∧
      (∀ r ∈ s.replies, '\n' ∉ r.toJson.compact.toList) ∧
      (flaw = none ↔ ∀ line ∈ Rpc.lines input, ∃ t, Utf8.encode t = line) ∧
      (∀ f, (Rpc.brokenInput f).kind = .internal) ∧
      ∀ w stamp, (meets = fun _ => (w, stamp)) →
        Rpc.serve w input =
          ⟨s.output, s.log.flatMap Handled.events, flaw.map Rpc.brokenInput⟩ := by
  intro s flaw
  obtain ⟨texts, htexts, hserve⟩ := Rpc.exists_feed
    (fun (s : Session σ) line => s.handle backend ⟨line, (meets s).1, (meets s).2⟩)
    { trail := { store } } input
  obtain ⟨turns, rfl, hturns, hmeets⟩ := exists_turns backend meets texts { trail := { store } }
  have hs : s = run backend store turns := hserve.trans hturns
  refine ⟨turns, htexts, hmeets, hs ▸ run_handles backend store turns, ?_, splitOn_output s,
    fun r _ => Json.lineFeed_notMem_compact r.toJson, htexts.flaw_eq_none, fun _ => rfl, ?_⟩
  · rw [output_replies, List.map_map]
    rfl
  · rintro w stamp rfl
    exact Rpc.serve_eq backend w stamp store input

end Session

end FleetDesk
