import FleetDesk.Proofs.Rpc.AuditOnce
import FleetDesk.Program.Transcript

/-!
# Sessions

A session handles lines one after the other. Every line meets a world of its own, and the store of
the trail may fail or crash at every operation. Whatever happens, the lines are handled as each by
itself, and the tally counts every record once (`Session.run_sound`). The program handles a line as
a session on its file tree does (`Program.Follows.handle`).
-/

namespace FleetDesk

/-- A line and what it meets. -/
structure Turn where
  line : String
  world : World
  stamp : String

/-- What came of a line. -/
structure Handled where
  turn : Turn
  reply : Option Rpc.Reply
  events : List Event

structure Session (σ : Type) where
  trail : Audit.Trail σ
  log : List Handled := []

namespace Session

variable {σ : Type} (backend : Audit.Backend σ)

/-- The trail takes note of records only. -/
def meet (stamp : String) (t : Audit.Trail σ) : Event → Audit.Trail σ
  | .audit r => (t.record backend (r.render stamp)).1
  | _ => t

def handle (s : Session σ) (turn : Turn) : Session σ :=
  let answer := Rpc.handleLine turn.world turn.line
  ⟨answer.2.foldl (meet backend turn.stamp) s.trail, s.log ++ [⟨turn, answer.1, answer.2⟩]⟩

def run (store : σ) (turns : List Turn) : Session σ :=
  turns.foldl (handle backend) { trail := { store } }

def attempts (s : Session σ) : List Audit.Record := s.log.flatMap fun h => audits h.events

/-- Every line was handled as it must be, and every record counted. -/
structure Sound (s : Session σ) : Prop where
  handled : ∀ h ∈ s.log, (h.reply, h.events) = Rpc.handleLine h.turn.world h.turn.line
  total : s.trail.tally.written + s.trail.tally.failed = s.attempts.length
  rotations : s.trail.tally.rotations ≤ s.trail.tally.written

variable {backend}

theorem handle_trail (s : Session σ) (turn : Turn) :
    (s.handle backend turn).trail =
      (Rpc.handleLine turn.world turn.line).2.foldl (meet backend turn.stamp) s.trail := rfl

theorem handle_log (s : Session σ) (turn : Turn) :
    (s.handle backend turn).log = s.log ++
      [⟨turn, (Rpc.handleLine turn.world turn.line).1,
        (Rpc.handleLine turn.world turn.line).2⟩] := rfl

theorem meet_total (stamp : String) (t : Audit.Trail σ) (e : Event) :
    (meet backend stamp t e).tally.written + (meet backend stamp t e).tally.failed =
      t.tally.written + t.tally.failed + (audits [e]).length := by
  cases e with
  | audit r => exact Audit.Tally.add_total _ _
  | call c => rfl
  | log e => rfl

theorem meet_rotations {t : Audit.Trail σ} (h : t.tally.rotations ≤ t.tally.written)
    (stamp : String) (e : Event) :
    (meet backend stamp t e).tally.rotations ≤ (meet backend stamp t e).tally.written := by
  cases e with
  | audit r => exact Audit.Tally.add_rotations_le h _
  | call c => exact h
  | log e => exact h

theorem foldl_meet_total (stamp : String) (events : List Event) (t : Audit.Trail σ) :
    (events.foldl (meet backend stamp) t).tally.written +
        (events.foldl (meet backend stamp) t).tally.failed =
      t.tally.written + t.tally.failed + (audits events).length := by
  induction events generalizing t with
  | nil => rfl
  | cons e es ih =>
    rw [← List.singleton_append, audits_append, List.length_append, List.singleton_append,
      List.foldl_cons, ih, meet_total]
    omega

theorem foldl_meet_rotations {t : Audit.Trail σ} (h : t.tally.rotations ≤ t.tally.written)
    (stamp : String) (events : List Event) :
    (events.foldl (meet backend stamp) t).tally.rotations ≤
      (events.foldl (meet backend stamp) t).tally.written := by
  induction events generalizing t with
  | nil => exact h
  | cons e es ih => exact ih (meet_rotations h stamp e)

theorem Sound.start (store : σ) : Sound (σ := σ) { trail := { store } } :=
  ⟨by simp, rfl, Nat.le_refl 0⟩

theorem Sound.handle {s : Session σ} (h : s.Sound) (turn : Turn) :
    (s.handle backend turn).Sound := by
  refine ⟨?_, ?_, ?_⟩
  · intro e he
    rw [handle_log] at he
    rcases List.mem_append.1 he with he | he
    · exact h.handled e he
    · rw [List.mem_singleton.1 he]
  · have htotal := h.total
    rw [handle_trail, foldl_meet_total, attempts, handle_log, List.flatMap_append,
      List.flatMap_singleton, List.length_append, htotal]
    rfl
  · rw [handle_trail]
    exact foldl_meet_rotations h.rotations _ _

theorem run_sound (store : σ) (turns : List Turn) : (run backend store turns).Sound := by
  rw [run]
  suffices h : ∀ s : Session σ, s.Sound → (turns.foldl (Session.handle backend) s).Sound from
    h _ (Sound.start store)
  intro s hs
  induction turns generalizing s with
  | nil => exact hs
  | cons turn turns ih =>
    rw [List.foldl_cons]
    exact ih _ (hs.handle turn)

theorem log_foldl_handle (turns : List Turn) (s : Session σ) :
    (turns.foldl (Session.handle backend) s).log.map Handled.turn =
      s.log.map Handled.turn ++ turns := by
  induction turns generalizing s with
  | nil => simp
  | cons turn turns ih => rw [List.foldl_cons, ih, handle_log]; simp

/-- What holds of every line by itself holds of the lines of a session. -/
theorem run_each {P : Turn → Option Rpc.Reply → List Event → Prop}
    (hP : ∀ turn : Turn, P turn (Rpc.handleLine turn.world turn.line).1
      (Rpc.handleLine turn.world turn.line).2)
    (store : σ) (turns : List Turn) :
    let s := run backend store turns
    s.log.map Handled.turn = turns ∧ ∀ h ∈ s.log, P h.turn h.reply h.events := by
  intro s
  refine ⟨log_foldl_handle turns _, fun h hh => ?_⟩
  have hhandled := (run_sound store turns).handled h hh
  have hP := hP h.turn
  rw [← hhandled] at hP
  exact hP

/-- Every turn has its place in the log. -/
theorem exists_handled {s : Session σ} {turns : List Turn} (h : s.log.map Handled.turn = turns)
    {turn : Turn} (ht : turn ∈ turns) : ∃ e ∈ s.log, e.turn = turn := by
  rw [← h] at ht
  exact List.mem_map.1 ht

/-- Whatever the lines are and whatever they meet, each tool call is recorded as it must be, after
its remote call, and the tally counts the records. -/
theorem run_audited_once (backend : Audit.Backend σ) (store : σ) (turns : List Turn) :
    let s := run backend store turns
    s.log.map Handled.turn = turns ∧
      (∀ h ∈ s.log, Rpc.AuditedOnce h.turn.world h.turn.line h.events) ∧
      s.trail.tally.written + s.trail.tally.failed = s.attempts.length ∧
      s.trail.tally.rotations ≤ s.trail.tally.written := by
  intro s
  have hs : s.Sound := run_sound store turns
  refine ⟨log_foldl_handle turns _, fun h hh => ?_, hs.total, hs.rotations⟩
  have hevents : h.events = (Rpc.handleLine h.turn.world h.turn.line).2 :=
    congrArg Prod.snd (hs.handled h hh)
  rw [hevents]
  exact Rpc.handleLine_auditedOnce _ _

/-! ### A session of one line -/

def pingLine : String :=
  "\x7b\"jsonrpc\":\"2.0\",\"id\":7,\"method\":\"tools/call\",\"params\":"
    ++ "\x7b\"name\":\"ping_node\",\"arguments\":\x7b\"ip\":\"10.0.0.7\"\x7d\x7d\x7d"

def isPing : Rpc.Action → Bool
  | .call _ name args => name == Tool.ping.name && (Ping.parse args).toBool
  | _ => false

theorem calls_pingLine : ∃ id args, Rpc.Calls pingLine id .ping args ∧ Tool.ping.Accepts args := by
  have h : isPing (Rpc.decide pingLine) := by decide +kernel
  cases hd : Rpc.decide pingLine with
  | silence => rw [hd] at h; cases h
  | answer reply => rw [hd] at h; cases h
  | call id name args =>
    rw [hd, isPing, Bool.and_eq_true, beq_iff_eq] at h
    obtain ⟨rfl, hp⟩ := h
    refine ⟨id, args, Rpc.decide_eq_call_iff.1 hd, ?_⟩
    cases hip : Ping.parse args with
    | error c => rw [hip] at hp; cases hp
    | ok ip => exact ⟨ip, hip⟩

/-- The node cannot be reached and the record cannot be written, and still both are tried once. -/
theorem ping_audited_once :
    let turn : Turn := ⟨pingLine, World.unreachable, "now"⟩
    let s := run Audit.Gauge.perform { failing := [.append] } [turn]
    ∃ id args, Rpc.Calls pingLine id .ping args ∧ Tool.ping.Accepts args ∧
      ∃ h ∈ s.log, h.turn = turn ∧ ActsOnce turn.world .ping args h.events := by
  intro turn s
  obtain ⟨id, args, hc, ha⟩ := calls_pingLine
  obtain ⟨hturns, hlog, -⟩ := run_audited_once Audit.Gauge.perform { failing := [.append] } [turn]
  have hmem : turn ∈ s.log.map Handled.turn := by rw [hturns]; exact List.mem_singleton_self turn
  obtain ⟨h, hh, hturn⟩ := List.mem_map.1 hmem
  have hacts := hlog h hh
  rw [hturn] at hacts
  exact ⟨id, args, hc, ha, h, hh, hturn, hacts.acts id .ping args hc ha (by decide)⟩

end Session

/-! ### The program -/

namespace Session

/-- What is written to the standard output. -/
def output {σ : Type} (s : Session σ) : String :=
  String.join (s.log.map fun h => Rpc.written h.reply)

end Session

namespace Program

variable {desk : Desk} {net : Network} {home : Option String} {stamps : Stamps}

/-- The trail of a desk on the file tree. -/
def auditBackend (desk : Desk) : Audit.Backend Disk :=
  Audit.diskBackend desk.auditDir desk.auditFile

/-- What a line meets: the network, and the files as they are when it is handled. -/
def State.turn (desk : Desk) (net : Network) (home : Option String) (stamps : Stamps) (s : State)
    (line : String) : Turn :=
  ⟨line, desk.world net home s.trail.store.readText, stamps.record⟩

/-- The session and the program have the same trail and have written the same. -/
structure Follows (t : Session Disk) (s : State) : Prop where
  trail : t.trail = s.trail
  output : t.output = s.output

theorem foldl_meet_trail (w : World) (events : List Event) (s : State) :
    (events.foldl (State.meet desk w stamps) s).trail =
      events.foldl (Session.meet (auditBackend desk) stamps.record) s.trail := by
  induction events generalizing s with
  | nil => rfl
  | cons e es ih =>
    rw [List.foldl_cons, ih, List.foldl_cons]
    cases e <;> rfl

theorem foldl_meet_output (w : World) (events : List Event) (s : State) :
    (events.foldl (State.meet desk w stamps) s).output = s.output := by
  induction events generalizing s with
  | nil => rfl
  | cons e es ih =>
    rw [List.foldl_cons, ih]
    cases e <;> rfl

theorem Follows.handle {t : Session Disk} {s : State} (h : Follows t s) (line : String) :
    Follows (t.handle (auditBackend desk) (s.turn desk net home stamps line))
      (s.handle desk net home stamps line) := by
  refine ⟨?_, ?_⟩
  · simp only [Session.handle, State.handle, State.turn, foldl_meet_trail, h.trail]
  · simp only [Session.output, Session.handle, State.handle, State.turn, foldl_meet_output,
      ← h.output, List.map_append, List.map_singleton, String.join_append, String.join_cons,
      String.join_nil, String.append_empty]

end Program

end FleetDesk
