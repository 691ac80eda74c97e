import FleetDesk.Proofs.Audit.Store
import Mathlib.Data.List.DropRight

/-!
# Records side by side

Several records may be on their way at once. Each asks for its file operations one after the other,
and the operations of different records come in any order (`Crowd.run`); a record that is let alone
goes as on a trail of its own (`Crowd.run_alone_eq_record`). Whatever the order, the file holds
whole lines: those that were appended since it was last emptied, each at most once. In the end the
tally has counted every line that was appended (`Crowd.run_orderly`), also those that are gone: a
writer may empty the file because of a size that is out of date (`Crowd.stale_size_loses_line`).
-/

namespace FleetDesk.Audit

variable {σ : Type}

/-! ### Callers -/

/-- A record on its way: its line is being written, or the end of that has been counted. -/
inductive Caller where
  | writing (w : Writer)
  | counted (v : Verdict)
  deriving DecidableEq, Repr

def Verdict.isWritten : Verdict → Bool
  | written _ => true
  | _ => false

namespace Caller

def isCounted : Caller → Bool
  | writing _ => false
  | counted _ => true

/-- The line has been appended. -/
def hasLanded : Caller → Bool
  | writing w => w.verdict.isWritten
  | counted v => v.isWritten

/-- The end has been counted, as a line that was written or as one that was not. -/
def countedAs (written : Bool) : Caller → Bool
  | writing _ => false
  | counted v => v.isWritten == written

end Caller

/-- What was done in a store, and which caller asked for it, in order. -/
abbrev History := List (Nat × Op × Answer)

/-- Callers that share a store and a tally. -/
structure Crowd (σ : Type) where
  store : σ
  tally : Tally := {}
  callers : List Caller
  history : History := []

namespace Crowd

def start (store : σ) (lines : List String) : Crowd σ :=
  { store, callers := lines.map fun line => .writing (.start line) }

/-- One caller goes on: it performs the operation that is due, or has its end counted. -/
def step (backend : Backend σ) (s : Crowd σ) (i : Nat) : Crowd σ :=
  match s.callers[i]? with
  | some (.writing w) =>
    match w.next? with
    | some op =>
      let (a, store) := backend op s.store
      { s with
        store
        callers := s.callers.set i (.writing (w.advance a))
        history := s.history ++ [(i, op, a)] }
    | none =>
      { s with
        tally := s.tally.add w.verdict
        callers := s.callers.set i (.counted w.verdict) }
  | _ => s

/-- The callers go on in the order of the schedule. -/
def run (backend : Backend σ) (s : Crowd σ) (schedule : List Nat) : Crowd σ :=
  schedule.foldl (step backend) s

/-- All calls have come to their end. -/
def Settled (s : Crowd σ) : Prop := ∀ c ∈ s.callers, c.isCounted

end Crowd

/-! ### What has become of the lines -/

namespace History

/-- The caller and the line, if the operation was to append one and has done so. -/
def landed? : Nat × Op × Answer → Option (Nat × String)
  | (i, .append line, a) => if a.succeeded then some (i, line) else none
  | _ => none

/-- The operation has emptied the file. -/
def isEmptying (deed : Nat × Op × Answer) : Bool := deed.2.1 = .empty && deed.2.2.succeeded

/-- The lines that were appended, in order, with their callers. -/
def landed (h : History) : List (Nat × String) := h.filterMap landed?

/-- The lines that were appended since the file was last emptied. -/
def kept (h : History) : List (Nat × String) :=
  landed (h.rtakeWhile fun deed => !isEmptying deed)

theorem landed_concat (h : History) (deed : Nat × Op × Answer) :
    landed (h ++ [deed]) = landed h ++ (landed? deed).toList := by
  rw [landed, List.filterMap_append]
  cases hd : landed? deed <;> simp [landed, hd]

theorem kept_concat (h : History) (deed : Nat × Op × Answer) :
    kept (h ++ [deed]) = if isEmptying deed then [] else kept h ++ (landed? deed).toList := by
  rw [kept, List.rtakeWhile_concat]
  cases isEmptying deed with
  | false => exact landed_concat _ deed
  | true => rfl

theorem kept_suffix (h : History) : kept h <:+ landed h :=
  (List.rtakeWhile_suffix _ h).filterMap _

/-- Nothing is lost as long as the file is never emptied. -/
theorem kept_eq_landed {h : History} (hno : ∀ deed ∈ h, deed.2.1 ≠ .empty) :
    kept h = landed h := by
  have hall : h.rtakeWhile (fun deed => !isEmptying deed) = h :=
    List.rtakeWhile_eq_self_iff.2 fun deed hd => by simp [isEmptying, hno deed hd]
  rw [kept, hall]

theorem getD_applied (old : Option (List UInt8)) (i : Nat) (op : Op) (a : Answer) :
    (applied old (op, a)).getD [] =
      if isEmptying (i, op, a) then []
      else old.getD [] ++ (landed? (i, op, a)).toList.flatMap fun x => Utf8.encode x.2 := by
  cases op <;> cases ha : a.succeeded <;> simp [applied, Op.effect, isEmptying, landed?, ha]

end History

/-! ### Steps -/

namespace Writer

/-- The line that is still to be appended. -/
def line? : Writer → Option String
  | start line | measure line | rotate line | append line _ => some line
  | finished _ => none

theorem eq_finished_of_next? {w : Writer} (h : w.next? = none) : w = finished w.verdict := by
  cases w <;> first | rfl | cases h

theorem line?_advance {w : Writer} {a : Answer} {line : String}
    (h : (w.advance a).line? = some line) : w.line? = some line := by
  cases w with
  | start l =>
    rw [advance_start] at h
    split at h
    · exact h
    · cases h
  | measure l =>
    rw [advance_measure] at h
    split at h
    · cases h
    split at h
    · exact h
    · exact h
  | rotate l =>
    rw [advance_rotate] at h
    split at h
    · cases h
    · exact h
  | append l rotated =>
    rw [advance_append] at h
    cases h
  | finished v => exact h

theorem line?_of_landed? {w : Writer} {op : Op} (hop : w.next? = some op) {i : Nat} {a : Answer}
    {x : Nat × String} (h : History.landed? (i, op, a) = some x) :
    x.1 = i ∧ w.line? = some x.2 := by
  cases w with
  | append line rotated =>
    cases hop
    simp only [History.landed?, Option.ite_none_right_eq_some, Option.some.injEq] at h
    rw [← h.2]
    exact ⟨rfl, rfl⟩
  | finished v => cases hop
  | start | measure | rotate => cases hop; cases h

theorem isWritten_verdict_of_next? {w : Writer} {op : Op} (hop : w.next? = some op) :
    w.verdict.isWritten = false := by
  cases w <;> first | rfl | cases hop

theorem isWritten_verdict_advance {w : Writer} {op : Op} (hop : w.next? = some op) (i : Nat)
    (a : Answer) :
    (w.advance a).verdict.isWritten = (History.landed? (i, op, a)).isSome := by
  cases w with
  | append line rotated => cases hop; cases a <;> rfl
  | measure line =>
    cases hop
    rw [advance_measure]
    split
    · rfl
    split <;> rfl
  | finished v => cases hop
  | start | rotate => cases hop; cases a <;> rfl

end Writer

namespace Crowd

variable {backend : Backend σ}

/-- What a step can do, if it does anything. -/
inductive Steps (backend : Backend σ) (s : Crowd σ) (i : Nat) : Crowd σ → Prop
  | idle : Steps backend s i s
  | act {w : Writer} {op : Op} (hi : s.callers[i]? = some (.writing w)) (hop : w.next? = some op) :
    Steps backend s i
      { s with
        store := (backend op s.store).2
        callers := s.callers.set i (.writing (w.advance (backend op s.store).1))
        history := s.history ++ [(i, op, (backend op s.store).1)] }
  | count {v : Verdict} (hi : s.callers[i]? = some (.writing (.finished v))) :
    Steps backend s i
      { s with tally := s.tally.add v, callers := s.callers.set i (.counted v) }

theorem steps_step (backend : Backend σ) (s : Crowd σ) (i : Nat) :
    Steps backend s i (s.step backend i) := by
  unfold step
  split
  · next w hi =>
    split
    · next op hop => exact .act hi hop
    · next hop =>
      rw [Writer.eq_finished_of_next? hop] at hi
      exact .count hi
  · exact .idle

/-! ### One caller alone -/

theorem step_act {s : Crowd σ} {i : Nat} {w : Writer} {op : Op}
    (hi : s.callers[i]? = some (.writing w)) (hop : w.next? = some op) :
    s.step backend i =
      { s with
        store := (backend op s.store).2
        callers := s.callers.set i (.writing (w.advance (backend op s.store).1))
        history := s.history ++ [(i, op, (backend op s.store).1)] } := by
  simp only [step, hi, hop]

theorem step_count {s : Crowd σ} {i : Nat} {v : Verdict}
    (hi : s.callers[i]? = some (.writing (.finished v))) :
    s.step backend i =
      { s with tally := s.tally.add v, callers := s.callers.set i (.counted v) } := by
  simp only [step, hi]
  rfl

/-- A caller that is let alone until its end is counted goes as its writer runs. -/
theorem run_alone (backend : Backend σ) (w : Writer) (s : Crowd σ) {i : Nat}
    (hi : s.callers[i]? = some (.writing w)) :
    let r := w.run backend s.store
    s.run backend (List.replicate (r.trace.length + 1) i) =
      { store := r.store
        tally := s.tally.add r.verdict
        callers := s.callers.set i (.counted r.verdict)
        history := s.history ++ r.trace.map fun deed => (i, deed) } := by
  generalize hn : w.remaining = n
  induction n using Nat.strongRecOn generalizing w s with
  | ind n ih =>
    cases hop : w.next? with
    | none =>
      rw [Writer.eq_finished_of_next? hop] at hi ⊢
      simp only [run_finished, List.length_nil, List.map_nil, List.append_nil]
      exact step_count hi
    | some op =>
      have hlt := Writer.remaining_advance hop (backend op s.store).1
      have hstep : s.step backend i = _ := step_act hi hop
      have hset : (s.step backend i).callers[i]? =
          some (.writing (w.advance (backend op s.store).1)) := by
        rw [hstep]
        exact List.getElem?_set_self (List.getElem?_eq_some_iff.1 hi).1
      have hrest := ih _ (hn ▸ hlt) _ (s.step backend i) hset rfl
      rw [hstep] at hrest
      simp only [run_next hop, List.length_cons, List.map_cons]
      rw [List.replicate_succ, run, List.foldl_cons, ← run, hstep, hrest]
      simp

theorem run_alone_eq_record (backend : Backend σ) (s : Crowd σ) {i : Nat} {line : String}
    (hi : s.callers[i]? = some (.writing (.start line))) :
    let r := Trail.record backend ⟨s.tally, s.store⟩ line
    s.run backend (List.replicate (r.2.trace.length + 1) i) =
      { store := r.1.store
        tally := r.1.tally
        callers := s.callers.set i (.counted r.2.verdict)
        history := s.history ++ r.2.trace.map fun deed => (i, deed) } :=
  run_alone backend (.start line) s hi

/-! ### The file -/

variable {file : σ → Option (List UInt8)}

/-- The file holds the lines that were appended since it was last emptied, as they are. -/
def Content (file : σ → Option (List UInt8)) (s : Crowd σ) : Prop :=
  (file s.store).getD [] = s.history.kept.flatMap fun x => Utf8.encode x.2

theorem Content.step (hf : Faithful backend file) {s t : Crowd σ} {i : Nat} (h : Content file s)
    (hstep : Steps backend s i t) : Content file t := by
  cases hstep with
  | idle | count => exact h
  | act hi hop =>
    rw [Content] at h
    rw [Content, hf _ s.store, History.getD_applied _ i, History.kept_concat, h]
    split
    · rfl
    · exact List.flatMap_append.symm

/-! ### The lines -/

theorem eq_or_eq_of_getElem?_set {α : Type} {xs : List α} {i j : Nat} {x y : α}
    (h : (xs.set i x)[j]? = some y) : i = j ∧ y = x ∨ xs[j]? = some y := by
  rw [List.getElem?_set] at h
  split at h
  · next hij =>
    split at h
    · exact .inl ⟨hij, (Option.some.inj h).symm⟩
    · cases h
  · exact .inr h

/-- What is to be appended, and what has been, are the lines of the callers. -/
structure Whole (lines : List String) (s : Crowd σ) : Prop where
  due : ∀ (i : Nat) (w : Writer) (line : String), s.callers[i]? = some (.writing w) →
    w.line? = some line → lines[i]? = some line
  landed : ∀ x ∈ s.history.landed, lines[x.1]? = some x.2

theorem Whole.start (store : σ) (lines : List String) : Whole lines (start store lines) where
  due i w line hi hw := by
    obtain ⟨l, hl, rfl⟩ : ∃ l, lines[i]? = some l ∧ .start l = w := by
      simpa [Crowd.start] using hi
    rw [hl, ← hw]
    rfl
  landed := by simp [Crowd.start, History.landed]

theorem Whole.step {lines : List String} {s t : Crowd σ} {i : Nat} (h : Whole lines s)
    (hstep : Steps backend s i t) : Whole lines t := by
  cases hstep with
  | idle => exact h
  | count hi =>
    refine ⟨fun j w line hj hw => ?_, h.landed⟩
    rcases eq_or_eq_of_getElem?_set hj with ⟨-, hcounted⟩ | hj
    · cases hcounted
    · exact h.due j w line hj hw
  | @act w op hi hop =>
    constructor
    · intro j u line hj hu
      rcases eq_or_eq_of_getElem?_set hj with ⟨rfl, hadvanced⟩ | hj
      · cases hadvanced
        exact h.due i w line hi (Writer.line?_advance hu)
      · exact h.due j u line hj hu
    · intro x hx
      rw [History.landed_concat] at hx
      rcases List.mem_append.1 hx with hx | hx
      · exact h.landed x hx
      · obtain ⟨rfl, hline⟩ := Writer.line?_of_landed? hop (Option.mem_toList.1 hx)
        exact h.due x.1 w x.2 hi hline

/-- A caller's line is appended once, and then the caller has it behind itself. -/
structure Once (s : Crowd σ) : Prop where
  nodup : (s.history.landed.map Prod.fst).Nodup
  landed : ∀ x ∈ s.history.landed, ∃ c, s.callers[x.1]? = some c ∧ c.hasLanded

theorem hasLanded_set {s : Crowd σ} {i j : Nat} {c d : Caller} (hi : s.callers[i]? = some c)
    (hd : c.hasLanded → d.hasLanded)
    (h : ∃ e, s.callers[j]? = some e ∧ e.hasLanded) :
    ∃ e, (s.callers.set i d)[j]? = some e ∧ e.hasLanded := by
  obtain ⟨e, he, hlanded⟩ := h
  by_cases hij : i = j
  · subst hij
    obtain rfl := Option.some.inj (hi.symm.trans he)
    exact ⟨d, by rw [List.getElem?_set_self (List.getElem?_eq_some_iff.1 hi).1], hd hlanded⟩
  · exact ⟨e, by rw [List.getElem?_set_ne hij, he], hlanded⟩

theorem Once.step {s t : Crowd σ} {i : Nat} (h : Once s) (hstep : Steps backend s i t) :
    Once t := by
  cases hstep with
  | idle => exact h
  | count hi => exact ⟨h.nodup, fun x hx => hasLanded_set hi id (h.landed x hx)⟩
  | @act w op hi hop =>
    have hnot : ¬ (Caller.writing w).hasLanded := by
      simp [Caller.hasLanded, Writer.isWritten_verdict_of_next? hop]
    have hold := fun x hx => hasLanded_set hi (d := .writing (w.advance (backend op s.store).1))
      (fun hw => absurd hw hnot) (h.landed x hx)
    constructor
    · rw [History.landed_concat, List.map_append]
      -- The caller that appends has not done so before.
      refine List.nodup_append.2 ⟨h.nodup, ?_, ?_⟩
      · cases History.landed? (i, op, (backend op s.store).1) <;> simp
      · intro a ha b hb hab
        obtain ⟨x, hx, rfl⟩ := List.mem_map.1 ha
        obtain ⟨y, hy, rfl⟩ := List.mem_map.1 hb
        have hyi := (Writer.line?_of_landed? hop (Option.mem_toList.1 hy)).1
        obtain ⟨c, hc, hlanded⟩ := h.landed x hx
        rw [hab, hyi, hi] at hc
        cases hc
        exact hnot hlanded
    · intro x hx
      rw [History.landed_concat] at hx
      rcases List.mem_append.1 hx with hx | hx
      · exact hold x hx
      · have hsome := Option.mem_toList.1 hx
        obtain ⟨rfl, -⟩ := Writer.line?_of_landed? hop hsome
        refine ⟨_, List.getElem?_set_self (List.getElem?_eq_some_iff.1 hi).1, ?_⟩
        rw [Caller.hasLanded, Writer.isWritten_verdict_advance hop x.1, hsome]
        rfl

/-! ### The tally -/

theorem countP_set_add {α : Type} {p : α → Bool} {xs : List α} {i : Nat} {x : α}
    (hi : xs[i]? = some x) (y : α) :
    (xs.set i y).countP p + (if p x then 1 else 0) = xs.countP p + if p y then 1 else 0 := by
  obtain ⟨hlt, rfl⟩ := List.getElem?_eq_some_iff.1 hi
  rw [List.countP_set hlt]
  have hpos : p xs[i] → 0 < xs.countP p := fun hp =>
    List.countP_pos_iff.2 ⟨_, List.getElem_mem hlt, hp⟩
  split <;> split <;> grind

/-- How far the tally and the history have come. -/
structure Tallied (s : Crowd σ) : Prop where
  landed : s.history.landed.length = s.callers.countP Caller.hasLanded
  written : s.tally.written = s.callers.countP (Caller.countedAs true)
  failed : s.tally.failed = s.callers.countP (Caller.countedAs false)

theorem Tallied.start (store : σ) (lines : List String) : Tallied (start store lines) := by
  have hnone : ∀ p : Caller → Bool, (∀ line, ¬ p (.writing (.start line))) →
      0 = (Crowd.start store lines).callers.countP p := fun p hp => by
    simp [Crowd.start, List.countP_map, Function.comp_def, hp]
  exact ⟨hnone _ fun _ => Bool.false_ne_true, hnone _ fun _ => Bool.false_ne_true,
    hnone _ fun _ => Bool.false_ne_true⟩

theorem written_add (t : Tally) (v : Verdict) :
    (t.add v).written = t.written + if v.isWritten then 1 else 0 := by
  cases v <;> rfl

theorem failed_add (t : Tally) (v : Verdict) :
    (t.add v).failed = t.failed + if v.isWritten then 0 else 1 := by
  cases v <;> rfl

theorem Tallied.step {s t : Crowd σ} {i : Nat} (h : Tallied s) (hstep : Steps backend s i t) :
    Tallied t := by
  cases hstep with
  | idle => exact h
  | @count v hi =>
    have hset := fun p => countP_set_add (p := p) hi (.counted v)
    have hlanded := hset Caller.hasLanded
    have hwritten := hset (Caller.countedAs true)
    have hfailed := hset (Caller.countedAs false)
    simp only [Caller.hasLanded, Caller.countedAs, Writer.verdict] at hlanded hwritten hfailed
    constructor
    · simpa [h.landed] using (Nat.add_right_cancel hlanded).symm
    · simpa [written_add, h.written] using hwritten.symm
    · rw [failed_add, h.failed]
      cases hv : v.isWritten <;> simpa [hv] using hfailed.symm
  | @act w op hi hop =>
    have hset := fun p => countP_set_add (p := p) hi (.writing (w.advance (backend op s.store).1))
    have hlanded := hset Caller.hasLanded
    have hwritten := hset (Caller.countedAs true)
    have hfailed := hset (Caller.countedAs false)
    simp only [Caller.hasLanded, Caller.countedAs, Writer.isWritten_verdict_of_next? hop,
      Writer.isWritten_verdict_advance hop i] at hlanded hwritten hfailed
    constructor
    · rw [History.landed_concat, List.length_append, h.landed]
      cases hd : History.landed? (i, op, (backend op s.store).1) <;>
        simpa [hd] using hlanded.symm
    · simpa [h.written] using hwritten.symm
    · simpa [h.failed] using hfailed.symm

/-- In the end the tally has counted every call, and every line that was appended. -/
theorem Tallied.settled {s : Crowd σ} (h : Tallied s) (hs : s.Settled) :
    s.tally.written = s.history.landed.length ∧
      s.tally.written + s.tally.failed = s.callers.length := by
  have hcounted : ∀ c ∈ s.callers, ∃ v, c = .counted v := fun c hc => by
    cases c with
    | writing w => cases hs _ hc
    | counted v => exact ⟨v, rfl⟩
  rw [h.written, h.failed, h.landed]
  constructor
  · refine List.countP_congr fun c hc => ?_
    obtain ⟨v, rfl⟩ := hcounted c hc
    simp [Caller.countedAs, Caller.hasLanded]
  · rw [List.length_eq_countP_add_countP (Caller.countedAs true)]
    refine congrArg _ (List.countP_congr fun c hc => ?_)
    obtain ⟨v, rfl⟩ := hcounted c hc
    simp [Caller.countedAs]

theorem length_callers_step {s t : Crowd σ} {i : Nat} (hstep : Steps backend s i t) :
    t.callers.length = s.callers.length := by
  cases hstep <;> simp

/-! ### The size -/

/-- No caller has been told that the file is too large. -/
def Small (h : History) : Prop := ∀ i n, (i, .size, .size n) ∈ h → n ≤ maxLogBytes

/-- The file is not emptied, and no caller is about to empty it. -/
structure Spared (s : Crowd σ) : Prop where
  callers : ∀ (i : Nat) (line : String), s.callers[i]? ≠ some (.writing (.rotate line))
  history : ∀ deed ∈ s.history, deed.2.1 ≠ .empty

theorem Spared.start (store : σ) (lines : List String) : Spared (start store lines) where
  callers i line := by simp [Crowd.start]
  history := by simp [Crowd.start]

theorem advance_ne_rotate {w : Writer} {op : Op} {a : Answer} (hop : w.next? = some op)
    (hsmall : ∀ n, op = .size → a = .size n → n ≤ maxLogBytes) (line : String) :
    w.advance a ≠ .rotate line := by
  cases w with
  | start => rw [Writer.advance_start]; split <;> simp
  | measure =>
    cases hop
    rw [Writer.advance_measure]
    split
    · simp
    split
    · next hexceeds =>
      obtain ⟨n, hn, hlt⟩ := Answer.exceeds_iff.1 hexceeds
      exact absurd (hsmall n rfl hn) (Nat.not_le.2 hlt)
    · simp
  | rotate => rw [Writer.advance_rotate]; split <;> simp
  | append => rw [Writer.advance_append]; simp
  | finished => cases hop

theorem Spared.step {s t : Crowd σ} {i : Nat} (h : Small s.history → Spared s)
    (hstep : Steps backend s i t) (hsmall : Small t.history) : Spared t := by
  cases hstep with
  | idle => exact h hsmall
  | count hi =>
    have hs := h hsmall
    refine ⟨fun j line hj => ?_, hs.history⟩
    rcases eq_or_eq_of_getElem?_set hj with ⟨-, hcounted⟩ | hj
    · cases hcounted
    · exact hs.callers j line hj
  | @act w op hi hop =>
    have hs := h fun j n hmem => hsmall j n (List.mem_append_left _ hmem)
    constructor
    · intro j line hj
      rcases eq_or_eq_of_getElem?_set hj with ⟨-, hadvanced⟩ | hj
      · refine advance_ne_rotate hop (fun n hsize hn => hsmall i n ?_) line
          (Caller.writing.inj hadvanced).symm
        rw [← hsize, ← hn]
        exact List.mem_append_right _ (List.mem_singleton_self _)
      · exact hs.callers j line hj
    · intro deed hdeed
      rcases List.mem_append.1 hdeed with hdeed | hdeed
      · exact hs.history deed hdeed
      · rw [List.mem_singleton.1 hdeed]
        rintro rfl
        obtain ⟨line, rfl⟩ : ∃ line, w = .rotate line := by
          cases w <;> cases hop
          exact ⟨_, rfl⟩
        exact hs.callers i line hi

/-! ### Every order -/

/-- All that the steps keep. -/
structure Standing (file : σ → Option (List UInt8)) (lines : List String) (s : Crowd σ) :
    Prop where
  content : Content file s
  whole : Whole lines s
  once : Once s
  tallied : Tallied s
  spared : Small s.history → Spared s
  length : s.callers.length = lines.length

theorem Standing.start {store : σ} (hempty : (file store).getD [] = []) (lines : List String) :
    Standing file lines (start store lines) where
  content := hempty
  whole := .start store lines
  once := ⟨List.nodup_nil, by simp [Crowd.start, History.landed]⟩
  tallied := .start store lines
  spared _ := .start store lines
  length := by simp [Crowd.start]

theorem Standing.step (hf : Faithful backend file) {lines : List String} {s t : Crowd σ} {i : Nat}
    (h : Standing file lines s) (hstep : Steps backend s i t) : Standing file lines t where
  content := h.content.step hf hstep
  whole := h.whole.step hstep
  once := h.once.step hstep
  tallied := h.tallied.step hstep
  spared := Spared.step h.spared hstep
  length := (length_callers_step hstep).trans h.length

theorem Standing.run (hf : Faithful backend file) {lines : List String} {s : Crowd σ}
    (h : Standing file lines s) (schedule : List Nat) :
    Standing file lines (s.run backend schedule) := by
  induction schedule generalizing s with
  | nil => exact h
  | cons i schedule ih => exact ih (h.step hf (steps_step backend s i))

/-- What can be said of callers with these lines, at every moment. -/
structure Orderly (file : σ → Option (List UInt8)) (lines : List String) (s : Crowd σ) :
    Prop where
  content : (file s.store).getD [] = s.history.kept.flatMap fun x => Utf8.encode x.2
  whole : ∀ x ∈ s.history.landed, lines[x.1]? = some x.2
  once : (s.history.landed.map Prod.fst).Nodup
  last : ∀ x, s.history.kept.getLast? = some x →
    s.history.landed.getLast? = some x ∧ Utf8.encode x.2 <:+ (file s.store).getD []
  counted : s.Settled → s.tally.written = s.history.landed.length ∧
    s.tally.written + s.tally.failed = lines.length
  lossless : Small s.history → s.history.kept = s.history.landed

theorem Standing.last {lines : List String} {s : Crowd σ} (h : Standing file lines s)
    {x : Nat × String} (hx : s.history.kept.getLast? = some x) :
    s.history.landed.getLast? = some x ∧ Utf8.encode x.2 <:+ (file s.store).getD [] := by
  obtain ⟨before, hb⟩ := List.getLast?_eq_some_iff.1 hx
  constructor
  · obtain ⟨lost, hl⟩ := s.history.kept_suffix
    rw [← hl, hb, ← List.append_assoc, List.getLast?_concat]
  · rw [h.content, hb, List.flatMap_append, List.flatMap_singleton]
    exact List.suffix_append _ _

/-- Callers record these lines into an empty file, their operations come in any order, and any of
them may fail or crash. -/
theorem run_orderly (hf : Faithful backend file) {store : σ} (hempty : (file store).getD [] = [])
    (lines : List String) (schedule : List Nat) :
    Orderly file lines ((start store lines).run backend schedule) := by
  have h := (Standing.start hempty lines).run hf schedule
  exact {
    content := h.content
    whole := h.whole.landed
    once := h.once.nodup
    last := fun x hx => h.last hx
    counted := fun hs => h.length ▸ h.tallied.settled hs
    lossless := fun hsmall => History.kept_eq_landed (h.spared hsmall).history }

/-! ### A size that is out of date -/

/-- By itself too long for the file. -/
def longLine : String := String.ofList (List.replicate (maxLogBytes + 1) 'a')

theorem exceeds_longLine : maxLogBytes < (Utf8.encode longLine).length := by
  have hone : String.utf8EncodeChar 'a' = [97] := by decide
  rw [longLine, Utf8.encode_ofList, List.flatMap_replicate, hone]
  simp

/-- The callers of the two short lines are told the size before either of them empties the file. -/
def staleSchedule : List Nat := [0, 0, 0, 0, 1, 1, 2, 2, 1, 1, 1, 2, 2, 2]

theorem run_stale {line : String} (h : maxLogBytes < (Utf8.encode line).length) :
    let s := (start (σ := Shelf) { bytes := some [] } [line, "a\n", "b\n"]).run
      (Shelf.perform fun _ => false) staleSchedule
    s.Settled ∧ s.tally = ⟨3, 0, 2⟩ ∧ s.store.bytes = some (Utf8.encode "b\n") := by
  simp [staleSchedule, start, run, step, Writer.next?, Writer.advance, Writer.verdict, Tally.add,
    Shelf.perform, Shelf.answer, applied, Op.effect, Answer.succeeded, Settled, Caller.isCounted, h]

/-- Three lines are counted, and the last of them is all that the file holds. -/
theorem stale_size_loses_line :
    let backend := Shelf.perform fun _ => false
    let lines := [longLine, "a\n", "b\n"]
    let s := (start { bytes := some [] } lines).run backend staleSchedule
    Faithful backend Shelf.bytes ∧ Orderly Shelf.bytes lines s ∧ s.Settled ∧
      s.tally.written = 3 ∧ s.store.bytes = some (Utf8.encode "b\n") := by
  have h : Faithful (Shelf.perform fun _ => false) Shelf.bytes := Shelf.faithful _
  have hempty : (Shelf.bytes { bytes := some [] }).getD [] = [] := rfl
  have horderly := run_orderly h hempty [longLine, "a\n", "b\n"] staleSchedule
  have hrun := run_stale exceeds_longLine
  exact ⟨h, horderly, hrun.1, congrArg Tally.written hrun.2.1, hrun.2.2⟩

end Crowd

end FleetDesk.Audit
