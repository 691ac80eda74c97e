import FleetDesk.Proofs.Audit.Store

/-!
# Which rotations are counted

A rotation is counted together with the line that follows it. If that line cannot be appended, then
the file has been emptied and nothing tells (`Trail.emptied_uncounted`). So the tally counts the
operations that emptied the file less those for a line that was lost (`Trail.rotations_counted`).
-/

namespace FleetDesk.Audit

variable {σ : Type}

/-- The file was emptied, or is said to have been. -/
def empties (step : Op × Answer) : Bool := step.1.kind = .empty && step.2.succeeded

/-- The file was emptied and has taken the line. -/
def turned (trace : List (Op × Answer)) : Bool := trace.any empties && trace.any appended

/-- The file was emptied for a line that it has not taken. -/
def wasted (trace : List (Op × Answer)) : Bool := trace.any empties && !trace.any appended

@[simp] theorem Tally.rotations_add_verdict (t : Tally) (rotated : Bool) (a : Answer) :
    (t.add (a.verdict rotated)).rotations =
      t.rotations + if rotated && a.succeeded then 1 else 0 := by
  cases a <;> cases rotated <;> rfl

/-! ### One record -/

section

variable {line : String} {trace : List (Op × Answer)} {v : Verdict}

theorem Course.rotations (h : Course line trace v) (t : Tally) :
    (t.add v).rotations = t.rotations + if turned trace then 1 else 0 := by
  cases h with
  | noDir ha => simp [turned, empties, Op.kind]
  | unmeasured | unemptied => simp [turned, empties, Op.kind, Tally.add]
  | kept ha hb hsize c => simp [turned, empties, Op.kind]
  | emptied ha hsize hc d => simp [turned, empties, appended, Op.kind]

theorem Course.countP_empties (h : Course line trace v) : trace.countP empties =
    (if turned trace then 1 else 0) + if wasted trace then 1 else 0 := by
  cases h with
  | noDir | unmeasured | kept | unemptied => simp [turned, wasted, empties, Op.kind]
  | @emptied a b c ha hsize hc d =>
    cases hempty : c.succeeded <;> cases hline : d.succeeded <;>
      simp [turned, wasted, empties, appended, Op.kind, hempty, hline]

theorem performed_empty (trace : List (Op × Answer)) :
    performed trace .empty = trace.any empties := by
  refine congrArg trace.any (funext fun step => ?_)
  obtain ⟨op, a⟩ := step
  cases op <;> simp [empties, Op.kind]

theorem Course.performed_append (h : Course line trace v) :
    performed trace (.append line) = trace.any appended := by
  cases h <;> simp [performed, appended, Op.kind]

/-- A record keeps what the file holds, or it is counted as a rotation, or it leaves nothing. -/
theorem Trail.kept_or_counted_or_empty {backend : Backend σ} {file : σ → Option (List UInt8)}
    (h : Faithful backend file) (t : Trail σ) (line : String) :
    (file t.store).getD [] <+: (file (t.record backend line).1.store).getD [] ∨
      (t.record backend line).1.tally.rotations = t.tally.rotations + 1 ∨
      file (t.record backend line).1.store = some [] := by
  have hcourse := course_run backend line t.store
  have hcount : (t.record backend line).1.tally.rotations =
      t.tally.rotations + if turned (t.record backend line).2.trace then 1 else 0 :=
    hcourse.rotations t.tally
  have hperformed : performed (t.record backend line).2.trace (.append line) =
      (t.record backend line).2.trace.any appended := hcourse.performed_append
  rw [(Trail.recorded h t line).file_eq, hcount, hperformed, base, performed_empty, turned]
  cases (t.record backend line).2.trace.any empties with
  | false =>
    refine .inl ?_
    cases (t.record backend line).2.trace.any appended with
    | false => exact List.prefix_rfl
    | true => exact List.prefix_append _ _
  | true =>
    cases (t.record backend line).2.trace.any appended with
    | false => exact .inr (.inr rfl)
    | true => exact .inr (.inl rfl)

end

/-! ### Many records -/

namespace Trail

/-- What is done in the store for each of these lines. -/
def traces (backend : Backend σ) : Trail σ → List String → List (List (Op × Answer))
  | _, [] => []
  | t, line :: lines =>
    (t.record backend line).2.trace :: traces backend (t.record backend line).1 lines

theorem rotations_recordAll (backend : Backend σ) (t : Trail σ) (lines : List String) :
    (t.recordAll backend lines).tally.rotations =
      t.tally.rotations + (t.traces backend lines).countP turned := by
  induction lines generalizing t with
  | nil => rfl
  | cons line lines ih =>
    have hline : (t.record backend line).1.tally.rotations =
        t.tally.rotations + if turned (t.record backend line).2.trace then 1 else 0 :=
      (course_run backend line t.store).rotations t.tally
    rw [recordAll, List.foldl_cons, ← recordAll, ih, hline, traces, List.countP_cons]
    omega

theorem countP_empties_history (backend : Backend σ) (t : Trail σ) (lines : List String) :
    (t.history backend lines).countP empties =
      (t.traces backend lines).countP turned + (t.traces backend lines).countP wasted := by
  induction lines generalizing t with
  | nil => rfl
  | cons line lines ih =>
    have hline : (t.record backend line).2.trace.countP empties =
        (if turned (t.record backend line).2.trace then 1 else 0) +
          if wasted (t.record backend line).2.trace then 1 else 0 :=
      (course_run backend line t.store).countP_empties
    rw [history, List.countP_append, ih, hline, traces, List.countP_cons, List.countP_cons]
    omega

/-- The rotations that are counted are the operations that emptied the file, less those for a line
that was lost. So they are all of them exactly if no emptied file has lost its line; and a record
that drops what the file holds without being counted leaves nothing in it. -/
theorem rotations_counted (backend : Backend σ) (t : Trail σ) (lines : List String) :
    (t.recordAll backend lines).tally.rotations + (t.traces backend lines).countP wasted =
        t.tally.rotations + (t.history backend lines).countP empties ∧
      ((t.recordAll backend lines).tally.rotations =
          t.tally.rotations + (t.history backend lines).countP empties ↔
        ∀ trace ∈ t.traces backend lines, trace.any empties → trace.any appended) ∧
      ∀ file, Faithful backend file → ∀ before line after, lines = before ++ line :: after →
        let u := t.recordAll backend before
        let u' := (u.record backend line).1
        (file u.store).getD [] <+: (file u'.store).getD [] ∨
          u'.tally.rotations = u.tally.rotations + 1 ∨ file u'.store = some [] := by
  have hcount := rotations_recordAll backend t lines
  have hempties := countP_empties_history backend t lines
  refine ⟨by omega, ?_, fun file h before line after _ => kept_or_counted_or_empty h _ line⟩
  have hnone : (t.traces backend lines).countP wasted = 0 ↔
      ∀ trace ∈ t.traces backend lines, trace.any empties → trace.any appended := by
    simp only [List.countP_eq_zero, wasted, Bool.and_eq_true, Bool.not_eq_true', not_and,
      Bool.not_eq_false]
  rw [← hnone]
  omega

/-- A file that is too large by one byte is emptied, the line is not appended, and no rotation is
counted; it does not matter whether the append fails or crashes. -/
theorem emptied_uncounted :
    let t : Trail Gauge := { store := { bytes := some 512001, failing := [.append] } }
    let u : Trail Gauge := { store := { bytes := some 512001, crashing := [.append] } }
    ((t.history Gauge.perform ["a\n"]).countP empties = 1 ∧
        (t.recordAll Gauge.perform ["a\n"]).tally.rotations = 0 ∧
        (t.recordAll Gauge.perform ["a\n"]).store.bytes = some 0) ∧
      (u.history Gauge.perform ["a\n"]).countP empties = 1 ∧
        (u.recordAll Gauge.perform ["a\n"]).tally.rotations = 0 ∧
        (u.recordAll Gauge.perform ["a\n"]).store.bytes = some 0 := by
  decide +kernel

end Trail

end FleetDesk.Audit
