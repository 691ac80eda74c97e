import FleetDesk.Proofs.Audit.Course
import FleetDesk.Proofs.Text.Utf8

/-!
# What a trail keeps in its file

Where only what succeeds changes the file (`Faithful`), the record of a line leaves the file as it
was, or emptied if it was too large, and behind that the whole line or nothing of it. The tally
tells which (`Recorded`). If the file can be measured and emptied whenever it is there (`Steady`),
then it never holds more than the limit and one line (`Trail.recordAll_sound`).
-/

namespace FleetDesk.Audit

/-! ### Files -/

/-- The bytes of the file after the operation; there may be no file. -/
def Op.effect : Op → Option (List UInt8) → Option (List UInt8)
  | makeDir, file | size, file => file
  | empty, _ => some []
  | append line, file => some (file.getD [] ++ Utf8.encode line)

/-- What has failed or crashed changes nothing. -/
def applied (file : Option (List UInt8)) (step : Op × Answer) : Option (List UInt8) :=
  if step.2.succeeded then step.1.effect file else file

@[simp] theorem applied_makeDir (file : Option (List UInt8)) (a : Answer) :
    applied file (.makeDir, a) = file := ite_self file

@[simp] theorem applied_size (file : Option (List UInt8)) (a : Answer) :
    applied file (.size, a) = file := ite_self file

variable {σ : Type}

/-- The store does what it says, whether it does as it is asked or not. -/
def Faithful (backend : Backend σ) (file : σ → Option (List UInt8)) : Prop :=
  ∀ op store, file (backend op store).2 = applied (file store) (op, (backend op store).1)

/-- A file that is there can be measured and emptied. -/
structure Steady (backend : Backend σ) (file : σ → Option (List UInt8)) : Prop where
  size : ∀ store bytes, file store = some bytes → (backend .size store).1 = .size bytes.length
  empty : ∀ store bytes, file store = some bytes → (backend .empty store).1.succeeded

theorem file_run {backend : Backend σ} {file : σ → Option (List UInt8)}
    (h : Faithful backend file) (w : Writer) (store : σ) :
    file (w.run backend store).store = (w.run backend store).trace.foldl applied (file store) := by
  fun_induction Writer.run backend w store with
  | case1 w store hnext => rfl
  | case2 w store op hnext a store' hop rest ih =>
    have hfile : file store' = applied (file store) (op, a) := by
      have hfile := h op store
      rwa [hop] at hfile
    rw [List.foldl_cons, ← hfile]
    exact ih

/-! ### One record -/

/-- The operation was asked for and succeeded. -/
def performed (trace : List (Op × Answer)) (op : Op) : Bool :=
  trace.any fun step => step.1 = op && step.2.succeeded

/-- What the line is put behind: the old bytes, unless they have been dropped. -/
def base (trace : List (Op × Answer)) (old : Option (List UInt8)) : Option (List UInt8) :=
  if performed trace .empty then some [] else old

/-- What the record of a line does, by the operations that it took. -/
structure Recorded (file : σ → Option (List UInt8)) (line : String) (t t' : Trail σ)
    (trace : List (Op × Answer)) : Prop where
  file_eq : file t'.store =
    if performed trace (.append line) then
      some ((base trace (file t.store)).getD [] ++ Utf8.encode line)
    else base trace (file t.store)
  written : t'.tally.written =
    t.tally.written + if performed trace (.append line) then 1 else 0
  failed : t'.tally.failed = t.tally.failed + if performed trace (.append line) then 0 else 1
  emptied : .empty ∈ trace.map Prod.fst ↔
    performed trace .makeDir ∧ ∃ n, (.size, .size n) ∈ trace ∧ maxLogBytes < n
  order : trace.map Prod.fst <+: [.makeDir, .size, .append line] ∨
    trace.map Prod.fst <+: [.makeDir, .size, .empty, .append line]
  /-- What ends a record before the line is appended. -/
  ended : .append line ∉ trace.map Prod.fst → ∃ step, trace.getLast? = some step ∧
    (step.2 = .crashed ∨ step.1 = .makeDir ∧ step.2.succeeded = false)

@[simp] theorem Tally.written_add_verdict (t : Tally) (rotated : Bool) (a : Answer) :
    (t.add (a.verdict rotated)).written = t.written + if a.succeeded then 1 else 0 := by
  cases a <;> rfl

@[simp] theorem Tally.failed_add_verdict (t : Tally) (rotated : Bool) (a : Answer) :
    (t.add (a.verdict rotated)).failed = t.failed + if a.succeeded then 0 else 1 := by
  cases a <;> rfl

section

variable {line : String} {trace : List (Op × Answer)} {v : Verdict}

theorem Course.file_eq (h : Course line trace v) (old : Option (List UInt8)) :
    trace.foldl applied old =
      if performed trace (.append line) then some ((base trace old).getD [] ++ Utf8.encode line)
      else base trace old := by
  cases h with
  | noDir ha => simp [applied, performed, base, ha]
  | unmeasured | unemptied => simp [applied, performed, base, Op.effect]
  | kept | emptied => simp [applied, performed, base, Op.effect]

theorem Course.written (h : Course line trace v) (t : Tally) :
    (t.add v).written = t.written + if performed trace (.append line) then 1 else 0 := by
  cases h with
  | noDir ha => simp [performed, ha]
  | unmeasured | unemptied => simp [performed, Tally.add]
  | kept | emptied => simp [performed]

theorem Course.failed (h : Course line trace v) (t : Tally) :
    (t.add v).failed = t.failed + if performed trace (.append line) then 0 else 1 := by
  cases h with
  | noDir ha => simp [performed, ha]
  | unmeasured | unemptied => simp [performed, Tally.add]
  | kept | emptied => simp [performed]

theorem Course.emptied_iff (h : Course line trace v) : .empty ∈ trace.map Prod.fst ↔
    performed trace .makeDir ∧ ∃ n, (.size, .size n) ∈ trace ∧ maxLogBytes < n := by
  cases h with
  | noDir ha => simp [performed, ha]
  | unmeasured ha => simp
  | @kept a b ha hb hsize c =>
    refine iff_of_false (by simp) ?_
    rintro ⟨-, n, hmem, hn⟩
    have hb : .size n = b := by simpa using hmem
    rw [Answer.exceeds_iff.2 ⟨n, hb.symm, hn⟩] at hsize
    cases hsize
  | unemptied ha hsize | emptied ha hsize =>
    obtain ⟨n, rfl, hn⟩ := Answer.exceeds_iff.1 hsize
    simp [performed, ha, hn]

/-- A line was appended, and the file is said to have it. -/
def appended (step : Op × Answer) : Bool := step.1.kind = .append && step.2.succeeded

theorem Course.countP_appended (h : Course line trace v) :
    trace.countP appended = if performed trace (.append line) then 1 else 0 := by
  cases h with
  | noDir ha => simp [appended, performed, ha]
  | unmeasured | unemptied => simp [appended, performed, Op.kind]
  | kept | emptied => simp [appended, performed, Op.kind, List.countP_cons]

theorem Course.order (h : Course line trace v) :
    trace.map Prod.fst <+: [.makeDir, .size, .append line] ∨
      trace.map Prod.fst <+: [.makeDir, .size, .empty, .append line] := by
  cases h <;> simp

theorem Course.ended (h : Course line trace v) (hno : .append line ∉ trace.map Prod.fst) :
    ∃ step, trace.getLast? = some step ∧
      (step.2 = .crashed ∨ step.1 = .makeDir ∧ step.2.succeeded = false) := by
  cases h with
  | noDir ha => exact ⟨_, rfl, .inr ⟨rfl, ha⟩⟩
  | unmeasured | unemptied => exact ⟨_, rfl, .inl rfl⟩
  | kept | emptied => simp at hno

theorem Trail.recorded {backend : Backend σ} {file : σ → Option (List UInt8)}
    (h : Faithful backend file) (t : Trail σ) (line : String) :
    Recorded file line t (t.record backend line).1 (t.record backend line).2.trace where
  file_eq := (file_run h (.start line) t.store).trans ((course_run backend line t.store).file_eq _)
  written := (course_run backend line t.store).written t.tally
  failed := (course_run backend line t.store).failed t.tally
  emptied := (course_run backend line t.store).emptied_iff
  order := (course_run backend line t.store).order
  ended := (course_run backend line t.store).ended

end

/-! ### The size of the file -/

/-- The bytes of a file that may be missing. -/
def sizeOf (file : Option (List UInt8)) : Nat := (file.getD []).length

/-- The file has no more bytes than it may have, with a writer that is at this point. -/
def Writer.Within (m : Nat) (file : Option (List UInt8)) : Writer → Prop
  | start line | measure line | rotate line =>
    (Utf8.encode line).length ≤ m ∧ sizeOf file ≤ maxLogBytes + m
  | append line _ => (Utf8.encode line).length ≤ m ∧ sizeOf file ≤ maxLogBytes
  | finished _ => sizeOf file ≤ maxLogBytes + m

section

variable {backend : Backend σ} {file : σ → Option (List UInt8)} {m : Nat}

theorem Writer.Within.sizeOf_le {w : Writer} {bytes : Option (List UInt8)}
    (h : w.Within m bytes) : sizeOf bytes ≤ maxLogBytes + m := by
  cases w with
  | start | measure | rotate => exact h.2
  | append => exact Nat.le_add_right_of_le h.2
  | finished => exact h

theorem sizeOf_le_of_measured (hs : Steady backend file) {store : σ}
    (h : ¬ (backend .size store).1.exceeds) : sizeOf (file store) ≤ maxLogBytes := by
  cases hfile : file store with
  | none => exact Nat.zero_le _
  | some bytes =>
    rw [hs.size store bytes hfile, Answer.exceeds_iff] at h
    exact Nat.not_lt.1 fun hlt => h ⟨bytes.length, rfl, hlt⟩

theorem sizeOf_emptied (hs : Steady backend file) (store : σ) :
    sizeOf (applied (file store) (.empty, (backend .empty store).1)) = 0 := by
  cases hfile : file store with
  | none =>
    rw [applied]
    split <;> rfl
  | some bytes =>
    rw [applied, if_pos (hs.empty store bytes hfile)]
    rfl

theorem sizeOf_appended (bytes : Option (List UInt8)) (line : String) (a : Answer) :
    sizeOf (applied bytes (.append line, a)) ≤ sizeOf bytes + (Utf8.encode line).length := by
  rw [applied]
  split
  · simp [Op.effect, sizeOf]
  · exact Nat.le_add_right _ _

theorem Writer.Within.step (hf : Faithful backend file) (hs : Steady backend file) {w : Writer}
    {store : σ} (h : w.Within m (file store)) {op : Op} (hop : w.next? = some op) :
    (w.advance (backend op store).1).Within m (file (backend op store).2) := by
  rw [hf op store]
  -- Only the append makes the file longer, and until then it has been found small or emptied.
  cases w with
  | start line =>
    cases hop
    rw [advance_start, applied_makeDir]
    split
    · exact h
    · exact h.2
  | measure line =>
    cases hop
    rw [advance_measure, applied_size]
    split
    · exact h.2
    split
    · exact h
    · next hsmall => exact ⟨h.1, sizeOf_le_of_measured hs hsmall⟩
  | rotate line =>
    cases hop
    have hsmall :
        sizeOf (applied (file store) (.empty, (backend .empty store).1)) ≤ maxLogBytes := by
      rw [sizeOf_emptied hs store]
      exact Nat.zero_le _
    rw [advance_rotate]
    split
    · exact Nat.le_add_right_of_le hsmall
    · exact ⟨h.1, hsmall⟩
  | append line rotated =>
    cases hop
    rw [advance_append]
    exact Nat.le_trans (sizeOf_appended _ line _) (Nat.add_le_add h.2 h.1)
  | finished v => cases hop

/-- At every moment of a run the file is small enough. -/
theorem sizeOf_run_le (hf : Faithful backend file) (hs : Steady backend file) (w : Writer)
    (store : σ) (h : w.Within m (file store)) {past : List Op}
    (hpast : past <+: (w.run backend store).trace.map Prod.fst) :
    sizeOf (file (after backend store past)) ≤ maxLogBytes + m := by
  fun_induction Writer.run backend w store generalizing past with
  | case1 w store hnext =>
    rw [List.prefix_nil.1 hpast]
    exact h.sizeOf_le
  | case2 w store op hnext a store' hop rest ih =>
    have hstep := h.step hf hs hnext
    rw [hop] at hstep
    cases past with
    | nil => exact h.sizeOf_le
    | cons op' past =>
      obtain ⟨rfl, hrest⟩ := List.cons_prefix_cons.1 hpast
      rw [after, List.foldl_cons, hop]
      exact ih hstep hrest

end

/-! ### Many records -/

namespace Trail

/-- The trail after these lines. -/
def recordAll (backend : Backend σ) (t : Trail σ) (lines : List String) : Trail σ :=
  lines.foldl (fun t line => (t.record backend line).1) t

/-- All that is done in the store for these lines. -/
def history (backend : Backend σ) : Trail σ → List String → List (Op × Answer)
  | _, [] => []
  | t, line :: lines =>
    (t.record backend line).2.trace ++ history backend (t.record backend line).1 lines

variable {backend : Backend σ} {file : σ → Option (List UInt8)} {m : Nat}

theorem store_record (backend : Backend σ) (t : Trail σ) (line : String) :
    (t.record backend line).1.store =
      after backend t.store ((t.record backend line).2.trace.map Prod.fst) :=
  store_run backend (.start line) t.store

/-- At every moment of many records the file is small enough. -/
theorem sizeOf_history_le (hf : Faithful backend file) (hs : Steady backend file)
    {lines : List String} (hm : ∀ line ∈ lines, (Utf8.encode line).length ≤ m) {t : Trail σ}
    (ht : sizeOf (file t.store) ≤ maxLogBytes + m) {past : List Op}
    (hpast : past <+: (t.history backend lines).map Prod.fst) :
    sizeOf (file (after backend t.store past)) ≤ maxLogBytes + m := by
  induction lines generalizing t past with
  | nil =>
    rw [List.prefix_nil.1 hpast]
    exact ht
  | cons line lines ih =>
    have hrun : ∀ past, past <+: (t.record backend line).2.trace.map Prod.fst →
        sizeOf (file (after backend t.store past)) ≤ maxLogBytes + m := fun past hpast =>
      sizeOf_run_le hf hs (.start line) t.store ⟨hm line List.mem_cons_self, ht⟩ hpast
    rw [history, List.map_append] at hpast
    rcases List.prefix_or_prefix_of_prefix hpast (List.prefix_append _ _) with h | ⟨past', rfl⟩
    · exact hrun past h
    · rw [after_append, ← store_record]
      refine ih (fun l hl => hm l (List.mem_cons_of_mem _ hl)) ?_
        ((List.prefix_append_right_inj _).1 hpast)
      rw [store_record]
      exact hrun _ List.prefix_rfl

theorem written_recordAll (backend : Backend σ) (lines : List String) (t : Trail σ) :
    (t.recordAll backend lines).tally.written =
      t.tally.written + (t.history backend lines).countP appended := by
  induction lines generalizing t with
  | nil => rfl
  | cons line lines ih =>
    have hcourse := course_run backend line t.store
    have hline : (t.record backend line).1.tally.written =
        t.tally.written + (t.record backend line).2.trace.countP appended :=
      (hcourse.written t.tally).trans (congrArg _ hcourse.countP_appended.symm)
    rw [recordAll, List.foldl_cons, ← recordAll, ih, hline, history, List.countP_append,
      Nat.add_assoc]

theorem total_recordAll (backend : Backend σ) (lines : List String) (t : Trail σ) :
    (t.recordAll backend lines).tally.written + (t.recordAll backend lines).tally.failed =
      t.tally.written + t.tally.failed + lines.length := by
  induction lines generalizing t with
  | nil => rfl
  | cons line lines ih =>
    have hline : (t.record backend line).1.tally.written + (t.record backend line).1.tally.failed =
        t.tally.written + t.tally.failed + 1 := Tally.add_total _ _
    rw [recordAll, List.foldl_cons, ← recordAll, ih, hline, List.length_cons]
    omega

/-- Whatever fails or crashes, each line is recorded as a whole or not at all, and counted as what
it is. The file stays small if it can always be measured and emptied. -/
theorem recordAll_sound (h : Faithful backend file) (t : Trail σ) (lines : List String) :
    (∀ before line after, lines = before ++ line :: after →
      let u := t.recordAll backend before
      Recorded file line u (u.record backend line).1 (u.record backend line).2.trace) ∧
    (t.recordAll backend lines).tally.written =
      t.tally.written + (t.history backend lines).countP appended ∧
    (t.recordAll backend lines).tally.written + (t.recordAll backend lines).tally.failed =
      t.tally.written + t.tally.failed + lines.length ∧
    (Steady backend file → ∀ m, (∀ line ∈ lines, (Utf8.encode line).length ≤ m) →
      sizeOf (file t.store) ≤ maxLogBytes + m →
      ∀ past, past <+: (t.history backend lines).map Prod.fst →
        sizeOf (file (after backend t.store past)) ≤ maxLogBytes + m) :=
  ⟨fun _ line _ _ => recorded h _ line, written_recordAll backend lines t,
    total_recordAll backend lines t, fun hs _ hm ht _ hpast => sizeOf_history_le h hs hm ht hpast⟩

end Trail

/-! ### A file with faults -/

inductive Fate where
  | fine
  | fails
  | crashes
  deriving DecidableEq, Repr

def Fate.answer (a : Answer) : Fate → Answer
  | fine => a
  | fails => .failed "injected"
  | crashes => .crashed

/-- A file by its bytes, and what becomes of the operations that are exposed to faults. -/
structure Shelf where
  bytes : Option (List UInt8)
  fates : List Fate := []

namespace Shelf

/-- The answer to an operation that nothing happens to. -/
def answer (s : Shelf) : Op → Answer
  | .size =>
    match s.bytes with
    | some bytes => .size bytes.length
    | none => .failed "not found"
  | _ => .done

def perform (exposed : OpKind → Bool) : Backend Shelf := fun op s =>
  if exposed op.kind then
    let a := (s.fates.headD .fine).answer (s.answer op)
    (a, ⟨applied s.bytes (op, a), s.fates.tail⟩)
  else (s.answer op, { s with bytes := applied s.bytes (op, s.answer op) })

theorem faithful (exposed : OpKind → Bool) : Faithful (perform exposed) bytes := by
  intro op s
  unfold perform
  split <;> rfl

theorem steady {exposed : OpKind → Bool} (hsize : exposed .size = false)
    (hempty : exposed .empty = false) : Steady (perform exposed) bytes where
  size s bytes h := by
    have hkind : exposed Op.size.kind = false := hsize
    simp [perform, hkind, answer, h]
  empty s bytes h := by
    have hkind : exposed Op.empty.kind = false := hempty
    simp [perform, hkind, answer, Answer.succeeded]

end Shelf

/-- A file that is too large by one byte; the first append to it fails, after it was emptied. -/
theorem Trail.recordAll_sound_oversized :
    let backend := Shelf.perform fun kind => kind = .makeDir || kind = .append
    let t : Trail Shelf := { store := ⟨some (List.replicate 512001 32), [.fine, .fails]⟩ }
    Faithful backend Shelf.bytes ∧
      (t.recordAll backend ["a\n", "b\n"]).tally.written +
        (t.recordAll backend ["a\n", "b\n"]).tally.failed = 2 ∧
      ∀ past, past <+: (t.history backend ["a\n", "b\n"]).map Prod.fst →
        sizeOf (after backend t.store past).bytes ≤ 512002 := by
  intro backend t
  have h : Faithful backend Shelf.bytes := Shelf.faithful _
  obtain ⟨-, -, htotal, hsize⟩ := recordAll_sound h t ["a\n", "b\n"]
  have hstart : sizeOf t.store.bytes ≤ maxLogBytes + 2 :=
    Nat.le_trans (Nat.le_of_eq List.length_replicate) (by decide)
  refine ⟨h, htotal, fun past hpast => ?_⟩
  refine hsize (Shelf.steady rfl rfl) 2 ?_ hstart past hpast
  intro line hline
  simp only [List.mem_cons, List.not_mem_nil, or_false] at hline
  rcases hline with rfl | rfl <;> rw [Utf8.encode_eq] <;> decide

end FleetDesk.Audit
