import FleetDesk.Audit.Trail
import Mathlib.Data.List.Basic

/-!
# The course of a write

`Course` lists the ways in which the write of a line can go: which operations are asked for, with
which answers, and how it ends. Every run of a writer takes one of them (`course_run`), whatever the
store answers. `Plays` ties the answers to the store that gives them (`plays_run`).
-/

namespace FleetDesk.Audit

def Answer.succeeded : Answer → Bool
  | failed _ | crashed => false
  | _ => true

/-- How a write ends with the answer to its last operation. -/
def Answer.verdict (rotated : Bool) : Answer → Verdict
  | failed why => .failed why
  | crashed => .crashed
  | _ => .written rotated

/-- The file is said to be larger than it may be. -/
def Answer.exceeds : Answer → Bool
  | size n => maxLogBytes < n
  | _ => false

namespace Answer

@[simp] theorem succeeded_crashed : crashed.succeeded = false := rfl

theorem exceeds_iff {a : Answer} : a.exceeds ↔ ∃ n, a = .size n ∧ maxLogBytes < n := by
  cases a <;> simp [exceeds]

end Answer

/-- The operations that a line took with their answers, and how its write ended. -/
inductive Course (line : String) : List (Op × Answer) → Verdict → Prop
  | noDir {a : Answer} (ha : a.succeeded = false) :
    Course line [(.makeDir, a)] (a.verdict false)
  | unmeasured {a : Answer} (ha : a.succeeded) :
    Course line [(.makeDir, a), (.size, .crashed)] .crashed
  | kept {a b : Answer} (ha : a.succeeded) (hb : b ≠ .crashed) (hsize : b.exceeds = false)
    (c : Answer) : Course line [(.makeDir, a), (.size, b), (.append line, c)] (c.verdict false)
  | unemptied {a b : Answer} (ha : a.succeeded) (hsize : b.exceeds) :
    Course line [(.makeDir, a), (.size, b), (.empty, .crashed)] .crashed
  | emptied {a b c : Answer} (ha : a.succeeded) (hsize : b.exceeds) (hc : c ≠ .crashed)
    (d : Answer) : Course line [(.makeDir, a), (.size, b), (.empty, c), (.append line, d)]
      (d.verdict c.succeeded)

/-! ### What a writer does with an answer -/

namespace Writer

theorem advance_start (line : String) (a : Answer) : (start line).advance a =
    if a.succeeded then measure line else finished (a.verdict false) := by
  cases a <;> rfl

theorem advance_measure (line : String) (a : Answer) : (measure line).advance a =
    if a = .crashed then finished .crashed else
      if a.exceeds then rotate line else append line false := by
  cases a <;> simp [advance, Answer.exceeds]

theorem advance_rotate (line : String) (a : Answer) : (rotate line).advance a =
    if a = .crashed then finished .crashed else append line a.succeeded := by
  cases a <;> simp [advance, Answer.succeeded]

theorem advance_append (line : String) (rotated : Bool) (a : Answer) :
    (append line rotated).advance a = finished (a.verdict rotated) := by
  cases a <;> rfl

end Writer

/-! ### Runs -/

section

variable {σ : Type} {backend : Backend σ}

theorem run_finished (v : Verdict) (store : σ) :
    (Writer.finished v).run backend store = ⟨v, store, []⟩ := by
  rw [Writer.run]
  rfl

theorem run_next {w : Writer} {op : Op} (h : w.next? = some op) (store : σ) :
    w.run backend store =
      let rest := (w.advance (backend op store).1).run backend (backend op store).2
      ⟨rest.verdict, rest.store, (op, (backend op store).1) :: rest.trace⟩ := by
  rw [Writer.run]
  split
  · next hnone => rw [h] at hnone; cases hnone
  · next op' hop =>
    obtain rfl := Option.some.inj (h.symm.trans hop)
    rfl

theorem run_append (backend : Backend σ) (line : String) (rotated : Bool) (store : σ) :
    ∃ a, ((Writer.append line rotated).run backend store).trace = [(.append line, a)] ∧
      ((Writer.append line rotated).run backend store).verdict = a.verdict rotated := by
  refine ⟨(backend (.append line) store).1, ?_⟩
  rw [run_next rfl, Writer.advance_append, run_finished]
  exact ⟨rfl, rfl⟩

theorem course_run (backend : Backend σ) (line : String) (store : σ) :
    Course line ((Writer.start line).run backend store).trace
      ((Writer.start line).run backend store).verdict := by
  rw [run_next rfl, Writer.advance_start]
  generalize (backend .makeDir store).1 = a
  generalize (backend .makeDir store).2 = store
  cases ha : a.succeeded with
  | false =>
    rw [if_neg Bool.false_ne_true, run_finished]
    exact .noDir ha
  | true =>
    rw [if_pos rfl, run_next rfl, Writer.advance_measure]
    generalize (backend .size store).1 = b
    generalize (backend .size store).2 = store
    by_cases hb : b = .crashed
    · rw [if_pos hb, run_finished, hb]
      exact .unmeasured ha
    rw [if_neg hb]
    cases hsize : b.exceeds with
    | false =>
      rw [if_neg Bool.false_ne_true]
      obtain ⟨c, htrace, hverdict⟩ := run_append backend line false store
      simp only [htrace, hverdict]
      exact .kept ha hb hsize c
    | true =>
      rw [if_pos rfl, run_next rfl, Writer.advance_rotate]
      generalize (backend .empty store).1 = c
      generalize (backend .empty store).2 = store
      by_cases hc : c = .crashed
      · rw [if_pos hc, run_finished, hc]
        exact .unemptied ha hsize
      · rw [if_neg hc]
        obtain ⟨d, htrace, hverdict⟩ := run_append backend line c.succeeded store
        simp only [htrace, hverdict]
        exact .emptied ha hsize hc d

/-- The store after some operations. -/
def after (backend : Backend σ) (store : σ) (ops : List Op) : σ :=
  ops.foldl (fun store op => (backend op store).2) store

theorem after_append (store : σ) (ops ops' : List Op) :
    after backend store (ops ++ ops') = after backend (after backend store ops) ops' :=
  List.foldl_append

theorem store_run (backend : Backend σ) (w : Writer) (store : σ) :
    (w.run backend store).store =
      after backend store ((w.run backend store).trace.map Prod.fst) := by
  fun_induction Writer.run backend w store with
  | case1 w store hnext => rfl
  | case2 w store op hnext a store' hop rest ih =>
    have hstore : (backend op store).2 = store' := congrArg Prod.snd hop
    rw [List.map_cons, after, List.foldl_cons, hstore]
    exact ih

end

end FleetDesk.Audit
