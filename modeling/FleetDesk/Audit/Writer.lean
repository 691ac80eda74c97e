/-!
# Writing a line of the trail

A write makes the directory, asks for the size of the file, empties a file that has grown too large,
and appends the line. It is a machine that asks for one operation at a time, so that writes of
several callers can be interleaved. An operation may fail or crash; a crash ends the write.
-/

namespace FleetDesk.Audit

inductive Op where
  | makeDir
  | size
  | empty
  | append (line : String)
  deriving DecidableEq, Repr

inductive Answer where
  | done
  | size (bytes : Nat)
  | failed (why : String)
  | crashed
  deriving DecidableEq, Repr

inductive Verdict where
  /-- The line was appended, to an emptied file if it was rotated. -/
  | written (rotated : Bool)
  | failed (why : String)
  | crashed
  deriving DecidableEq, Repr

/-- A file with more bytes is emptied before the next line. -/
def maxLogBytes : Nat := 500 * 1024

inductive Writer where
  | start (line : String)
  | measure (line : String)
  | rotate (line : String)
  | append (line : String) (rotated : Bool)
  | finished (v : Verdict)
  deriving DecidableEq, Repr

namespace Writer

/-- The operation that is due. -/
def next? : Writer → Option Op
  | start _ => some .makeDir
  | measure _ => some .size
  | rotate _ => some .empty
  | append line _ => some (.append line)
  | finished _ => none

def advance : Writer → Answer → Writer
  | finished v, _ => finished v
  | _, .crashed => finished .crashed
  | start _, .failed why => finished (.failed why)
  | start line, _ => measure line
  | measure line, .size n => if maxLogBytes < n then rotate line else append line false
  | measure line, _ => append line false
  | rotate line, .failed _ => append line false
  | rotate line, _ => append line true
  | append _ _, .failed why => finished (.failed why)
  | append _ rotated, _ => finished (.written rotated)

/-- The operations that are still to come at most. -/
def remaining : Writer → Nat
  | start _ => 4
  | measure _ => 3
  | rotate _ => 2
  | append _ _ => 1
  | finished _ => 0

theorem remaining_advance {w : Writer} {op : Op} (h : w.next? = some op) (a : Answer) :
    (w.advance a).remaining < w.remaining := by
  cases w <;> cases a <;> grind [next?, advance, remaining]

end Writer

/-- What a store does for an operation. -/
abbrev Backend (σ : Type) := Op → σ → Answer × σ

/-- A write with its operations and their answers, in order. -/
structure Run (σ : Type) where
  verdict : Verdict
  store : σ
  trace : List (Op × Answer)

/-- How a write ended; one that has not ended counts as crashed. -/
def Writer.verdict : Writer → Verdict
  | finished v => v
  | _ => .crashed

/-- Runs a write to its end. -/
def Writer.run {σ : Type} (backend : Backend σ) (w : Writer) (store : σ) : Run σ :=
  match _h : w.next? with
  | none => ⟨w.verdict, store, []⟩
  | some op =>
    let (a, store) := backend op store
    let rest := run backend (w.advance a) store
    { rest with trace := (op, a) :: rest.trace }
termination_by w.remaining
decreasing_by exact remaining_advance _h _

end FleetDesk.Audit
