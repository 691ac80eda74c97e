import FleetDesk.Audit.Record
import FleetDesk.Audit.Writer
import FleetDesk.Json.Value
import FleetDesk.Path

/-!
# The audit trail

A trail counts how its writes ended. A write that fails or crashes is counted and otherwise
forgotten: whoever records something never learns of it.
-/

namespace FleetDesk.Audit

def fileName : String := "audit.log"

def filePath (dir : String) : String := Path.join dir fileName

structure Tally where
  written : Nat := 0
  failed : Nat := 0
  rotations : Nat := 0
  deriving DecidableEq, Repr

namespace Tally

def add (t : Tally) : Verdict → Tally
  | .written rotated =>
    { t with written := t.written + 1, rotations := t.rotations + if rotated then 1 else 0 }
  | .failed _ | .crashed => { t with failed := t.failed + 1 }

def toJson (t : Tally) : Json :=
  Json.ofMembers
    [("written", Json.nat t.written), ("failed", Json.nat t.failed),
      ("rotations", Json.nat t.rotations)]

theorem add_total (t : Tally) (v : Verdict) :
    (t.add v).written + (t.add v).failed = t.written + t.failed + 1 := by
  cases v <;> simp [add] <;> omega

theorem add_rotations_le {t : Tally} (h : t.rotations ≤ t.written) (v : Verdict) :
    (t.add v).rotations ≤ (t.add v).written := by
  cases v with
  | written rotated => cases rotated <;> simp [add] <;> omega
  | failed why => simpa [add] using h
  | crashed => simpa [add] using h

end Tally

/-- The counters of a trail and the store it writes to. -/
structure Trail (σ : Type) where
  tally : Tally := {}
  store : σ

/-- Records one line; the run tells what was done in the store. -/
def Trail.record {σ : Type} (backend : Backend σ) (t : Trail σ) (line : String) : Trail σ × Run σ :=
  let run := (Writer.start line).run backend t.store
  (⟨t.tally.add run.verdict, run.store⟩, run)

/-! ### A store of which only the size is known -/

inductive OpKind where
  | makeDir
  | size
  | empty
  | append
  deriving DecidableEq, Repr

def Op.kind : Op → OpKind
  | .makeDir => .makeDir
  | .size => .size
  | .empty => .empty
  | .append _ => .append

/-- A file by its size, missing if there is none, and the kinds of operations that fail or crash on
it. -/
structure Gauge where
  bytes : Option Nat := none
  failing : List OpKind := []
  crashing : List OpKind := []
  deriving DecidableEq, Repr

def Gauge.perform : Backend Gauge := fun op g =>
  if g.crashing.contains op.kind then (.crashed, g)
  else if g.failing.contains op.kind then (.failed "injected", g)
  else match op with
    | .makeDir => (.done, g)
    | .size =>
      match g.bytes with
      | some n => (.size n, g)
      | none => (.failed "not found", g)
    | .empty => (.done, { g with bytes := some 0 })
    | .append line => (.done, { g with bytes := some (g.bytes.getD 0 + line.utf8ByteSize) })

end FleetDesk.Audit
