import FleetDesk.Audit.Record
import FleetDesk.Fault
import FleetDesk.Fleet.Request
import FleetDesk.Log
import FleetDesk.Remote.Failure

/-!
# What a tool call meets outside

A `World` answers every question that a call may put to the nodes, the fleet backend, the local disk
and the clock. What a call does in the world is a list of events: calls to the nodes and the
backend, records for the audit trail, and diagnostics.
-/

namespace FleetDesk

inductive Call where
  | probe (host : String)
  | run (command : Remote.Command)
  | request (request : Fleet.Request)

inductive Event where
  | call (c : Call)
  | audit (r : Audit.Record)
  | log (e : Log.Entry)

structure World where
  /-- The milliseconds until a host let us in. -/
  probe : String → Except Remote.Failure Nat
  run : Remote.Command → Except Remote.Failure Remote.Output
  fleet : Fleet.Request → Except Fault Json
  /-- The text of a local file, or why it cannot be read. -/
  script : String → Except String String
  home : Option String
  /-- The milliseconds until a failing probe failed. -/
  probeTime : Nat
  /-- The milliseconds that a tool call took. -/
  callTime : Nat

/-- What came of a tool call, and its events in order. -/
structure Outcome where
  result : Except Fault Json
  events : List Event

end FleetDesk
