import FleetDesk.Config.Basic
import FleetDesk.Http
import FleetDesk.Remote.Failure

/-!
# The network

The ways out of this machine: to the nodes with the configured login, and to the fleet backend. On a
machine without a network every dial fails, and says so.
-/

namespace FleetDesk

structure Network where
  /-- The milliseconds until a host let us in. -/
  probe : Config → String → Except Remote.Failure Nat
  run : Config → Remote.Command → Except Remote.Failure Remote.Output
  http : Http.Transport

namespace Network

def unreachable : String := "Network is unreachable (os error 101)"

def offline : Network where
  probe _ _ := .error (.connection unreachable)
  run _ _ := .error (.connection unreachable)
  http r :=
    .error <| .notSent <|
      "error sending request for url (" ++ r.url
        ++ "): error trying to connect: tcp connect error: " ++ unreachable

end Network

end FleetDesk
