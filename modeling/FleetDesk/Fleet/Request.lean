import FleetDesk.Json.Value

/-!
# Requests to the fleet backend

A path below the address of the backend, and perhaps a JSON body.
-/

namespace FleetDesk.Fleet

structure Request where
  method : String
  path : String
  body : Option Json := none

def Request.get (path : String) : Request := { method := "GET", path }

def Request.delete (path : String) : Request := { method := "DELETE", path }

end FleetDesk.Fleet
