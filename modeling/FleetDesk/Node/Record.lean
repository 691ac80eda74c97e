import FleetDesk.Decimal.Port
import FleetDesk.Json.Decode
import FleetDesk.Text.Blank

/-!
# Nodes of the fleet

A node as callers see it. The backend sends more than this: whatever a `Node` has no field for is
dropped when it is read.
-/

namespace FleetDesk

structure Tunnel where
  domain : String := ""
  protocol : String := ""
  port : Option Nat := none
  serverUrl : String := ""
  deriving DecidableEq, Repr

structure Node where
  name : String := ""
  ipv4 : String := ""
  ipv6 : String := ""
  country : String := ""
  region : String := ""
  tunnels : List Tunnel := []
  /-- The members of the node's metadata, if those are an object. -/
  metadata : Option (List (String × Json)) := none

namespace Tunnel

/-- A port given as a number or as text; anything else is no port. -/
def portOf : Json → Option Nat
  | .number n => n.unsigned?.filter (· ≤ maxPort)
  | .string s => port? (Text.trim s)
  | _ => none

def text (v : Json) : Except Decode.Misfit String := Decode.orDefault "" Decode.text v

def shape : Decode.Shape Tunnel where
  title := "struct RawTunnel"
  slots :=
    [⟨"domain", 0, false, fun v t => do .ok { t with domain := ← text v }⟩,
      ⟨"port", 2, false, fun v t => .ok { t with port := portOf v }⟩,
      ⟨"protocol", 1, false, fun v t => do .ok { t with protocol := ← text v }⟩,
      ⟨"server_url", 3, false, fun v t => do .ok { t with serverUrl := ← text v }⟩]

def read (v : Json) : Except Decode.Misfit Tunnel := shape.read {} v

/-- The members that callers see. -/
def members (t : Tunnel) : List (String × Json) :=
  [("domain", .string t.domain), ("protocol", .string t.protocol),
    ("port", (t.port.map Json.nat).getD .null), ("serverUrl", .string t.serverUrl)]

end Tunnel

namespace Node

def metadataOf : Json → Option (List (String × Json))
  | .object members => some members
  | _ => none

def shape : Decode.Shape Node where
  title := "struct RawNode"
  slots :=
    [⟨"country", 3, false, fun v n => do .ok { n with country := ← Tunnel.text v }⟩,
      ⟨"ipv4", 1, false, fun v n => do .ok { n with ipv4 := ← Tunnel.text v }⟩,
      ⟨"ipv6", 2, false, fun v n => do .ok { n with ipv6 := ← Tunnel.text v }⟩,
      ⟨"meta", 6, false, fun v n => .ok { n with metadata := metadataOf v }⟩,
      ⟨"name", 0, false, fun v n => do .ok { n with name := ← Tunnel.text v }⟩,
      ⟨"region", 4, false, fun v n => do .ok { n with region := ← Tunnel.text v }⟩,
      ⟨"tunnels", 5, false, fun v n => do
        .ok { n with tunnels := ← Decode.orDefault [] (Decode.list Tunnel.read) v }⟩]

def read (v : Json) : Except Decode.Misfit Node := shape.read {} v

/-- The members that callers see; `object` puts those of the node and of each tunnel together. -/
def members (object : List (String × Json) → Json) (n : Node) : List (String × Json) :=
  [("name", .string n.name), ("ipv4", .string n.ipv4), ("ipv6", .string n.ipv6),
    ("country", .string n.country), ("region", .string n.region),
    ("tunnels", .array (n.tunnels.map fun t => object t.members))]
  ++ (n.metadata.map fun ms => ("meta", Json.object ms)).toList

def toJson (n : Node) : Json := Json.ofMembers (n.members Json.ofMembers)

/-- The node with its members in the order of its fields. -/
def toOrderedJson (n : Node) : Json := .object (n.members .object)

end Node

end FleetDesk
