import FleetDesk.World

/-!
# Effects

The effects of a run are its calls to the outside and its records for the trail, in order. What it
notes in the log is none. In the world `World.unreachable` every call fails.
-/

namespace FleetDesk

/-- Seen outside, unlike a note in the log. -/
def Event.isEffect : Event → Bool
  | .log _ => false
  | _ => true

def effects (events : List Event) : List Event := events.filter Event.isEffect

@[simp] theorem effects_nil : effects [] = [] := rfl

@[simp] theorem effects_append (a b : List Event) : effects (a ++ b) = effects a ++ effects b :=
  List.filter_append a b

@[simp] theorem effects_log (e : Log.Entry) (events : List Event) :
    effects (.log e :: events) = effects events := rfl

@[simp] theorem effects_call (c : Call) (events : List Event) :
    effects (.call c :: events) = .call c :: effects events := rfl

@[simp] theorem effects_audit (r : Audit.Record) (events : List Event) :
    effects (.audit r :: events) = .audit r :: effects events := rfl

@[simp] theorem effects_map_log (entries : List Log.Entry) : effects (entries.map .log) = [] := by
  induction entries with
  | nil => rfl
  | cons e es ih => simpa using ih

def audits (events : List Event) : List Audit.Record :=
  events.filterMap fun | .audit r => some r | _ => none

theorem audits_append (a b : List Event) : audits (a ++ b) = audits a ++ audits b :=
  List.filterMap_append

def calls (events : List Event) : List Call :=
  events.filterMap fun | .call c => some c | _ => none

theorem calls_append (a b : List Event) : calls (a ++ b) = calls a ++ calls b :=
  List.filterMap_append

theorem audits_effects (events : List Event) : audits (effects events) = audits events := by
  induction events with
  | nil => rfl
  | cons e es ih => cases e <;> simpa [audits] using ih

theorem calls_effects (events : List Event) : calls (effects events) = calls events := by
  induction events with
  | nil => rfl
  | cons e es ih => cases e <;> simpa [calls] using ih

def World.unreachable : World where
  probe _ := .error (.exec "unreachable")
  run _ := .error (.exec "unreachable")
  fleet _ := .error (.of .internal "unreachable")
  script _ := .error "unreachable"
  home := none
  probeTime := 0
  callTime := 0

end FleetDesk
