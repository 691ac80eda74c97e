import FleetDesk.Audit.Trail
import FleetDesk.Config.Load
import FleetDesk.Fleet.Client
import FleetDesk.Network
import FleetDesk.Tool.Registry

/-!
# Starting up

The program needs its configuration and a client for the fleet backend before it serves. What it
needs later on, a `Desk` holds.
-/

namespace FleetDesk

structure Desk where
  config : Config
  client : Fleet.Client
  auditDir : String
  deriving DecidableEq, Repr

/-- What came of the start, and what was noted meanwhile. -/
structure Startup where
  desk : Except Fault Desk
  entries : List Log.Entry

namespace Startup

def loadedEntry (path : String) (config : Config) : Log.Entry where
  level := .debug
  source := ""
  message := "config loaded"
  details := some <|
    Json.ofMembers
      [("path", .string path), ("center", .string config.url), ("ssh_user", .string config.user),
        ("ssh_port", Json.nat config.port)]

/-- The start with a configuration that was loaded, or not, from a path. -/
def ofConfig (auditDir path : String) : Except Config.Flaw Config → Startup
  | .error flaw => ⟨.error flaw.toFault, []⟩
  | .ok config =>
    { desk :=
        match Fleet.Client.create config.url config.accessKey with
        | .ok client => .ok ⟨config, client, auditDir⟩
        | .error flaw => .error flaw.toFault
      entries := [loadedEntry path config] }

/-- The start on a file tree; `explicit` is the configuration file that was asked for. -/
def start (env : Environment) (d : Disk) (explicit : Option OsText) : Startup :=
  let path := Home.configPath env explicit
  ofConfig (Home.auditDir env) path.display (Config.loadFrom env env.trimmed? d path)

end Startup

namespace Desk

def auditFile (desk : Desk) : String := Audit.filePath desk.auditDir

/-- The world of a desk: what the network answers, and the scripts that can be read. -/
def world (desk : Desk) (net : Network) (home : Option String)
    (script : String → Except String String) : World where
  probe := net.probe desk.config
  run := net.run desk.config
  fleet r := (desk.client.request net.http r).mapError Fleet.ClientFlaw.toFault
  script
  home
  probeTime := 0
  callTime := 0

end Desk

end FleetDesk
