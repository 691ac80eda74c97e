import FleetDesk.Url.Host

/-!
# URLs

A URL has a scheme, mostly a host and perhaps a port, a path, a query and a fragment. Whoever logs
in by a URL is not part of it here. The origin of a URL is its scheme, host and port; only the
schemes of the web have one.
-/

namespace FleetDesk

namespace Url

structure Authority where
  host : Host
  /-- Unless it is the usual one of the scheme. -/
  port : Option Nat
  deriving DecidableEq, Repr

inductive Path where
  | segments (names : List String)
  /-- A path that is no hierarchy of names. -/
  | flat (s : String)
  deriving DecidableEq, Repr

def Path.text : Path → String
  | segments names => String.join (names.map ("/" ++ ·))
  | flat s => s

/-- The schemes of the web with their usual ports. -/
def webPorts : List (String × Nat) :=
  [("http", 80), ("https", 443), ("ws", 80), ("wss", 443), ("ftp", 21)]

def usualPort? (scheme : String) : Option Nat := webPorts.lookup scheme

/-- Whether a scheme has the syntax of the web. -/
def isWebScheme (scheme : String) : Bool := scheme = "file" || (usualPort? scheme).isSome

end Url

structure Url where
  scheme : String
  authority : Option Url.Authority
  path : Url.Path
  query : Option String := none
  fragment : Option String := none
  deriving DecidableEq, Repr

namespace Url

def Authority.text (a : Authority) : String :=
  "//" ++ a.host.text ++ (a.port.map fun n => ":" ++ toString n).getD ""

/-- Two dots of a path keep it from being taken for a host. -/
def pathGuard (u : Url) : String :=
  match u.authority, u.path with
  | none, .segments ("" :: _ :: _) => "/."
  | _, _ => ""

def text (u : Url) : String :=
  u.scheme ++ ":" ++ (u.authority.map Authority.text).getD "" ++ u.pathGuard ++ u.path.text
    ++ (u.query.map ("?" ++ ·)).getD "" ++ (u.fragment.map ("#" ++ ·)).getD ""

def hasHost (u : Url) : Bool := u.authority.any fun a => a.host != .name ""

/-- Without query and fragment, and without blanks at the end of a flat path. -/
def withoutSearch (u : Url) : Url :=
  { u with
    path := match u.path with
      | .flat s => .flat (String.ofList (s.toList.reverse.dropWhile (· = ' ')).reverse)
      | p => p
    query := none
    fragment := none }

/-- The origin of a URL of the web, as a text. -/
def webOrigin? (u : Url) : Option String :=
  if (usualPort? u.scheme).isSome then u.authority.map fun a => u.scheme ++ ":" ++ a.text else none

end Url

end FleetDesk
