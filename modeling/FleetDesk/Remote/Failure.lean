/-!
# Commands on a node

A command runs on a host with a time limit, and may be fed a text. Either the connection fails, or
the command answers with what it wrote and its exit code; the exit code `timeoutExitCode` says that
it was cut off.
-/

namespace FleetDesk.Remote

inductive Failure where
  | auth (host : String)
  | refused (host : String) (port : Nat)
  | timedOut (host : String) (port : Nat) (ms : Nat)
  | connection (detail : String)
  | exec (detail : String)
  deriving DecidableEq, Repr

def Failure.message : Failure → String
  | auth host => "Authentication failed for " ++ host
  | refused host port => "Connection refused to " ++ host ++ ":" ++ toString port
  | timedOut host port ms =>
    "Connection timed out after " ++ toString ms ++ "ms to " ++ host ++ ":" ++ toString port
  | connection detail => "SSH connection error: " ++ detail
  | exec detail => "Failed to execute command: " ++ detail

def timeoutExitCode : Int := -1

structure Output where
  stdout : String := ""
  stderr : String := ""
  exitCode : Int := 0
  deriving DecidableEq, Repr

def Output.timedOut (o : Output) : Bool := o.exitCode = timeoutExitCode

structure Command where
  host : String
  text : String
  /-- What is written to the command, if anything. -/
  stdin : Option String := none
  /-- In milliseconds. -/
  limit : Nat
  deriving DecidableEq, Repr

end FleetDesk.Remote
