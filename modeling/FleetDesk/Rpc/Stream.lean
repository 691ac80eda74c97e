import FleetDesk.Rpc.Server
import FleetDesk.Text.Utf8

/-!
# Serving a stream

The input is read line by line, a line up to a line feed or to the end of the input. The line feed,
and a carriage return before it, do not belong to the text of the line. A line is answered before
the next one is looked at; the first one that is not UTF-8 ends the serving.
-/

namespace FleetDesk.Rpc

def lineFeed : UInt8 := 10

/-- The bytes up to the first line feed, with it, and those behind it. -/
def cutLine : List UInt8 → List UInt8 × List UInt8
  | [] => ([], [])
  | b :: bs =>
    if b = lineFeed then ([b], bs)
    else
      let (line, rest) := cutLine bs
      (b :: line, rest)

theorem length_cutLine (bs : List UInt8) : (cutLine bs).2.length ≤ bs.length - 1 := by
  induction bs with
  | nil => simp [cutLine]
  | cons b bs ih =>
    rw [cutLine]
    split
    · simp
    · simp only [List.length_cons]; omega

/-- The text without the line feed at its end, and without a carriage return before that. -/
def dropEnding (text : String) : String :=
  match text.toList.reverse with
  | '\n' :: '\r' :: rest => String.ofList rest.reverse
  | '\n' :: rest => String.ofList rest.reverse
  | _ => text

/-- The text of a line that is given with what ends it. -/
def lineText (line : List UInt8) : Except Utf8.Flaw String := (Utf8.decode line).map dropEnding

/-- Hands over the lines of an input in order, up to the first that is not UTF-8. -/
def feed {σ : Type} (handle : σ → String → σ) (s : σ) (input : List UInt8) :
    σ × Option Utf8.Flaw :=
  if input = [] then (s, none)
  else match lineText (cutLine input).1 with
    | .ok text => feed handle (handle s text) (cutLine input).2
    | .error flaw => (s, some flaw)
termination_by input.length
decreasing_by
  have h := length_cutLine input
  have := List.length_pos_iff.2 ‹¬ input = []›
  omega

/-- The fault of an input that is no text. -/
def brokenInput (flaw : Utf8.Flaw) : Fault := Fault.of .internal flaw.message

def Reply.line (r : Reply) : String := r.toJson.compact ++ "\n"

/-- What is written for a line: its reply, if one is due, on a line of its own. -/
def written (reply : Option Reply) : String := (reply.map Reply.line).getD ""

structure Served where
  output : String := ""
  events : List Event := []
  fault : Option Fault := none

def Served.handle (w : World) (s : Served) (line : String) : Served :=
  let (reply, events) := handleLine w line
  { s with output := s.output ++ written reply, events := s.events ++ events }

def serve (w : World) (input : List UInt8) : Served :=
  let (s, flaw) := feed (Served.handle w) {} input
  { s with fault := flaw.map brokenInput }

end FleetDesk.Rpc
