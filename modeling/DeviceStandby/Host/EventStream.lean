import DeviceStandby.SystemEvent
import DeviceStandby.Text.Utf8

/-!
# Event streams

System events arrive as bytes, one event to a line.  Each line is read for itself: one that holds
nothing, or nothing that can be understood, is passed over.  The first line that is no UTF-8 ends the
stream.  A carriage return before the line end is a blank, and blanks around an event do not matter.
-/

namespace DeviceStandby.EventStream

/-- The byte that ends a line. -/
def newline : UInt8 := 10

/-- The lines of a byte sequence, without their ends.  Bytes after the last line end are a line
too. -/
def lines : List UInt8 → List (List UInt8)
  | [] => []
  | byte :: bytes =>
    if byte = newline then [] :: lines bytes
    else
      match lines bytes with
      | [] => [[byte]]
      | line :: rest => (byte :: line) :: rest

/-- The event of a line, if it holds one. -/
def eventOfLine? (line : List Char) : Option SystemEvent :=
  match SystemEvent.readLine line with
  | .event event => some event
  | .skipped | .malformed => none

/-- The events of some lines, up to the first line that is no UTF-8. -/
def eventsOfLines : List (List UInt8) → List SystemEvent
  | [] => []
  | line :: rest =>
    match Utf8.decode? line with
    | none => []
    | some text => (eventOfLine? text).toList ++ eventsOfLines rest

/-- The events of a byte sequence. -/
def events (bytes : List UInt8) : List SystemEvent := eventsOfLines (lines bytes)

end DeviceStandby.EventStream
