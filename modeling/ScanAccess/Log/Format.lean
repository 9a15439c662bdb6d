import ScanAccess.Json.Writer
import ScanAccess.Log.Layout
import ScanAccess.Log.Redaction

/-! # Formatting records

A record becomes a text in one of two modes. In text mode it is the layout's
text, followed by the fault and the stack on lines of their own and by the
redacted payload. In line mode it is one JSON object on one line, in which the
payload is a field. Texts show local time, and lines the time in UTC.
-/

namespace ScanAccess.Log

/-- Appends a part on a line of its own; an empty part is left out. -/
def appendLine (text part : List Char) : List Char :=
  if part.isEmpty then text
  else if text.getLast? = some '\n' then text ++ part
  else text ++ '\n' :: part

/-- Drops the last character if it ends a line. -/
def dropLineEnd (text : List Char) : List Char :=
  if text.getLast? = some '\n' then text.dropLast else text

/-- Drops all the line ends at the end. -/
def dropLineEnds (text : List Char) : List Char :=
  (text.reverse.dropWhile (· == '\n')).reverse

namespace Record

/-- The text of a record without its payload, given its time and message. -/
def plainText (layout : Layout) (record : Record) (time : List Char) (message : String) :
    List Char :=
  let fault := dropLineEnd (record.fault.getD "").toList
  let stack := (record.stack.getD "").toList
  appendLine (appendLine (layout.fill record time message) fault) stack

/-- The redacted payload of a record, if it has one that is not empty. -/
def shownData (host : Host) (record : Record) : Except Failure (Option Json) :=
  match record.data with
  | some data => redactData host data
  | none => .ok none

/-- The time of a record to the millisecond, in UTC. -/
def timestamp (record : Record) : Except Failure String := do
  let time ← record.time
  let milliseconds ← record.milliseconds.mapError Failure.noInteger
  return String.ofList (time ++ '.' :: Text.signedDecimalPadded 3 milliseconds ++ ['Z'])

/-- A record as a JSON object, given its redacted payload, its message and its timestamp. -/
def toJson (record : Record) (data : Option Json) (message timestamp : String) : Json :=
  let data : List (RawText × Json) := match data with
    | some data => [("data", data)]
    | none => []
  let fault : List (RawText × Json) := match record.fault with
    | some report => [("exception", .string (.ofList (dropLineEnds report.toList)))]
    | none => []
  let head : List (RawText × Json) := [
    ("message", .string message),
    ("severity", .string record.level.name),
    ("logger", .string record.logger),
    ("timestamp", .string timestamp)]
  .object (head ++ data ++ fault)

/-- The text of a record in text mode, given its redacted payload, its time and its message. -/
def toText (layout : Layout) (record : Record) (data : Option Json) (time : List Char)
    (message : String) : Except Failure String := do
  let plain := String.ofList (record.plainText layout time message)
  match data with
  | some data => return plain ++ " | data=" ++ (← data.encode)
  | none => return plain

/-- The text of a record with its redacted payload and its message: a line of JSON or a text in a
layout. The time matters only where it is shown. -/
def formatWith (host : Host) (jsonLines : Bool) (layout : Layout) (record : Record)
    (data : Option Json) (message : String) : Except Failure String :=
  if jsonLines then do
    let timestamp ← record.timestamp
    (record.toJson data message timestamp).encode
  else do
    let time ← if layout.showsTime then record.timeAhead host.ahead else pure []
    record.toText layout data time message

/-- The text of a record. A record whose time is beyond binary64 numbers is refused. So is one
whose payload cannot be redacted, and then a message that does not fit its arguments, all in
any mode. -/
def format (host : Host) (jsonLines : Bool) (layout : Layout) (record : Record) :
    Except Failure String := do
  let _ ← secondsOf record.created
  let data ← record.shownData host
  match record.message.text with
  | .error error => .error (.format error)
  | .ok message => record.formatWith host jsonLines layout data message

/-- The texts of records, one after the other, up to the first that is refused. -/
def formatAll (host : Host) (jsonLines : Bool) (layout : Layout) (records : List Record) :
    Except Failure (List String) :=
  records.mapM (format host jsonLines layout)

end Record

end ScanAccess.Log
