import ScanAccess.Log.Record

/-! # Layouts

A layout says which parts of a record make up the beginning of its text.
-/

namespace ScanAccess.Log

/-- A piece of a layout. -/
inductive Piece where
  | time
  | level
  | logger
  | message
  | literal (text : String)
  deriving DecidableEq, Repr

/-- The pieces of a record's text in their order. -/
abbrev Layout := List Piece

namespace Layout

/-- The level, the logger and the message. -/
def plain : Layout :=
  [.level, .literal " ", .logger, .literal ": ", .message]

/-- The message alone. -/
def bare : Layout :=
  [.message]

/-- The layout of the console: a plain text with the time in front. -/
def console : Layout :=
  .time :: .literal " " :: plain

/-- How a piece is written in a template. -/
def pieceTemplate : Piece → String
  | .time => "%(asctime)s"
  | .level => "%(levelname)s"
  | .logger => "%(name)s"
  | .message => "%(message)s"
  | .literal text => text

/-- The template of a layout. -/
def template (layout : Layout) : String :=
  String.join (layout.map pieceTemplate)

/-- How a layout's times are written, as a template. -/
def timeTemplate : String := "%Y-%m-%dT%H:%M:%S"

/-- Whether a layout shows the time. -/
def showsTime (layout : Layout) : Bool :=
  layout.contains .time

/-- What a piece shows of a record with its time and message. -/
def piece (record : Record) (time : List Char) (message : String) : Piece → List Char
  | .time => time
  | .level => record.level.name.toList
  | .logger => record.logger.toList
  | .message => message.toList
  | .literal text => text.toList

/-- The text of a record with its time and message. -/
def fill (layout : Layout) (record : Record) (time : List Char) (message : String) : List Char :=
  layout.flatMap (piece record time message)

end Layout

end ScanAccess.Log
