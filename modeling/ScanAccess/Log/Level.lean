import ScanAccess.Text.Numeral

/-! # Log levels

A level is a number. Six of them have names, two of which can be written in two ways.
-/

namespace ScanAccess.Log

/-- How severe a record is: the higher, the more. -/
abbrev Level := Int

namespace Level

def debug : Level := 10

def info : Level := 20

def warning : Level := 30

def error : Level := 40

def critical : Level := 50

/-- The level that stands for no level of one's own. -/
def unset : Level := 0

/-- The name of a level, or its number if it has none. -/
def name (level : Level) : String :=
  if level = critical then "CRITICAL"
  else if level = error then "ERROR"
  else if level = warning then "WARNING"
  else if level = info then "INFO"
  else if level = debug then "DEBUG"
  else if level = unset then "NOTSET"
  else "Level " ++ String.ofList (Text.signedDecimal level)

/-- The names by which a level can be set. -/
def names : List (String × Level) :=
  [("CRITICAL", critical), ("FATAL", critical), ("ERROR", error), ("WARN", warning),
   ("WARNING", warning), ("INFO", info), ("DEBUG", debug), ("NOTSET", unset)]

/-- The level with a name. -/
def ofName? (name : String) : Option Level :=
  (names.find? fun entry => entry.1 == name).map Prod.snd

end Level

end ScanAccess.Log
