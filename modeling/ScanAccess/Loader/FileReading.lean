import ScanAccess.Log.Record
import ScanAccess.Loader.DotEnv
import ScanAccess.Loader.Options

/-! # Reading settings files

The files that the options name are read one after the other, and what they say is put
together. What is noticed on the way does not end the reading: a statement that cannot
be read, or a file that is missing.
-/

namespace ScanAccess.Loader

open ScanAccess.Settings

/-- What is noticed while files are read: a statement that begins on a line and cannot be
read, or a place where no file is. -/
inductive Notice where
  | brokenStatement (line : Nat)
  | missingFile (path : String)
  deriving DecidableEq, Repr

/-- The event of what was noticed. A missing file is only mentioned where the log is about
`sources`. -/
def Notice.event? (sources : Bool) : Notice → Option Log.Event
  | brokenStatement line =>
    some { logger := "dotenv.main"
           level := Log.Level.warning
           message := "python-dotenv could not parse statement starting at line "
             ++ String.ofList (Text.decimal line) }
  | missingFile path =>
    if sources then
      some { logger := "pydantic_settings"
             level := Log.Level.debug
             message := "Env file not found, skipping: " ++ path }
    else none

/-- What the settings files say that were read, and what was noticed, up to the first error. -/
structure FilesRead where
  bindings : Variables := []
  notices : List Notice := []
  error : Option Error := none

/-- What a settings file says, read with the encoding of the options. -/
def readFile (options : Options) (text : String) :
    Except Error DotEnv.Contents := do
  let reread ← options.encoding
  match reread text with
  | .error report => .error (.obstructed (.undecodable report))
  | .ok cs => return DotEnv.read cs

/-- Fails if a missing file would be looked for in directories above its own and the options
give no number of them. A file on a way from the root is not looked for. -/
def checkAbove (options : Options) (place : Place) : Except Error Unit :=
  if place.isAbsolute then .ok () else checkDepth options.depth

/-- Reads files. -/
def readFiles (options : Options) (env : Environment) (file : Option String) :
    List FileStep → FilesRead
  | [] => {}
  | .error misuse :: _ => { error := some (.misused misuse) }
  | .ok place :: rest =>
    let others := readFiles options env file rest
    match file.filter fun _ => place.isSettingsFile with
    | some text =>
      match readFile options text with
      | .error error => { error := some error }
      | .ok contents =>
        { others with
          bindings := expand env contents.assignments ++ others.bindings
          notices := contents.brokenLines.map .brokenStatement ++ others.notices }
    | none =>
      match checkAbove options place with
      | .error error => { error := some error }
      | .ok () => { others with notices := .missingFile place.shortPath :: others.notices }

end ScanAccess.Loader
