import ScanAccess.Loader.Encodings
import ScanAccess.Loader.OptionValue
import ScanAccess.Loader.Problem
import ScanAccess.Settings.TokenSettings

/-! # Choosing files

Values may stand in a settings file, which lies in the working directory. Options
name the files to read, their encoding, and places of secrets. No other file than
the settings file is there, and no place holds secrets, so what matters of a path
is whether it leads to the settings file, and how a place is called if it does not.
-/

namespace ScanAccess.Loader

/-- The steps of a path that lead anywhere. -/
def pathSteps (path : List Char) : List (List Char) :=
  (path.splitOn '/').filter fun step => !step.isEmpty && step != ['.']

/-- Whether a path leads to the settings file: from the working directory, through no
other directory. -/
def isSettingsPath (path : List Char) : Bool :=
  path.head? != some '/' && pathSteps path == [Settings.fileName.toList]

/-- The home directory of a superuser, which is the one of every account without another. -/
def superuserHome : List Char := "/root".toList

/-- The home directory by the variable for it, which may name one below the working
directory. -/
def homePath (home : Option String) : Except Misuse (List Char) :=
  match home.map fun home => (home.toList.reverse.dropWhile (· == '/')).reverse with
  | none => .ok superuserHome
  | some [] => .ok ['/']
  | some ('~' :: _) => .error .unknownHome
  | some home => .ok home

/-- The account of a superuser. -/
def superuser : String := "root"

/-- A path without the steps that lead nowhere. -/
def plainPath (path : List Char) : List Char :=
  let steps := List.intercalate ['/'] (pathSteps path)
  if path.head? = some '/' then '/' :: steps else steps

/-- A plain path in which a tilde at the front, with the name of an account or without one,
gives way to a home directory. -/
def expandHome (home : Option String) (path : List Char) : Except Misuse (List Char) :=
  let below (home : List Char) (steps : List (List Char)) :=
    plainPath (List.intercalate ['/'] (home :: steps))
  match path.head?, pathSteps path with
  | some '/', _ => .ok (plainPath path)
  | _, ['~'] :: rest => (homePath home).map fun home => below home rest
  | _, ('~' :: account) :: rest =>
    if account = superuser.toList then .ok (below superuserHome rest) else .error .unknownHome
  | _, _ => .ok (plainPath path)

/-- How many bytes the name of a file may have. -/
def maxNameBytes : Nat := 255

/-- How many bytes a path may have. -/
def maxPathBytes : Nat := 4095

/-- The number of bytes of a text. -/
def byteCount (cs : List Char) : Nat :=
  (String.ofList cs).utf8ByteSize

/-- Whether a path is looked up at all: no null character and no half of one is in it. -/
def isPath (path : List Char) : Bool :=
  path.all fun c => c != '\x00' && !Text.isHalf c

/-- Whether a path is too long, or its first step down leads to a name that is. Below that
nothing is looked up, for no directory is there but the one that holds the settings
file and those above it. -/
def isTooLong (path : List Char) : Bool :=
  let down := (pathSteps path).dropWhile (· == ['.', '.'])
  maxPathBytes < byteCount path || down.head?.any fun name => maxNameBytes < byteCount name

/-- A place in the file system: its path without a tilde, and whether it is the settings
file. -/
structure Place where
  path : String
  isSettingsFile : Bool
  deriving DecidableEq, Repr

/-- The place to which a path leads, where a tilde stands for a `home`. -/
def placeOf (home : Option String) (path : String) : Except Misuse Place := do
  let expanded ← expandHome home path.toList
  return { path := String.ofList expanded, isSettingsFile := isSettingsPath expanded }

/-- Looks a place up, which fails if its path is too long. -/
def Place.lookUp (place : Place) : Except Misuse Place :=
  if isPath place.path.toList && isTooLong place.path.toList then .error (.longName place.path)
  else .ok place

/-- Whether a place is given by the way from the root. -/
def Place.isAbsolute (place : Place) : Bool :=
  place.path.toList.head? == some '/'

/-- Goes one step on, from the steps that lead to where it begins, the last one first. -/
def goStep (before : List (List Char)) (step : List Char) : List (List Char) :=
  if step = ['.', '.'] then before.tail else step :: before

/-- The shortest path to a place, if it is given by the way from the root. -/
def Place.shortPath (place : Place) : String :=
  if place.isAbsolute then
    let steps := ((pathSteps place.path.toList).foldl goStep []).reverse
    String.ofList (plainPath ('/' :: List.intercalate ['/'] steps))
  else place.path

/-- A step of reading files: the file at a place, or a misuse that ends the reading. -/
abbrev FileStep : Type := Except Misuse Place

namespace FileStep

/-- The settings file where it lies. -/
def settingsFile : FileStep :=
  .ok { path := Settings.fileName, isSettingsFile := true }

/-- The files that the paths of a list lead to, up to the first item that is no path. -/
def ofPaths (home : Option String) : List Node → List FileStep
  | [] => []
  | .string path :: rest =>
    match placeOf home path >>= Place.lookUp with
    | .error misuse => [.error misuse]
    | .ok place => .ok place :: ofPaths home rest
  | other :: _ => [.error (.unusable .path (kindName other))]

/-- The files that a value names: none for null, one for a text, or those of a list. -/
def ofJson (home : Option String) : Node → List FileStep
  | .null => []
  | .string path => ofPaths home [.string path]
  | value =>
    match listItems? value with
    | some items => ofPaths home items
    | none => [.error (.unusable .iterating (kindName value))]

end FileStep

/-- The largest number of directories that can be gone through. -/
def maxDepth : Int := 9223372036854775807

/-- Fails if a value is no number of directories above that a file that is missing is looked
for in. There is nothing to be found in any of them. -/
def checkDepth (value : Node) : Except Error Unit :=
  match value with
  | .null | .bool _ => .ok ()
  | .int depth => if maxDepth < depth then .error (.obstructed .endlessDepth) else .ok ()
  | .float depth =>
    match depth with
    | .nan | .infinite false => .error (.obstructed .endlessDepth)
    | .infinite true => .ok ()
    | .finite negative mantissa _ =>
      if negative || mantissa = 0 then .ok () else .error (.obstructed .endlessDepth)
  | value => unusable .ordering (kindName value)

/-- The word that asks for the encoding of the surroundings, which is UTF-8. -/
def localeEncoding : String := "locale"

/-- The encoding that a value asks for, which is UTF-8 for null. -/
def encodingOf (encodings : Encodings) (value : Node) : Except Error Rereading :=
  match value with
  | .null => .ok utf8
  | .string name =>
    if Text.hasHalf name then .error (.obstructed (.halfCharacter name))
    else if name.contains '\x00' then .error (.obstructed .nullCharacter)
    else if name = localeEncoding then .ok utf8
    else
      match encodings name with
      | .text reread => .ok reread
      | .binary => .error (.misused (.binaryEncoding name))
      | .unknown => .error (.misused (.unknownEncoding name))
  | other => unusable .encoding (kindName other)

/-- The place that an item names. -/
def itemPlace (home : Option String) : Node → Except Misuse Place
  | .string path => placeOf home path
  | other => .error (.unusable .path (kindName other))

/-- Whether one of some places for secrets is the settings file. All of them have to be
paths before any is looked up. -/
def secretsAmong (home : Option String) (items : List Node) : Except Misuse Bool := do
  let places ← (← items.mapM (itemPlace home)).mapM Place.lookUp
  return places.any Place.isSettingsFile

/-- Whether a place for secrets is the settings file: there is one for a text, and there
are those of a list. -/
def secretsInFile (home : Option String) : Node → Except Misuse Bool
  | .null => .ok false
  | .string path => secretsAmong home [.string path]
  | value =>
    match listItems? value with
    | some items => secretsAmong home items
    | none => .error (.unusable .iterating (kindName value))

end ScanAccess.Loader
