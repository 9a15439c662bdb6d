import ScanAccess.Fingerprint
import ScanAccess.Json.Value
import ScanAccess.Log.Host
import ScanAccess.Text.Case

/-! # Redaction

Redaction turns a payload into JSON that is safe to log. A text that stands under
a secret name is replaced by its fingerprint; other values under such a name are
not hidden as a whole, but searched like any other. Containers are followed to a
limited depth, below which a mark stands for everything. Redaction fails where a
secret text has no fingerprint, where a key cannot be shown as a text, and where
the calls that follow the containers would be too many.
-/

namespace ScanAccess.Log

/-- The names, in lower case, under which texts are secret. -/
def secretNames : List String :=
  ["token", "husky_token"]

/-- Whether texts under a name are secret. Letter case does not matter. -/
def isSecretName (name : RawText) : Bool :=
  name.toString?.any fun name => secretNames.contains (Text.foldCase name)

/-- What a log shows of a fingerprint. -/
def markOf (print : String) : Json :=
  .string ("<token " ++ print ++ ">" : String)

/-- What a log shows of a token, with so many calls left. -/
def tokenMark (host : Host) (left : Nat) (token : RawText) : Except Failure Json := do
  let inside ← enter 1 left
  let print ← fingerprint token
  let _ ← enter host.digesting inside
  return markOf print

/-- What stands for everything below the depth that a log follows. -/
def depthMark : Json :=
  .string "<depth_exceeded>"

/-- The depth to which a log follows a payload. -/
def maxDepth : Nat := 6

/-- What a log shows of bytes: how many there are. -/
def bytesMark (bytes : List UInt8) : Json :=
  .string ("<bytes len=" ++ String.ofList (Text.decimal bytes.length) ++ ">" : String)

/-- A value without parts, at a depth. -/
def atDepth (depth : Nat) (value : Json) : Json :=
  if depth = 0 then depthMark else value

/-- The fields of a token's record, with the depth that is left for their values. -/
def redactToken (host : Host) (left : Nat) (record : AccessToken) (depth : Nat) :
    Except Failure Json := do
  let field ← enter 1 left
  let mark ← tokenMark host field record.token
  let _ ← enter 1 field
  return .object [
    ("husky_token", mark),
    ("url", atDepth depth (.string record.url)),
    ("is_valid", atDepth depth (.bool record.isValid)),
    ("created_at", atDepth depth (.string record.createdAt.iso))]

/-- The text that is hidden in an entry, if its value is one and its name is secret. -/
def secret? (name : RawText) (value : Payload) : Option RawText :=
  match value with
  | .text token => if isSecretName name then some token else none
  | _ => none

mutual

/-- A payload as it may be logged, followed to a depth, with so many calls left. -/
def redact (host : Host) (left : Nat) : Payload → Nat → Except Failure Json
  | _, 0 => .ok depthMark
  | .none, _ + 1 => .ok .null
  | .bool value, _ + 1 => .ok (.bool value)
  | .int value, _ + 1 => .ok (.int value)
  | .float value, _ + 1 => .ok (.float value)
  | .text value, _ + 1 => .ok (.string value)
  | .time value, _ + 1 => .ok (.string value.iso)
  | .bytes value _, _ + 1 => .ok (bytesMark value)
  | .items _ values, depth + 1 => do
    let _ ← enter host.telling left
    return .array (← redactItems host (← enter host.building left) values depth)
  | .mapping entries, depth + 1 => do
    let _ ← enter host.telling left
    return .object (Dictionary.ofList
      (← redactEntries host (← enter host.building left) entries depth))
  | .token record, depth + 1 => do
    let _ ← enter host.telling left
    redactToken host (← enter host.building left) record depth
  | .request url metadata, depth + 1 => do
    let _ ← enter host.telling left
    let field ← enter 1 (← enter host.building left)
    let metadata ← redact host (← enter 1 field) metadata depth
    return .object [
      ("repository_url", atDepth depth (.string url)), ("metadata", metadata)]
  | .duration value, _ + 1 => do
    let _ ← enter host.telling left
    return .string (← host.textOf left (.duration value))
  | .fault value, _ + 1 => do
    let _ ← enter host.telling left
    return .string (← host.textOf left (.fault value))
  | .recordType type, _ + 1 => do
    let _ ← enter host.telling left
    return .string (← host.textOf left (.recordType type))

/-- The items of a container as they may be logged. -/
def redactItems (host : Host) (left : Nat) : List Payload → Nat → Except Failure (List Json)
  | [], _ => .ok []
  | value :: rest, depth => do
    let item ← redact host (← enter 1 left) value depth
    return item :: (← redactItems host left rest depth)

/-- The entries of a mapping as they may be logged, each under the text of its key.
A secret text is hidden even where the depth is used up. -/
def redactEntries (host : Host) (left : Nat) :
    List (Payload × Payload) → Nat → Except Failure (List (RawText × Json))
  | [], _ => .ok []
  | (key, value) :: rest, depth => do
    let name ← host.textOf left key
    let field ← enter 1 left
    let shown ← match secret? name value with
      | some token => tokenMark host field token
      | none => do redact host (← enter 1 field) value depth
    return (name, shown) :: (← redactEntries host left rest depth)

end

/-- A payload as it may be logged, followed to any depth; depths below zero count as zero. -/
def redactTo (host : Host) (depth : Int) (payload : Payload) : Except Failure Json :=
  redact host host.room payload depth.toNat

/-- What a record shows of its payload: nothing if the payload is empty. -/
def redactData (host : Host) (payload : Payload) : Except Failure (Option Json) := do
  if payload.isEmpty then return none
  else return some (← redact host host.room payload maxDepth)

end ScanAccess.Log
