import ScanAccess.Log.Payload
import ScanAccess.Number.Shortest

/-! # The spelling of payloads

Keys of mappings may be any payload and are logged as text. A text, a time, a
duration and a fault are shown by their own text; everything else, and whatever
stands inside a container, is spelled as the expression that would make it.
-/

namespace ScanAccess.Log

open ScanAccess.Text

/-- Texts with a comma and a space between them. -/
def listed (texts : List (List Char)) : List Char :=
  List.intercalate [',', ' '] texts

/-- A duration as an expression, with the parts that are not zero. -/
def spellDuration (d : Duration) : List Char :=
  let part (name : String) (n : Int) : List (List Char) :=
    if n = 0 then [] else [name.toList ++ '=' :: signedDecimal n]
  let parts := part "days" d.days ++ part "seconds" d.seconds ++ part "microseconds" d.fraction
  "datetime.timedelta(".toList ++ (if parts.isEmpty then ['0'] else listed parts) ++ [')']

/-- The offset of a timestamp as an expression. -/
def spellOffset (offset : Int) : List Char :=
  if offset = 0 then "datetime.timezone.utc".toList
  else "datetime.timezone(".toList ++ spellDuration ⟨offset⟩ ++ [')']

/-- A timestamp as an expression. Seconds stand there if they or their fraction
are not zero, and the fraction if it is not. -/
def spellTime (t : Timestamp) : List Char :=
  let seconds := t.timeOfDay / 1000000
  let fraction := t.timeOfDay % 1000000
  let fields := [signedDecimal t.date.year, decimal t.date.month, decimal t.date.day,
    decimal (seconds / 3600), decimal (seconds / 60 % 60)]
  let fine := if fraction = 0 then [] else [decimal fraction]
  let fields := if seconds % 60 = 0 ∧ fraction = 0 then fields
    else fields ++ decimal (seconds % 60) :: fine
  let zone := match t.zone, t.offset with
    | some zone, _ =>
      (if zone.later then ["fold=1".toList] else []) ++ ["tzinfo=".toList ++ zone.spelling.toList]
    | none, none => []
    | none, some offset => ["tzinfo=".toList ++ spellOffset offset]
  "datetime.datetime(".toList ++ listed (fields ++ zone) ++ [')']

/-- The full name of a record type. -/
def RecordType.path : RecordType → String
  | accessToken => "huskyci_token.domain.access_token.AccessToken"
  | tokenRequest => "huskyci_token.application.dto.token.TokenRequest"

/-- A record type as an expression. -/
def RecordType.spelling (type : RecordType) : List Char :=
  "<class '".toList ++ type.path.toList ++ "'>".toList

/-- A container as an expression, given the expressions of its items. -/
def Shape.spell (shape : Shape) (items : List (List Char)) : List Char :=
  match shape, items with
  | .list, items => '[' :: listed items ++ [']']
  | .tuple, [item] => '(' :: item ++ [',', ')']
  | .tuple, items => '(' :: listed items ++ [')']
  | .set, [] => "set()".toList
  | .set, items => '\x7b' :: listed items ++ ['\x7d']
  | .frozenSet, [] => "frozenset()".toList
  | .frozenSet, items => "frozenset(\x7b".toList ++ listed items ++ "\x7d)".toList

/-- A truth value as an expression. -/
def spellBool (value : Bool) : List Char :=
  if value then ['T', 'r', 'u', 'e'] else ['F', 'a', 'l', 's', 'e']

/-- The record of a token as an expression. -/
def spellToken (record : AccessToken) : List Char :=
  "AccessToken(husky_token=".toList ++ quote record.token
    ++ ", url=".toList ++ quote record.url
    ++ ", is_valid=".toList ++ spellBool record.isValid
    ++ ", created_at=".toList ++ spellTime record.createdAt ++ [')']

namespace Payload

mutual

/-- A payload as an expression. -/
def spelling : Payload → List Char
  | none => ['N', 'o', 'n', 'e']
  | bool value => spellBool value
  | int value => signedDecimal value
  | float value => value.text
  | text value => quote value
  | time value => spellTime value
  | duration value => spellDuration value
  | bytes value true => quoteBytes value
  | bytes value false => "bytearray(".toList ++ quoteBytes value ++ [')']
  | items shape values => shape.spell (spellings values)
  | mapping entries => '\x7b' :: listed (entrySpellings entries) ++ ['\x7d']
  | token record => spellToken record
  | request url metadata =>
    "TokenRequest(repository_url=".toList ++ quote url ++ ", metadata=".toList
      ++ spelling metadata ++ [')']
  | fault value => value.spelling.toList
  | recordType type => type.spelling

/-- Payloads as expressions. -/
def spellings : List Payload → List (List Char)
  | [] => []
  | value :: rest => spelling value :: spellings rest

/-- Entries of a mapping as expressions. -/
def entrySpellings : List (Payload × Payload) → List (List Char)
  | [] => []
  | (key, value) :: rest => (spelling key ++ ':' :: ' ' :: spelling value) :: entrySpellings rest

end

/-- The text that stands for a payload, as a key or where it has no structure to show. -/
def shown (payload : Payload) : RawText :=
  match payload with
  | text value => value
  | time value => .ofList (value.text ' ')
  | duration value => .ofList value.text
  | fault value => value.text
  | other => .ofList other.spelling

end Payload

end ScanAccess.Log
