import ScanAccess.Failure
import ScanAccess.Time.Timestamp

/-! # Access tokens

An access token lets one repository submit scans. Its record says whether it is
valid; a record may be present and yet be invalid.
-/

namespace ScanAccess

/-- The record of an issued token: the token, the repository's canonical URL,
whether it is valid, and when it was issued. -/
structure AccessToken where
  token : RawText
  url : RawText
  isValid : Bool := true
  createdAt : Timestamp
  deriving DecidableEq, Repr

namespace AccessToken

/-- What a record is found under: its token together with its URL. -/
def key (record : AccessToken) : RawText × RawText :=
  (record.token, record.url)

/-- The same record, no longer valid. -/
def invalidate (record : AccessToken) : AccessToken :=
  { record with isValid := false }

/-- Whether a positive `maxAge` has gone by since the record was issued. -/
def isOlderThan (record : AccessToken) (maxAge : Duration) (now : Timestamp) :
    Except Failure Bool :=
  if !maxAge.isPositive then .error .ageNotPositive
  else
    match now.since? record.createdAt with
    | none => .error .mixedOffsets
    | some age => .ok (maxAge.microseconds ≤ age)

@[simp] theorem key_invalidate (record : AccessToken) : record.invalidate.key = record.key := rfl

@[simp] theorem isValid_invalidate (record : AccessToken) : record.invalidate.isValid = false := rfl

end AccessToken

end ScanAccess
