import ScanAccess.Fault
import ScanAccess.Log.Message
import ScanAccess.Number.Binary64
import ScanAccess.Settings.Refusal

/-! # Failures

A failure names the cause for which an operation stopped. Its kind and its text
are read off the cause. Faults of the parts that this library is given pass
through as they are.
-/

namespace ScanAccess

/-- Why an operation stopped. -/
inductive Failure where
  | malformedUrl
  | generationFailed
  | alreadyRegistered
  | tokenNotFound
  | repositoryNotFound
  | tokenInvalid
  | ageNotPositive
  | sizeNotPositive
  | mixedOffsets
  | timeOutOfRange
  | durationOutOfRange
  | yearTooLarge
  | noInteger (cause : Binary64.NoInteger)
  | changeableKey (kind : String)
  | unencodable (report : String)
  | numberTooLong
  | callsTooDeep
  | unknownPackageLevel
  | unknownRootLevel
  | format (error : Log.FormatError)
  | settings (error : Settings.LoadError)
  | foreign (fault : Fault)
  deriving DecidableEq, Repr

namespace Failure

/-- The kind under which a failure is reported. -/
def kind : Failure → Fault.Kind
  | malformedUrl => .invalidRepositoryUrl
  | generationFailed => .tokenGeneration
  | alreadyRegistered => .tokenStorage
  | tokenNotFound => .accessTokenNotFound
  | repositoryNotFound => .repositoryNotFound
  | tokenInvalid => .invalidAccessToken
  | ageNotPositive | sizeNotPositive => .value
  | mixedOffsets => .type
  | timeOutOfRange | durationOutOfRange | noInteger .infinite => .overflow
  | yearTooLarge => .system
  | noInteger .notANumber => .value
  | changeableKey _ => .type
  | unencodable _ => .textEncoding
  | numberTooLong => .value
  | callsTooDeep => .recursion
  | unknownPackageLevel | unknownRootLevel => .value
  | format (.unsupported _ _) | format .incomplete | format .widthTooBig
  | format .precisionTooBig | format .numberTooLong => .value
  | format .outOfRange => .overflow
  | format _ => .type
  | settings error => error.kind
  | foreign fault => fault.kind

/-- The text of a failure. A number or a time out of range and a list of problems have
none, and the text about calls that lie too deep depends on the call. -/
def message : Failure → Option RawText
  | malformedUrl => some "Invalid URL format"
  | generationFailed => some "Failed to generate token"
  | alreadyRegistered => some "access token already registered for repository"
  | tokenNotFound => some "Could not find current access token"
  | repositoryNotFound => some "Repository URL not found"
  | tokenInvalid => some "Access token is invalid"
  | ageNotPositive => some "max_age must be positive"
  | sizeNotPositive => some "num_bytes must be positive"
  | mixedOffsets => some "can't subtract offset-naive and offset-aware datetimes"
  | timeOutOfRange | durationOutOfRange | noInteger .infinite | callsTooDeep => none
  | yearTooLarge => some "[Errno 75] Value too large for defined data type"
  | noInteger .notANumber => some "cannot convert float NaN to integer"
  | changeableKey kind => some ("unhashable type: '" ++ kind ++ "'" : String)
  | unencodable report => some report
  | numberTooLong => some Text.tooLongReport
  | unknownPackageLevel => some "Unable to configure logger 'huskyci_token'"
  | unknownRootLevel => some "Unable to configure root logger"
  | format error => error.message.map RawText.ofString
  | settings error => error.text
  | foreign fault => fault.text

end Failure

end ScanAccess
