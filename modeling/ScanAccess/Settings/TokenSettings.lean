import ScanAccess.Failure
import ScanAccess.Time.Duration

/-! # The settings that are declared

Three settings govern access tokens: how many random bytes a token is made from,
after how many seconds it expires, and which repositories are registered from the
start. They are declared as the fields of a class, and the settings of the whole program as a
class with the former for its only field. The declarations say under which names values are
given, which bounds they have, and where there is a settings file; a library makes instances.
-/

namespace ScanAccess

/-- The settings for tokens, with the values that they have by default. -/
structure TokenSettings where
  tokenBytes : Int := 32
  maxAgeSeconds : Option Int := none
  repositories : List RawText := []
  deriving DecidableEq, Repr

/-- The settings of the whole program. -/
structure AllSettings where
  token : TokenSettings
  deriving DecidableEq, Repr

namespace TokenSettings

/-- The maximal age as a duration. Ages of a thousand million days and more are out of range. -/
def maxAge (settings : TokenSettings) : Except Failure (Option Duration) :=
  match settings.maxAgeSeconds with
  | none => .ok none
  | some seconds =>
    match Duration.ofSeconds? seconds with
    | some age => .ok (some age)
    | none => .error .durationOutOfRange

end TokenSettings

namespace Settings

/-- The three settings for tokens. -/
inductive Field where
  | tokenBytes
  | maxAgeSeconds
  | repositories
  deriving DecidableEq, Repr

/-- A bound of a number. -/
inductive Bound where
  | atLeast (least : Int)
  | atMost (most : Int)
  | moreThan (below : Int)
  deriving DecidableEq, Repr

/-- Whether a number is within a bound. -/
def Bound.holds : Bound → Int → Bool
  | atLeast least, n => least ≤ n
  | atMost most, n => n ≤ most
  | moreThan below, n => below < n

/-- What a setting can be: a number or a list of texts. -/
inductive FieldValue where
  | number (value : Int)
  | texts (items : List RawText)
  deriving DecidableEq, Repr

/-- All settings for tokens, in their order. -/
def Field.all : List Field :=
  [tokenBytes, maxAgeSeconds, repositories]

/-- The name under which a setting is given. -/
def Field.variable : Field → String
  | tokenBytes => "HUSKYCI_TOKEN_BYTES"
  | maxAgeSeconds => "HUSKYCI_TOKEN_MAX_AGE_SECONDS"
  | repositories => "HUSKYCI_REGISTERED_REPOSITORIES"

/-- The name of the field itself. -/
def Field.label : Field → String
  | tokenBytes => "token_bytes"
  | maxAgeSeconds => "token_max_age_seconds"
  | repositories => "registered_repositories"

/-- The bounds that a setting is declared with. -/
def Field.bounds : Field → List Bound
  | tokenBytes => [.atLeast 16, .atMost 256]
  | maxAgeSeconds => [.moreThan 0]
  | repositories => []

/-- Whether a setting is a collection, so that the texts that are given for it are JSON. -/
def Field.isCollection : Field → Bool
  | tokenBytes | maxAgeSeconds => false
  | repositories => true

/-- The value of a setting, unless there is none. -/
def valueOf (settings : TokenSettings) : Field → Option FieldValue
  | .tokenBytes => some (.number settings.tokenBytes)
  | .maxAgeSeconds => settings.maxAgeSeconds.map .number
  | .repositories => some (.texts settings.repositories)

/-- The settings file of the settings for tokens. The class of all settings has none. -/
def fileName : String := ".env"

/-- The only field of all settings. It has no other name under which it is given. -/
def tokenField : String := "token"

end Settings

end ScanAccess
