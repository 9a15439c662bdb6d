import ScanAccess.Action

/-! # The services behind tokens

Issuing and checking tokens asks six services of the outside world. Each answer
may depend on a state, change it, and be a failure.
-/

namespace ScanAccess

/-- A request for a token: the repository's URL and data that the sender
attached, which issuing passes over. -/
structure TokenRequest where
  url : RawText
  metadata : Log.Payload := .mapping []

/-- The services of the outside world, with `σ` for their state. -/
structure Services (σ : Type) where
  validateUrl : RawText → Action σ RawText
  generateToken : Action σ RawText
  now : Action σ Timestamp
  storeToken : AccessToken → Action σ Unit
  findToken : RawText → RawText → Action σ AccessToken
  findRepository : RawText → Action σ Unit

namespace Services

variable {σ : Type}

/-- Issues a token for a repository: a new record, stored before it is returned. -/
def issue (services : Services σ) (request : TokenRequest) : Action σ AccessToken := do
  let url ← services.validateUrl request.url
  let token ← services.generateToken
  let now ← services.now
  let record : AccessToken := { token, url, createdAt := now }
  services.storeToken record
  return record

/-- Fails unless a token is valid for a repository now. -/
def check (services : Services σ) (token url : RawText) : Action σ Unit := do
  let record ← services.findToken token url
  if record.isValid then return () else Action.fail .tokenInvalid

/-- Fails unless a URL is well formed and its repository registered. -/
def verify (services : Services σ) (url : RawText) : Action σ Unit := do
  let canonical ← services.validateUrl url
  services.findRepository canonical

end Services

end ScanAccess
