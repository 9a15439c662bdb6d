import ScanAccess.Action
import ScanAccess.Bytes.Base64
import ScanAccess.Fingerprint

/-! # Generating tokens

A token is the URL-safe Base64 text of random bytes. Where the bytes come from is
up to the caller; a source may fail, and may return the wrong number of bytes.
-/

namespace ScanAccess

/-- A source of random bytes with a state of its own. -/
abbrev RandomBytes (σ : Type) : Type :=
  Nat → σ → Except Fault (List UInt8) × σ

/-- A generator of tokens from a fixed, positive number of random bytes. -/
structure TokenGenerator where
  size : Nat
  size_pos : 0 < size

namespace TokenGenerator

/-- The number of random bytes in a token, unless another is asked for. -/
def defaultSize : Int := 32

/-- The generator for a number of bytes, which must be positive. -/
def ofSize (size : Int) : Except Failure TokenGenerator :=
  if h : 0 < size then .ok ⟨size.toNat, by omega⟩ else .error .sizeNotPositive

/-- The logger of token generation. -/
def logger : String := "huskyci_token.infrastructure.token_generator"

/-- Whether a fault means that there is no entropy to be had, and not that
something else went wrong. -/
def isUnavailable (fault : Fault) : Bool :=
  fault.kind.isA .system || fault.kind.isA .notImplemented

/-- The event of a source without entropy. -/
def unavailable (size : Nat) (fault : Fault) : Log.Event :=
  { logger
    level := Log.Level.warning
    message := "entropy source unavailable"
    data := some (Log.Payload.ofFields [("num_bytes", .int size), ("error", .text fault.text)]) }

/-- The event of a new token, of which the fingerprint is given. -/
def generated (print : String) : Log.Event :=
  { logger
    level := Log.Level.debug
    message := "generated token"
    data := some (Log.Payload.ofFields [("fingerprint", .text print)]) }

/-- The token made from what a source returned. Faults that do not concern
entropy pass through. -/
def tokenFrom (generator : TokenGenerator) : Except Fault (List UInt8) → Logged String
  | .error fault =>
    if isUnavailable fault then
      { result := .error .generationFailed, events := [unavailable generator.size fault] }
    else .fail (.foreign fault)
  | .ok bytes =>
    if bytes.length = generator.size then
      let token := String.ofList (Bytes.Base64.encode bytes)
      match fingerprint token with
      | .ok print => { result := .ok token, events := [generated print] }
      | .error failure => .fail failure
    else .fail .generationFailed

/-- Of so many bytes as there must be a token is made, which always has a fingerprint. -/
theorem tokenFrom_of_length {generator : TokenGenerator} {bytes : List UInt8}
    (h : bytes.length = generator.size) :
    generator.tokenFrom (.ok bytes) =
      let token := String.ofList (Bytes.Base64.encode bytes)
      { result := .ok token, events := [generated (fingerprintOf token)] } := by
  simp only [tokenFrom, h, if_true, fingerprint_ofString]

/-- Draws bytes once and makes a token from them. -/
def generate {σ : Type} (generator : TokenGenerator) (draw : RandomBytes σ) : Action σ String :=
  fun source =>
    let (drawn, source) := draw generator.size source
    { toLogged := generator.tokenFrom drawn, state := source }

/-- Makes so many tokens one after the other. The first failure ends it. -/
def generateMany {σ : Type} (generator : TokenGenerator) (draw : RandomBytes σ) :
    Nat → Action σ (List String)
  | 0 => return []
  | count + 1 => do
    let token ← generator.generate draw
    let rest ← generator.generateMany draw count
    return token :: rest

end TokenGenerator

/-- Sources of bytes that are fixed in advance: a sequence repeated without end, the
same bytes every time, and a fault. -/
inductive Entropy where
  | cycle (bytes : List UInt8) (position : Nat)
  | constant (bytes : List UInt8)
  | broken (fault : Fault)
  deriving Repr

namespace Entropy

/-- All byte values in order, repeated without end. -/
def counting : Entropy :=
  .cycle ((List.range 256).map UInt8.ofNat) 0

/-- Draws bytes. A cycle goes on where the last draw stopped; constant bytes come
whatever number was asked for. -/
def draw : RandomBytes Entropy
  | count, .cycle bytes position =>
    let source := bytes.toArray
    let drawn := (List.range count).filterMap fun i => source[(position + i) % source.size]?
    (.ok drawn, .cycle bytes ((position + count) % source.size))
  | _, .constant bytes => (.ok bytes, .constant bytes)
  | _, .broken fault => (.error fault, .broken fault)

end Entropy

/-- Where new tokens come from: a generator with its entropy, or a list of
prepared tokens with one more that is used when the list is at its end. -/
inductive TokenSource where
  | generated (generator : TokenGenerator) (entropy : Entropy)
  | prepared (tokens : List RawText) (last : RawText)

namespace TokenSource

/-- The next token. -/
def next : Action TokenSource RawText
  | .generated generator entropy =>
    let outcome := generator.generate Entropy.draw entropy
    { toLogged := outcome.toLogged.bind fun token => .ok token
      state := .generated generator outcome.state }
  | .prepared [] last => { result := .ok last, state := .prepared [] last }
  | .prepared (token :: rest) last => { result := .ok token, state := .prepared rest last }

/-- Gives the generator another source of bytes. Prepared tokens need none. -/
def setEntropy (entropy : Entropy) : TokenSource → TokenSource
  | .generated generator _ => .generated generator entropy
  | .prepared tokens last => .prepared tokens last

end TokenSource

end ScanAccess
