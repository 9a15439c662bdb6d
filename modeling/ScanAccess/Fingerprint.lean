import ScanAccess.Bytes.Blake2b
import ScanAccess.Bytes.Hex
import ScanAccess.Failure

/-! # Fingerprints of tokens

A token never appears in a log. Its fingerprint does: six bytes of BLAKE2b over
the token's UTF-8 form, in hexadecimal. A token with half of a character in it has no
UTF-8 form, and so no fingerprint.
-/

namespace ScanAccess

/-- The fingerprint of bytes. -/
def digestText (bytes : List UInt8) : String :=
  String.ofList (Bytes.toHex (Bytes.Blake2b.digest 6 bytes))

/-- A short digest of a token that is safe to log. -/
def fingerprint (token : RawText) : Except Failure String :=
  match token.encode with
  | .ok bytes => .ok (digestText bytes)
  | .error report => .error (.unencodable report)

/-- The fingerprint of a token without halves. -/
def fingerprintOf (token : String) : String :=
  digestText token.toUTF8.toList

@[simp] theorem fingerprint_ofString (token : String) :
    fingerprint token = .ok (fingerprintOf token) := by
  simp only [fingerprint, RawText.encode, RawText.toString?_ofString, fingerprintOf]

/-- Six bytes do not tell all tokens apart. -/
theorem fingerprint_collision : fingerprint "AAAASSpt" = fingerprint "AAABq9ir" := by
  have hsame : fingerprintOf "AAAASSpt" = fingerprintOf "AAABq9ir" := by decide +kernel
  rw [fingerprint_ofString, fingerprint_ofString, hsame]

/-- A token has a fingerprint exactly if there is no half of a character in it. -/
theorem isOk_fingerprint (token : RawText) : (fingerprint token).isOk = token.isEncodable := by
  cases htext : token.toString? with
  | none => simp [fingerprint, RawText.encode, RawText.isEncodable, htext, Except.isOk,
      Except.toBool]
  | some s => simp [fingerprint, RawText.encode, RawText.isEncodable, htext, Except.isOk,
      Except.toBool]

end ScanAccess
