import ScanAccess.Codec.PreparedLabel
import ScanAccess.Codec.Punycode

/-! # Domain names

The labels of a domain name are separated by points. A label that begins with a mark
holds other characters than ASCII in Punycode, and has to be the encoded form of
what it stands for.
-/

namespace ScanAccess.Codec.DomainName

/-- The mark of an encoded label. -/
def mark : List Char := "xn--".toList

/-- The bytes of a text that is ASCII. -/
def asciiBytes (cs : List Char) : List UInt8 :=
  cs.map fun c => UInt8.ofNat c.toNat

/-- Whether all characters are ASCII. -/
def isAscii (cs : List Char) : Bool :=
  cs.all fun c => c.toNat < 0x80

/-- Fails if a label has no length that it may have. -/
def checkSize (label : List Char) : Except DecodingError (List Char) :=
  if label = [] ∨ 64 ≤ label.length then .error .labelSize else .ok label

/-- The encoded form of a label. -/
def encodeLabel (label : List Char) : Except DecodingError (List Char) :=
  if isAscii label then checkSize label
  else do
    let label ← prepareLabel label
    if isAscii label then checkSize label
    else if mark.isPrefixOf label then .error .labelMark
    else checkSize (mark ++ Punycode.encode label)

/-- What a label stands for. -/
def decodeLabel (label : List Char) : Except DecodingError (List Char) :=
  if !mark.isPrefixOf label then .ok label
  else
    match Punycode.decode (asciiBytes (label.drop mark.length)) with
    | .error error => .error (.inLabel error)
    | .ok cs => do
      let other ← encodeLabel cs
      if label.map Char.toLower = other then return cs
      else .error (.otherLabel (asciiBytes label) (asciiBytes other))

/-- Reads a domain name. -/
def decode (bytes : List UInt8) : Except DecodingError (List Char) := do
  let labels := (← decodeAscii bytes).splitOn '.'
  return List.intercalate ['.'] (← labels.mapM decodeLabel)

end ScanAccess.Codec.DomainName
