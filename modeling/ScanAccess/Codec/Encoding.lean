import ScanAccess.Codec.CodePage
import ScanAccess.Codec.DomainName
import ScanAccess.Codec.Escape
import ScanAccess.Codec.Multibyte
import ScanAccess.Codec.Utf7
import ScanAccess.Codec.WideUnits

/-! # Encodings

An encoding tells which characters a row of bytes stands for. Text that was written in
one encoding can be read in another: this may give other characters or fail.
-/

namespace ScanAccess.Codec

/-- An encoding. Without a byte order, a mark at the front has to give it. In the first
form of UTF-8 a mark at the front is a character, and in the second it is none. Nothing
can be read in the undefined encoding. -/
inductive Encoding where
  | ascii
  | utf8 (marked : Bool)
  | utf16 (order : Option ByteOrder)
  | utf32 (order : Option ByteOrder)
  | utf7
  | page (chart : CodePage)
  | multibyte (scheme : Multibyte)
  | escaped (raw : Bool)
  | punycode
  | domainNames
  | undefined
  deriving DecidableEq, Repr

namespace Encoding

/-- The characters of a text that was written in UTF-8 and is read in some encoding. Such
a text never begins with a mark that gives a byte order. -/
def reread (encoding : Encoding) (text : String) : Except DecodingError (List Char) :=
  let bytes := text.toUTF8.toList
  match encoding with
  | utf8 false => .ok text.toList
  | utf8 true =>
    .ok (match text.toList with
      | '\ufeff' :: rest => rest
      | cs => cs)
  | ascii => decodeAscii bytes
  | page chart => decodeBytes "charmap" "character maps to <undefined>" chart.char? 0 bytes
  | utf16 (some order) => decodeUnits order 0 bytes
  | utf16 none => do
    let cs ← decodeUnits .littleEndian 0 bytes
    if cs.isEmpty then return [] else .error (.unmarked "UTF-16")
  | utf32 (some order) => decodeNumbers order 0 bytes
  | utf32 none => do
    let cs ← decodeNumbers .littleEndian 0 bytes
    if cs.isEmpty then return [] else .error (.unmarked "UTF-32")
  | utf7 => decodeUtf7 0 none bytes
  | multibyte scheme => scheme.decode bytes
  | escaped raw => Escape.decode raw bytes
  | punycode => Punycode.decode bytes
  | domainNames => DomainName.decode bytes
  | undefined => .error .undefined

end Encoding

end ScanAccess.Codec
