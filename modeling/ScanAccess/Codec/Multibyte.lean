import ScanAccess.Codec.Designation

/-! # Encodings of several bytes

The encodings of East Asia, in which a character takes one byte or several of them.
-/

namespace ScanAccess.Codec

/-- The encodings in which a character takes one byte or several of them. -/
inductive Multibyte where
  | eucJapanese
  | eucJapaneseLarge (edition : JapaneseEdition)
  | shiftJapanese
  | shiftJapaneseLarge (edition : JapaneseEdition)
  | codePage932
  | eucKorean
  | codePage949
  | johab
  | eucChinese
  | extendedChinese
  | nationalChinese
  | switchedChinese
  | traditional
  | codePage950
  | hongKong
  | designated (form : DesignatedForm)
  deriving DecidableEq, Repr

namespace Multibyte

/-- The own name of an encoding. -/
def name : Multibyte → String
  | eucJapanese => "euc_jp"
  | eucJapaneseLarge .first => "euc_jisx0213"
  | eucJapaneseLarge .second => "euc_jis_2004"
  | shiftJapanese => "shift_jis"
  | shiftJapaneseLarge .first => "shift_jisx0213"
  | shiftJapaneseLarge .second => "shift_jis_2004"
  | codePage932 => "cp932"
  | eucKorean => "euc_kr"
  | codePage949 => "cp949"
  | johab => "johab"
  | eucChinese => "gb2312"
  | extendedChinese => "gbk"
  | nationalChinese => "gb18030"
  | switchedChinese => "hz"
  | traditional => "big5"
  | codePage950 => "cp950"
  | hongKong => "big5hkscs"
  | designated .japanese => "iso2022_jp"
  | designated .japaneseSupplemented => "iso2022_jp_1"
  | designated .multilingual => "iso2022_jp_2"
  | designated (.japaneseLarge .first) => "iso2022_jp_3"
  | designated (.japaneseLarge .second) => "iso2022_jp_2004"
  | designated .japaneseExtended => "iso2022_jp_ext"
  | designated .korean => "iso2022_kr"

/-- Reads bytes in an encoding. -/
def decode (encoding : Multibyte) (bytes : List UInt8) : Except DecodingError (List Char) :=
  let unchanging (step : Unit → UInt8 → List UInt8 → DecodingStep Unit) :=
    decodeSteps encoding.name step 0 () bytes
  match encoding with
  | eucJapanese => unchanging Japanese.eucStep
  | eucJapaneseLarge edition => unchanging (Japanese.largeEucStep edition)
  | shiftJapanese => unchanging Japanese.shiftStep
  | shiftJapaneseLarge edition => unchanging (Japanese.largeShiftStep edition)
  | codePage932 => unchanging Japanese.vendorShiftStep
  | eucKorean => unchanging Korean.eucStep
  | codePage949 => unchanging (.ofPairs Korean.vendorChars?)
  | johab => unchanging (.ofPairs Korean.johabChars?)
  | eucChinese => unchanging (.ofPairs (CharacterSet.high? CharacterSet.chinese.chars?))
  | extendedChinese => unchanging (.ofPairs Chinese.extendedChars?)
  | nationalChinese => unchanging Chinese.nationalStep
  | switchedChinese => decodeSteps encoding.name Chinese.switchedStep 0 false bytes
  | traditional => unchanging (.ofPairs CharacterSet.traditional.chars?)
  | codePage950 => unchanging (.ofPairs Chinese.vendorChars?)
  | hongKong => unchanging (.ofPairs Chinese.hongKongChars?)
  | designated form => decodeSteps encoding.name (Designations.step form) 0 {} bytes

end Multibyte

end ScanAccess.Codec
