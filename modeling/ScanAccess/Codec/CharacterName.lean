import ScanAccess.Codec.CharacterName.Alphabets
import ScanAccess.Codec.CharacterName.Ancient
import ScanAccess.Codec.CharacterName.EastAsian
import ScanAccess.Codec.CharacterName.Pictures
import ScanAccess.Codec.CharacterName.Scripts
import ScanAccess.Codec.CharacterName.Symbols
import ScanAccess.Codec.Hangul
import ScanAccess.Text.CodeRange
import ScanAccess.Text.Numeral

/-! # Names of characters

Characters can be given by their names (Unicode 14). Most names are listed, and letter
case does not matter in them. The names of ideographs hold their numbers, and those of
Korean syllables are made of their parts.
-/

namespace ScanAccess.Codec.CharacterName

open ScanAccess.Text

/-- Further names, of characters without a name of their own and of others. -/
def others : List (String × Nat) :=
  [("NULL", 0x0), ("NUL", 0x0), ("START OF HEADING", 0x1), ("SOH", 0x1), ("START OF TEXT", 0x2),
   ("STX", 0x2), ("END OF TEXT", 0x3), ("ETX", 0x3), ("END OF TRANSMISSION", 0x4), ("EOT", 0x4),
   ("ENQUIRY", 0x5), ("ENQ", 0x5), ("ACKNOWLEDGE", 0x6), ("ACK", 0x6), ("ALERT", 0x7),
   ("BEL", 0x7), ("BACKSPACE", 0x8), ("BS", 0x8), ("CHARACTER TABULATION", 0x9),
   ("HORIZONTAL TABULATION", 0x9), ("HT", 0x9), ("TAB", 0x9), ("LINE FEED", 0xa),
   ("NEW LINE", 0xa), ("END OF LINE", 0xa), ("LF", 0xa), ("NL", 0xa), ("EOL", 0xa),
   ("LINE TABULATION", 0xb), ("VERTICAL TABULATION", 0xb), ("VT", 0xb), ("FORM FEED", 0xc),
   ("FF", 0xc), ("CARRIAGE RETURN", 0xd), ("CR", 0xd), ("SHIFT OUT", 0xe),
   ("LOCKING-SHIFT ONE", 0xe), ("SO", 0xe), ("SHIFT IN", 0xf), ("LOCKING-SHIFT ZERO", 0xf),
   ("SI", 0xf), ("DATA LINK ESCAPE", 0x10), ("DLE", 0x10), ("DEVICE CONTROL ONE", 0x11),
   ("DC1", 0x11), ("DEVICE CONTROL TWO", 0x12), ("DC2", 0x12), ("DEVICE CONTROL THREE", 0x13),
   ("DC3", 0x13), ("DEVICE CONTROL FOUR", 0x14), ("DC4", 0x14), ("NEGATIVE ACKNOWLEDGE", 0x15),
   ("NAK", 0x15), ("SYNCHRONOUS IDLE", 0x16), ("SYN", 0x16), ("END OF TRANSMISSION BLOCK", 0x17),
   ("ETB", 0x17), ("CANCEL", 0x18), ("CAN", 0x18), ("END OF MEDIUM", 0x19), ("EOM", 0x19),
   ("SUBSTITUTE", 0x1a), ("SUB", 0x1a), ("ESCAPE", 0x1b), ("ESC", 0x1b),
   ("INFORMATION SEPARATOR FOUR", 0x1c), ("FILE SEPARATOR", 0x1c), ("FS", 0x1c),
   ("INFORMATION SEPARATOR THREE", 0x1d), ("GROUP SEPARATOR", 0x1d), ("GS", 0x1d),
   ("INFORMATION SEPARATOR TWO", 0x1e), ("RECORD SEPARATOR", 0x1e), ("RS", 0x1e),
   ("INFORMATION SEPARATOR ONE", 0x1f), ("UNIT SEPARATOR", 0x1f), ("US", 0x1f), ("SP", 0x20),
   ("DELETE", 0x7f), ("DEL", 0x7f), ("PADDING CHARACTER", 0x80), ("PAD", 0x80),
   ("HIGH OCTET PRESET", 0x81), ("HOP", 0x81), ("BREAK PERMITTED HERE", 0x82), ("BPH", 0x82),
   ("NO BREAK HERE", 0x83), ("NBH", 0x83), ("INDEX", 0x84), ("IND", 0x84), ("NEXT LINE", 0x85),
   ("NEL", 0x85), ("START OF SELECTED AREA", 0x86), ("SSA", 0x86), ("END OF SELECTED AREA", 0x87),
   ("ESA", 0x87), ("CHARACTER TABULATION SET", 0x88), ("HORIZONTAL TABULATION SET", 0x88),
   ("HTS", 0x88), ("CHARACTER TABULATION WITH JUSTIFICATION", 0x89),
   ("HORIZONTAL TABULATION WITH JUSTIFICATION", 0x89), ("HTJ", 0x89),
   ("LINE TABULATION SET", 0x8a), ("VERTICAL TABULATION SET", 0x8a), ("VTS", 0x8a),
   ("PARTIAL LINE FORWARD", 0x8b), ("PARTIAL LINE DOWN", 0x8b), ("PLD", 0x8b),
   ("PARTIAL LINE BACKWARD", 0x8c), ("PARTIAL LINE UP", 0x8c), ("PLU", 0x8c),
   ("REVERSE LINE FEED", 0x8d), ("REVERSE INDEX", 0x8d), ("RI", 0x8d), ("SINGLE SHIFT TWO", 0x8e),
   ("SINGLE-SHIFT-2", 0x8e), ("SS2", 0x8e), ("SINGLE SHIFT THREE", 0x8f),
   ("SINGLE-SHIFT-3", 0x8f), ("SS3", 0x8f), ("DEVICE CONTROL STRING", 0x90), ("DCS", 0x90),
   ("PRIVATE USE ONE", 0x91), ("PRIVATE USE-1", 0x91), ("PU1", 0x91), ("PRIVATE USE TWO", 0x92),
   ("PRIVATE USE-2", 0x92), ("PU2", 0x92), ("SET TRANSMIT STATE", 0x93), ("STS", 0x93),
   ("CANCEL CHARACTER", 0x94), ("CCH", 0x94), ("MESSAGE WAITING", 0x95), ("MW", 0x95),
   ("START OF GUARDED AREA", 0x96), ("START OF PROTECTED AREA", 0x96), ("SPA", 0x96),
   ("END OF GUARDED AREA", 0x97), ("END OF PROTECTED AREA", 0x97), ("EPA", 0x97),
   ("START OF STRING", 0x98), ("SOS", 0x98), ("SINGLE GRAPHIC CHARACTER INTRODUCER", 0x99),
   ("SGC", 0x99), ("SINGLE CHARACTER INTRODUCER", 0x9a), ("SCI", 0x9a),
   ("CONTROL SEQUENCE INTRODUCER", 0x9b), ("CSI", 0x9b), ("STRING TERMINATOR", 0x9c),
   ("ST", 0x9c), ("OPERATING SYSTEM COMMAND", 0x9d), ("OSC", 0x9d), ("PRIVACY MESSAGE", 0x9e),
   ("PM", 0x9e), ("APPLICATION PROGRAM COMMAND", 0x9f), ("APC", 0x9f), ("NBSP", 0xa0),
   ("SHY", 0xad), ("LATIN CAPITAL LETTER GHA", 0x1a2), ("LATIN SMALL LETTER GHA", 0x1a3),
   ("CGJ", 0x34f), ("ALM", 0x61c), ("SYRIAC SUBLINEAR COLON SKEWED LEFT", 0x709),
   ("KANNADA LETTER LLLA", 0xcde), ("LAO LETTER FO FON", 0xe9d), ("LAO LETTER FO FAY", 0xe9f),
   ("LAO LETTER RO", 0xea3), ("LAO LETTER LO", 0xea5),
   ("TIBETAN MARK BKA- SHOG GI MGO RGYAN", 0xfd0), ("HANGUL JONGSEONG YESIEUNG-KIYEOK", 0x11ec),
   ("HANGUL JONGSEONG YESIEUNG-SSANGKIYEOK", 0x11ed), ("HANGUL JONGSEONG SSANGYESIEUNG", 0x11ee),
   ("HANGUL JONGSEONG YESIEUNG-KHIEUKH", 0x11ef), ("FVS1", 0x180b), ("FVS2", 0x180c),
   ("FVS3", 0x180d), ("MVS", 0x180e), ("FVS4", 0x180f), ("ZWSP", 0x200b), ("ZWNJ", 0x200c),
   ("ZWJ", 0x200d), ("LRM", 0x200e), ("RLM", 0x200f), ("LRE", 0x202a), ("RLE", 0x202b),
   ("PDF", 0x202c), ("LRO", 0x202d), ("RLO", 0x202e), ("NNBSP", 0x202f), ("MMSP", 0x205f),
   ("WJ", 0x2060), ("LRI", 0x2066), ("RLI", 0x2067), ("FSI", 0x2068), ("PDI", 0x2069),
   ("WEIERSTRASS ELLIPTIC FUNCTION", 0x2118), ("MICR ON US SYMBOL", 0x2448),
   ("MICR DASH SYMBOL", 0x2449),
   ("LEFTWARDS TRIANGLE-HEADED ARROW WITH DOUBLE VERTICAL STROKE", 0x2b7a),
   ("RIGHTWARDS TRIANGLE-HEADED ARROW WITH DOUBLE VERTICAL STROKE", 0x2b7c),
   ("YI SYLLABLE ITERATION MARK", 0xa015), ("MYANMAR LETTER KHAMTI LLA", 0xaa6e),
   ("PRESENTATION FORM FOR VERTICAL RIGHT WHITE LENTICULAR BRACKET", 0xfe18),
   ("BYTE ORDER MARK", 0xfeff), ("BOM", 0xfeff), ("ZWNBSP", 0xfeff),
   ("CUNEIFORM SIGN NU11 TENU", 0x122d4), ("CUNEIFORM SIGN NU11 OVER NU11 BUR OVER BUR", 0x122d5),
   ("MEDEFAIDRIN CAPITAL LETTER H", 0x16e56), ("MEDEFAIDRIN CAPITAL LETTER NG", 0x16e57),
   ("MEDEFAIDRIN SMALL LETTER H", 0x16e76), ("MEDEFAIDRIN SMALL LETTER NG", 0x16e77),
   ("HENTAIGANA LETTER E-1", 0x1b001),
   ("BYZANTINE MUSICAL SYMBOL FTHORA SKLIRON CHROMA VASIS", 0x1d0c5)]

/-- Short names of the characters that select a variant. -/
def selectors : List NameRun :=
  [⟨0xfe00, "VS", ["1,2,3,4,5,6,7,8,9,10,11,12,13,14,15,16"]⟩,
   ⟨0xe0100, "VS",
     ["17,18,19,20,21,22,23,24,25,26,27,28,29,30,31,32,33,34,35,36,37,38,39,40,41,42,43,44",
      "45,46,47,48,49,50,51,52,53,54,55,56,57,58,59,60,61,62,63,64,65,66,67,68,69,70,71,72",
      "73,74,75,76,77,78,79,80,81,82,83,84,85,86,87,88,89,90,91,92,93,94,95,96,97,98,99,100",
      "101,102,103,104,105,106,107,108,109,110,111,112,113,114,115,116,117,118,119,120,121",
      "122,123,124,125,126,127,128,129,130,131,132,133,134,135,136,137,138,139,140,141,142",
      "143,144,145,146,147,148,149,150,151,152,153,154,155,156,157,158,159,160,161,162,163",
      "164,165,166,167,168,169,170,171,172,173,174,175,176,177,178,179,180,181,182,183,184",
      "185,186,187,188,189,190,191,192,193,194,195,196,197,198,199,200,201,202,203,204,205",
      "206,207,208,209,210,211,212,213,214,215,216,217,218,219,220,221,222,223,224,225,226",
      "227,228,229,230,231,232,233,234,235,236,237,238,239,240,241,242,243,244,245,246,247",
      "248,249,250,251,252,253,254,255,256"]⟩]

/-- All listed names. -/
def listed : List NameRun :=
  alphabets ++ scripts ++ symbols ++ eastAsian ++ ancient ++ pictures ++ selectors

/-- What the names of Korean syllables begin with. -/
def syllableStem : List Char := "HANGUL SYLLABLE ".toList

/-- What the names of ideographs begin with. -/
def ideographStem : List Char := "CJK UNIFIED IDEOGRAPH-".toList

/-- The ideographs. -/
def ideographRanges : List CodeRange :=
  [(0x3400, 0x4dbf), (0x4e00, 0x9fff), (0x20000, 0x2a6df), (0x2a700, 0x2b738), (0x2b740, 0x2b81d),
   (0x2b820, 0x2cea1), (0x2ceb0, 0x2ebe0), (0x30000, 0x3134a)]

/-- The number that digits in base 16 stand for, if they are capital letters where they are
letters. -/
def hexNumber? (cs : List Char) : Option Nat := do
  guard (cs.all fun c => c.toUpper == c)
  return (← cs.mapM hexValue?).foldl (fun code digit => 16 * code + digit) 0

/-- The ideograph with a number of four or five digits. -/
def ideograph? (cs : List Char) : Option Char := do
  guard (cs.length = 4 ∨ cs.length = 5)
  let code ← hexNumber? cs
  if inRanges ideographRanges code then some (Char.ofNat code) else none

/-- Other characters that are named by their numbers, with what their names begin with. -/
def numbered : List (String × List CodeRange) :=
  [("CJK COMPATIBILITY IDEOGRAPH-", [(0xf900, 0xfa6d), (0xfa70, 0xfad9), (0x2f800, 0x2fa1d)]),
   ("KHITAN SMALL SCRIPT CHARACTER-", [(0x18b00, 0x18cd5)]),
   ("NUSHU CHARACTER-", [(0x1b170, 0x1b2fb)])]

/-- The character whose name is a stem with its number, without zeros in front. -/
def numbered? (name : List Char) (family : String × List CodeRange) : Option Char := do
  let stem := family.1.toList
  guard (stem.isPrefixOf name)
  let digits := name.drop stem.length
  guard (digits.head? != some '0')
  let code ← hexNumber? digits
  if inRanges family.2 code then some (Char.ofNat code) else none

/-- The character with a name. -/
def char? (name : List Char) : Option Char :=
  if syllableStem.isPrefixOf name then Hangul.named? (name.drop syllableStem.length)
  else if ideographStem.isPrefixOf name then ideograph? (name.drop ideographStem.length)
  else
    let name := name.map Char.toUpper
    ((others.lookup (String.ofList name)).map Char.ofNat)
      <|> numbered.findSome? (numbered? name)
      <|> listed.findSome? fun run => run.char? name

end ScanAccess.Codec.CharacterName
