import ScanAccess.Codec.CodePage.Desktop
import ScanAccess.Codec.CodePage.Mainframe
import ScanAccess.Codec.CodePage.Publishing
import ScanAccess.Codec.CodePage.Regional
import ScanAccess.Codec.CodePage.Standard
import ScanAccess.Codec.CodePage.Terminal
import ScanAccess.Codec.Encoding

/-! # Names of encodings

An encoding has an own name and other names in use. Names are compared without
regard to letter case and to how their parts are separated. Some names are known
to belong to no encoding of text.
-/

namespace ScanAccess.Codec

/-- What a name is known to belong to. -/
inductive EncodingName where
  | text (encoding : Encoding)
  | binary
  | unknown
  deriving DecidableEq, Repr

namespace EncodingName

/-- The encodings of all characters and of the first ones: the own name of each, and its other
names. -/
def unicodeTable : List (String × Encoding × List String) :=
  [("ascii", .ascii, ["646", "ansi_x3.4_1968", "ansi_x3.4_1986", "ansi_x3_4_1968", "cp367",
      "csascii", "ibm367", "iso646_us", "iso_646.irv_1991", "iso_ir_6", "us", "us_ascii"]),
   ("utf_8", .utf8 false, ["cp65001", "u8", "utf", "utf8", "utf8_ucs2", "utf8_ucs4"]),
   ("utf_8_sig", .utf8 true, []),
   ("utf_16", .utf16 none, ["u16", "utf16"]),
   ("utf_16_le", .utf16 (some .littleEndian), ["unicodelittleunmarked", "utf_16le"]),
   ("utf_16_be", .utf16 (some .bigEndian), ["unicodebigunmarked", "utf_16be"]),
   ("utf_32", .utf32 none, ["u32", "utf32"]),
   ("utf_32_le", .utf32 (some .littleEndian), ["utf_32le"]),
   ("utf_32_be", .utf32 (some .bigEndian), ["utf_32be"]),
   ("utf_7", .utf7, ["u7", "unicode_1_1_utf_7", "utf7"]),
   ("latin_1", .page .latin1, ["8859", "cp819", "csisolatin1", "ibm819", "iso8859", "iso8859_1",
      "iso_8859_1", "iso_8859_1_1987", "iso_ir_100", "l1", "latin", "latin1"]),
   ("iso8859_1", .page .latin1, []),
   ("charmap", .page .latin1, [])]

/-- The code pages. -/
def pageTable : List (String × Encoding × List String) :=
  [("cp037", .page .codePage037, ["037", "csibm037", "ebcdic_cp_ca", "ebcdic_cp_nl", "ebcdic_cp_us",
      "ebcdic_cp_wt", "ibm037", "ibm039"]),
   ("cp273", .page .codePage273, ["273", "csibm273", "ibm273"]),
   ("cp424", .page .codePage424, ["424", "csibm424", "ebcdic_cp_he", "ibm424"]),
   ("cp437", .page .codePage437, ["437", "cspc8codepage437", "ibm437"]),
   ("cp500", .page .codePage500, ["500", "csibm500", "ebcdic_cp_be", "ebcdic_cp_ch", "ibm500"]),
   ("cp720", .page .codePage720, []),
   ("cp737", .page .codePage737, []),
   ("cp775", .page .codePage775, ["775", "cspc775baltic", "ibm775"]),
   ("cp850", .page .codePage850, ["850", "cspc850multilingual", "ibm850"]),
   ("cp852", .page .codePage852, ["852", "cspcp852", "ibm852"]),
   ("cp855", .page .codePage855, ["855", "csibm855", "ibm855"]),
   ("cp856", .page .codePage856, []),
   ("cp857", .page .codePage857, ["857", "csibm857", "ibm857"]),
   ("cp858", .page .codePage858, ["858", "csibm858", "ibm858"]),
   ("cp860", .page .codePage860, ["860", "csibm860", "ibm860"]),
   ("cp861", .page .codePage861, ["861", "cp_is", "csibm861", "ibm861"]),
   ("cp862", .page .codePage862, ["862", "cspc862latinhebrew", "ibm862"]),
   ("cp863", .page .codePage863, ["863", "csibm863", "ibm863"]),
   ("cp864", .page .codePage864, ["864", "csibm864", "ibm864"]),
   ("cp865", .page .codePage865, ["865", "csibm865", "ibm865"]),
   ("cp866", .page .codePage866, ["866", "csibm866", "ibm866"]),
   ("cp869", .page .codePage869, ["869", "cp_gr", "csibm869", "ibm869"]),
   ("cp874", .page .codePage874, []),
   ("cp875", .page .codePage875, []),
   ("cp1006", .page .urdu, []),
   ("cp1026", .page .codePage1026, ["1026", "csibm1026", "ibm1026"]),
   ("cp1125", .page .codePage1125, ["1125", "cp866u", "ibm1125", "ruscii"]),
   ("cp1140", .page .codePage1140, ["1140", "ibm1140"]),
   ("cp1250", .page .codePage1250, ["1250", "windows_1250"]),
   ("cp1251", .page .codePage1251, ["1251", "windows_1251"]),
   ("cp1252", .page .codePage1252, ["1252", "windows_1252"]),
   ("cp1253", .page .codePage1253, ["1253", "windows_1253"]),
   ("cp1254", .page .codePage1254, ["1254", "windows_1254"]),
   ("cp1255", .page .codePage1255, ["1255", "windows_1255"]),
   ("cp1256", .page .codePage1256, ["1256", "windows_1256"]),
   ("cp1257", .page .codePage1257, ["1257", "windows_1257"]),
   ("cp1258", .page .codePage1258, ["1258", "windows_1258"]),
   ("iso8859_10", .page .iso8859Part10, ["csisolatin6", "iso_8859_10", "iso_8859_10_1992",
      "iso_ir_157", "l6", "latin6"]),
   ("iso8859_11", .page .iso8859Part11, ["iso_8859_11", "iso_8859_11_2001", "thai"]),
   ("iso8859_13", .page .iso8859Part13, ["iso_8859_13", "l7", "latin7"]),
   ("iso8859_14", .page .iso8859Part14, ["iso_8859_14", "iso_8859_14_1998", "iso_celtic",
      "iso_ir_199", "l8", "latin8"]),
   ("iso8859_15", .page .iso8859Part15, ["iso_8859_15", "l9", "latin9"]),
   ("iso8859_16", .page .iso8859Part16, ["iso_8859_16", "iso_8859_16_2001", "iso_ir_226", "l10",
      "latin10"]),
   ("iso8859_2", .page .iso8859Part2, ["csisolatin2", "iso_8859_2", "iso_8859_2_1987", "iso_ir_101",
      "l2", "latin2"]),
   ("iso8859_3", .page .iso8859Part3, ["csisolatin3", "iso_8859_3", "iso_8859_3_1988", "iso_ir_109",
      "l3", "latin3"]),
   ("iso8859_4", .page .iso8859Part4, ["csisolatin4", "iso_8859_4", "iso_8859_4_1988", "iso_ir_110",
      "l4", "latin4"]),
   ("iso8859_5", .page .iso8859Part5, ["csisolatincyrillic", "cyrillic", "iso_8859_5",
      "iso_8859_5_1988", "iso_ir_144"]),
   ("iso8859_6", .page .iso8859Part6, ["arabic", "asmo_708", "csisolatinarabic", "ecma_114",
      "iso_8859_6", "iso_8859_6_1987", "iso_ir_127"]),
   ("iso8859_7", .page .iso8859Part7, ["csisolatingreek", "ecma_118", "elot_928", "greek", "greek8",
      "iso_8859_7", "iso_8859_7_1987", "iso_ir_126"]),
   ("iso8859_8", .page .iso8859Part8, ["csisolatinhebrew", "hebrew", "iso_8859_8",
      "iso_8859_8_1988", "iso_ir_138"]),
   ("iso8859_9", .page .iso8859Part9, ["csisolatin5", "iso_8859_9", "iso_8859_9_1989", "iso_ir_148",
      "l5", "latin5"]),
   ("hp_roman8", .page .roman8, ["cp1051", "csHPRoman8", "ibm1051", "r8", "roman8"]),
   ("koi8_r", .page .koi8Russian, ["cskoi8r"]),
   ("koi8_t", .page .koi8Tajik, []),
   ("koi8_u", .page .koi8Ukrainian, []),
   ("kz1048", .page .kazakh, ["kz_1048", "rk1048", "strk1048_2002"]),
   ("mac_arabic", .page .macintoshArabic, []),
   ("mac_croatian", .page .macintoshCroatian, []),
   ("mac_cyrillic", .page .macintoshCyrillic, ["maccyrillic"]),
   ("mac_farsi", .page .macintoshFarsi, []),
   ("mac_greek", .page .macintoshGreek, ["macgreek"]),
   ("mac_iceland", .page .macintoshIcelandic, ["maciceland"]),
   ("mac_latin2", .page .macintoshCentral, ["mac_centeuro", "maccentraleurope", "maclatin2"]),
   ("mac_roman", .page .macintosh, ["macintosh", "macroman"]),
   ("mac_romanian", .page .macintoshRomanian, []),
   ("mac_turkish", .page .macintoshTurkish, ["macturkish"]),
   ("palmos", .page .handheld, []),
   ("ptcp154", .page .asianCyrillic, ["cp154", "csptcp154", "cyrillic_asian", "pt154"]),
   ("tis_620", .page .thai, ["iso_ir_166", "tis620", "tis_620_0", "tis_620_2529_0",
      "tis_620_2529_1"])]

/-- The encodings of several bytes. -/
def multibyteTable : List (String × Encoding × List String) :=
  [("cp932", .multibyte .codePage932, ["932", "ms932", "ms_kanji", "mskanji"]),
   ("cp949", .multibyte .codePage949, ["949", "ms949", "uhc"]),
   ("cp950", .multibyte .codePage950, ["950", "ms950"]),
   ("big5", .multibyte .traditional, ["big5_tw", "csbig5", "x_mac_trad_chinese"]),
   ("big5hkscs", .multibyte .hongKong, ["big5_hkscs", "hkscs"]),
   ("euc_jis_2004", .multibyte (.eucJapaneseLarge .second), ["euc_jis2004", "eucjis2004",
      "jisx0213"]),
   ("euc_jisx0213", .multibyte (.eucJapaneseLarge .first), ["eucjisx0213"]),
   ("euc_jp", .multibyte .eucJapanese, ["eucjp", "u_jis", "ujis"]),
   ("euc_kr", .multibyte .eucKorean, ["euckr", "korean", "ks_c_5601", "ks_c_5601_1987", "ks_x_1001",
      "ksc5601", "ksx1001", "x_mac_korean"]),
   ("gb18030", .multibyte .nationalChinese, ["gb18030_2000"]),
   ("gb2312", .multibyte .eucChinese, ["chinese", "csiso58gb231280", "euc_cn", "euccn",
      "eucgb2312_cn", "gb2312_1980", "gb2312_80", "iso_ir_58", "x_mac_simp_chinese"]),
   ("gbk", .multibyte .extendedChinese, ["936", "cp936", "ms936"]),
   ("hz", .multibyte .switchedChinese, ["hz_gb", "hz_gb_2312", "hzgb"]),
   ("iso2022_jp", .multibyte (.designated .japanese), ["csiso2022jp", "iso2022jp", "iso_2022_jp"]),
   ("iso2022_jp_1", .multibyte (.designated .japaneseSupplemented), ["iso2022jp_1",
      "iso_2022_jp_1"]),
   ("iso2022_jp_2", .multibyte (.designated .multilingual), ["iso2022jp_2", "iso_2022_jp_2"]),
   ("iso2022_jp_2004", .multibyte (.designated (.japaneseLarge .second)), ["iso2022jp_2004",
      "iso_2022_jp_2004"]),
   ("iso2022_jp_3", .multibyte (.designated (.japaneseLarge .first)), ["iso2022jp_3",
      "iso_2022_jp_3"]),
   ("iso2022_jp_ext", .multibyte (.designated .japaneseExtended), ["iso2022jp_ext",
      "iso_2022_jp_ext"]),
   ("iso2022_kr", .multibyte (.designated .korean), ["csiso2022kr", "iso2022kr", "iso_2022_kr"]),
   ("johab", .multibyte .johab, ["cp1361", "ms1361"]),
   ("shift_jis", .multibyte .shiftJapanese, ["csshiftjis", "s_jis", "shiftjis", "sjis",
      "x_mac_japanese"]),
   ("shift_jis_2004", .multibyte (.shiftJapaneseLarge .second), ["s_jis_2004", "shiftjis2004",
      "sjis_2004"]),
   ("shift_jisx0213", .multibyte (.shiftJapaneseLarge .first), ["s_jisx0213", "shiftjisx0213",
      "sjisx0213"])]

/-- The encodings of text that is written in other characters. -/
def formTable : List (String × Encoding × List String) :=
  [("idna", .domainNames, []),
   ("punycode", .punycode, []),
   ("raw_unicode_escape", .escaped true, []),
   ("undefined", .undefined, []),
   ("unicode_escape", .escaped false, [])]

/-- All encodings. -/
def table : List (String × Encoding × List String) :=
  unicodeTable ++ pageTable ++ multibyteTable ++ formTable

/-- The own names of what turns bytes into bytes, and so is no encoding of text. -/
def binaryNames : List String :=
  ["base64_codec", "bz2_codec", "hex_codec", "quopri_codec", "rot_13", "uu_codec", "zlib_codec"]

/-- Their other names. -/
def otherBinaryNames : List String :=
  ["base64", "base_64", "bz2", "hex", "quopri", "quoted_printable", "quotedprintable", "rot13",
   "uu", "zip", "zlib"]

/-- A letter or digit of ASCII, or a point. -/
def isPart (c : Char) : Bool :=
  c.isAlphanum || c == '.'

/-- A name in the spelling in which names are compared: its parts in lower case, and one
low line between two of them, whatever stands there. -/
def key (name : String) : String :=
  let parts := (name.toList.splitOnP fun c => !isPart c).filter fun part => !part.isEmpty
  String.ofList ((List.intercalate ['_'] parts).map Char.toLower)

/-- The key of a name in which a point separates parts as well. -/
def looseKey (key : String) : String :=
  key.map fun c => if c = '.' then '_' else c

/-- Whether a key is another name from a list, strictly or with points as separators. -/
def isOther (key : String) (others : List String) : Bool :=
  others.contains key || others.contains (looseKey key)

/-- Looks a name up. -/
def lookUp (name : String) : EncodingName :=
  let key := key name
  match table.find? fun (own, _, others) => own == key || isOther key others with
  | some (_, encoding, _) => .text encoding
  | none =>
    if binaryNames.contains key || isOther key otherBinaryNames then .binary
    else .unknown

end EncodingName

end ScanAccess.Codec
