import ScanAccess.Codec.CharacterSet

/-! # Vendor characters for traditional Chinese

What one family of systems adds to the traditional set, or reads in another way. Rows and
cells are the two bytes of a character.
-/

namespace ScanAccess.Codec.CharacterSet

/-- The additional characters and replacements. -/
def traditionalVendor : CharacterSet where
  firstCell := 0x40
  rows := [
    (0xa1,
      "     ‧        ﹑                                                                       "
      ++ "                                            ¯                                ～        "
      ++ "      ⊕⊙"),
    (0xa2, " ∕﹨ ￥ ￠￡"),
    (0xa3,
      "                                                                                      "
      ++ "                                                                           €"),
    (0xf9,
      "                                                                                      "
      ++ "                                                                碁銹裏墻恒粧嫺╔╦╗╠╬╣╚╩╝╒╤╕╞╪╡"
      ++ "╘╧╛╓╥╖╟╫╢╙╨╜║═╭╮╰╯▓")]

end ScanAccess.Codec.CharacterSet
