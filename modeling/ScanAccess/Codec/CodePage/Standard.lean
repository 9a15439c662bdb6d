import ScanAccess.Codec.CodePage

/-! # Code pages of ISO 8859

The parts of the standard share ASCII and its control characters, and differ in the
upper half.
-/

namespace ScanAccess.Codec.CodePage

/-- Central Europe. -/
def iso8859Part2 : CodePage :=
  ⟨0xa1,
    "Ą˘Ł¤ĽŚ§¨ŠŞŤŹ\u00adŽŻ°ą˛ł´ľśˇ¸šşťź˝žżŔÁÂĂÄĹĆÇČÉĘËĚÍÎĎĐŃŇÓÔŐÖ×ŘŮÚŰÜÝŢßŕáâăäĺćçčéęëěíîďđńňó"
    ++ "ôőö÷řůúűüýţ˙"⟩

/-- Southern Europe. -/
def iso8859Part3 : CodePage :=
  ⟨0xa1,
    "Ħ˘£¤\ufffdĤ§¨İŞĞĴ\u00ad\ufffdŻ°ħ²³´µĥ·¸ışğĵ½\ufffdżÀÁÂ\ufffdÄĊĈÇÈÉÊËÌÍÎÏ\ufffdÑÒÓÔĠÖ×ĜÙÚ"
    ++ "ÛÜŬŜßàáâ\ufffdäċĉçèéêëìíîï\ufffdñòóôġö÷ĝùúûüŭŝ˙"⟩

/-- Northern Europe. -/
def iso8859Part4 : CodePage :=
  ⟨0xa1,
    "ĄĸŖ¤ĨĻ§¨ŠĒĢŦ\u00adŽ¯°ą˛ŗ´ĩļˇ¸šēģŧŊžŋĀÁÂÃÄÅÆĮČÉĘËĖÍÎĪĐŅŌĶÔÕÖ×ØŲÚÛÜŨŪßāáâãäåæįčéęëėíîīđņōķ"
    ++ "ôõö÷øųúûüũū˙"⟩

/-- Cyrillic. -/
def iso8859Part5 : CodePage :=
  ⟨0xa1,
    "ЁЂЃЄЅІЇЈЉЊЋЌ\u00adЎЏАБВГДЕЖЗИЙКЛМНОПРСТУФХЦЧШЩЪЫЬЭЮЯабвгдежзийклмнопрстуфхцчшщъыьэюя№ёђѓ"
    ++ "єѕіїјљњћќ§ўџ"⟩

/-- Arabic. -/
def iso8859Part6 : CodePage :=
  ⟨0xa1,
    "\ufffd\ufffd\ufffd¤\ufffd\ufffd\ufffd\ufffd\ufffd\ufffd\ufffd،\u00ad\ufffd\ufffd\ufffd"
    ++ "\ufffd\ufffd\ufffd\ufffd\ufffd\ufffd\ufffd\ufffd\ufffd\ufffd؛\ufffd\ufffd\ufffd؟\ufffdءآ"
    ++ "أؤإئابةتثجحخدذرزسشصضطظعغ\ufffd\ufffd\ufffd\ufffd\ufffdـفقكلمنهوىي\u064b\u064c\u064d"
    ++ "\u064e\u064f\u0650\u0651\u0652"⟩

/-- Greek. -/
def iso8859Part7 : CodePage :=
  ⟨0xa1,
    "‘’£€₯¦§¨©ͺ«¬\u00ad\ufffd―°±²³΄΅Ά·ΈΉΊ»Ό½ΎΏΐΑΒΓΔΕΖΗΘΙΚΛΜΝΞΟΠΡ\ufffdΣΤΥΦΧΨΩΪΫάέήίΰαβγδεζηθι"
    ++ "κλμνξοπρςστυφχψωϊϋόύώ"⟩

/-- Hebrew. -/
def iso8859Part8 : CodePage :=
  ⟨0xa1,
    "\ufffd¢£¤¥¦§¨©×«¬\u00ad®¯°±²³´µ¶·¸¹÷»¼½¾\ufffd\ufffd\ufffd\ufffd\ufffd\ufffd\ufffd\ufffd"
    ++ "\ufffd\ufffd\ufffd\ufffd\ufffd\ufffd\ufffd\ufffd\ufffd\ufffd\ufffd\ufffd\ufffd\ufffd"
    ++ "\ufffd\ufffd\ufffd\ufffd\ufffd\ufffd\ufffd\ufffd\ufffd\ufffd‗אבגדהוזחטיךכלםמןנסעףפץצקרשת"
    ++ "\ufffd\ufffd\u200e\u200f"⟩

/-- Turkish. -/
def iso8859Part9 : CodePage :=
  ⟨0xd0,
    "ĞÑÒÓÔÕÖ×ØÙÚÛÜİŞßàáâãäåæçèéêëìíîïğñòóôõö÷øùúûüışÿ"⟩

/-- The Nordic languages. -/
def iso8859Part10 : CodePage :=
  ⟨0xa1,
    "ĄĒĢĪĨĶ§ĻĐŠŦŽ\u00adŪŊ°ąēģīĩķ·ļđšŧž―ūŋĀÁÂÃÄÅÆĮČÉĘËĖÍÎÏÐŅŌÓÔÕÖŨØŲÚÛÜÝÞßāáâãäåæįčéęëėíîïðņōó"
    ++ "ôõöũøųúûüýþĸ"⟩

/-- Thai. -/
def iso8859Part11 : CodePage :=
  ⟨0xa1,
    "กขฃคฅฆงจฉชซฌญฎฏฐฑฒณดตถทธนบปผฝพฟภมยรฤลฦวศษสหฬอฮฯะ\u0e31าำ\u0e34\u0e35\u0e36\u0e37\u0e38"
    ++ "\u0e39\u0e3a\ufffd\ufffd\ufffd\ufffd฿เแโใไๅๆ\u0e47\u0e48\u0e49\u0e4a\u0e4b\u0e4c\u0e4d"
    ++ "\u0e4e๏๐๑๒๓๔๕๖๗๘๙๚๛"⟩

/-- The Baltic languages. -/
def iso8859Part13 : CodePage :=
  ⟨0xa1,
    "”¢£¤„¦§Ø©Ŗ«¬\u00ad®Æ°±²³“µ¶·ø¹ŗ»¼½¾æĄĮĀĆÄÅĘĒČÉŹĖĢĶĪĻŠŃŅÓŌÕÖ×ŲŁŚŪÜŻŽßąįāćäåęēčéźėģķīļšńņó"
    ++ "ōõö÷ųłśūüżž’"⟩

/-- The Celtic languages. -/
def iso8859Part14 : CodePage :=
  ⟨0xa1,
    "Ḃḃ£ĊċḊ§Ẁ©ẂḋỲ\u00ad®ŸḞḟĠġṀṁ¶ṖẁṗẃṠỳẄẅṡÀÁÂÃÄÅÆÇÈÉÊËÌÍÎÏŴÑÒÓÔÕÖṪØÙÚÛÜÝŶßàáâãäåæçèéêëìíîïŵñòó"
    ++ "ôõöṫøùúûüýŷÿ"⟩

/-- Western Europe, with the euro sign. -/
def iso8859Part15 : CodePage :=
  ⟨0xa4,
    "€¥Š§š©ª«¬\u00ad®¯°±²³Žµ¶·ž¹º»ŒœŸ¿ÀÁÂÃÄÅÆÇÈÉÊËÌÍÎÏÐÑÒÓÔÕÖ×ØÙÚÛÜÝÞßàáâãäåæçèéêëìíîïðñòóôõö"
    ++ "÷øùúûüýþÿ"⟩

/-- South-eastern Europe. -/
def iso8859Part16 : CodePage :=
  ⟨0xa1,
    "ĄąŁ€„Š§š©Ș«Ź\u00adźŻ°±ČłŽ”¶·žčș»ŒœŸżÀÁÂĂÄĆÆÇÈÉÊËÌÍÎÏĐŃÒÓÔŐÖŚŰÙÚÛÜĘȚßàáâăäćæçèéêëìíîïđńòó"
    ++ "ôőöśűùúûüęțÿ"⟩

end ScanAccess.Codec.CodePage
