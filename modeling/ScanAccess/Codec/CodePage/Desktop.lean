import ScanAccess.Codec.CodePage

/-! # Code pages of desktop systems

The pages of one family of desktop systems. They agree with ASCII below 128.
-/

namespace ScanAccess.Codec.CodePage

/-- Central Europe. -/
def codePage1250 : CodePage :=
  ⟨0x80,
    "€\ufffd‚\ufffd„…†‡\ufffd‰Š‹ŚŤŽŹ\ufffd‘’“”•–—\ufffd™š›śťžź\u00a0ˇ˘Ł¤Ą¦§¨©Ş«¬\u00ad®Ż°±˛ł´"
    ++ "µ¶·¸ąş»Ľ˝ľżŔÁÂĂÄĹĆÇČÉĘËĚÍÎĎĐŃŇÓÔŐÖ×ŘŮÚŰÜÝŢßŕáâăäĺćçčéęëěíîďđńňóôőö÷řůúűüýţ˙"⟩

/-- Cyrillic. -/
def codePage1251 : CodePage :=
  ⟨0x80,
    "ЂЃ‚ѓ„…†‡€‰Љ‹ЊЌЋЏђ‘’“”•–—\ufffd™љ›њќћџ\u00a0ЎўЈ¤Ґ¦§Ё©Є«¬\u00ad®Ї°±Ііґµ¶·ё№є»јЅѕїАБВГДЕЖЗИ"
    ++ "ЙКЛМНОПРСТУФХЦЧШЩЪЫЬЭЮЯабвгдежзийклмнопрстуфхцчшщъыьэюя"⟩

/-- Western Europe. -/
def codePage1252 : CodePage :=
  ⟨0x80,
    "€\ufffd‚ƒ„…†‡ˆ‰Š‹Œ\ufffdŽ\ufffd\ufffd‘’“”•–—˜™š›œ\ufffdžŸ\u00a0¡¢£¤¥¦§¨©ª«¬\u00ad®¯°±²³´"
    ++ "µ¶·¸¹º»¼½¾¿ÀÁÂÃÄÅÆÇÈÉÊËÌÍÎÏÐÑÒÓÔÕÖ×ØÙÚÛÜÝÞßàáâãäåæçèéêëìíîïðñòóôõö÷øùúûüýþÿ"⟩

/-- Greek. -/
def codePage1253 : CodePage :=
  ⟨0x80,
    "€\ufffd‚ƒ„…†‡\ufffd‰\ufffd‹\ufffd\ufffd\ufffd\ufffd\ufffd‘’“”•–—\ufffd™\ufffd›\ufffd"
    ++ "\ufffd\ufffd\ufffd\u00a0΅Ά£¤¥¦§¨©\ufffd«¬\u00ad®―°±²³΄µ¶·ΈΉΊ»Ό½ΎΏΐΑΒΓΔΕΖΗΘΙΚΛΜΝΞΟΠΡ"
    ++ "\ufffdΣΤΥΦΧΨΩΪΫάέήίΰαβγδεζηθικλμνξοπρςστυφχψωϊϋόύώ"⟩

/-- Turkish. -/
def codePage1254 : CodePage :=
  ⟨0x80,
    "€\ufffd‚ƒ„…†‡ˆ‰Š‹Œ\ufffd\ufffd\ufffd\ufffd‘’“”•–—˜™š›œ\ufffd\ufffdŸ\u00a0¡¢£¤¥¦§¨©ª«¬"
    ++ "\u00ad®¯°±²³´µ¶·¸¹º»¼½¾¿ÀÁÂÃÄÅÆÇÈÉÊËÌÍÎÏĞÑÒÓÔÕÖ×ØÙÚÛÜİŞßàáâãäåæçèéêëìíîïğñòóôõö÷øùúûüışÿ"⟩

/-- Hebrew. -/
def codePage1255 : CodePage :=
  ⟨0x80,
    "€\ufffd‚ƒ„…†‡ˆ‰\ufffd‹\ufffd\ufffd\ufffd\ufffd\ufffd‘’“”•–—˜™\ufffd›\ufffd\ufffd\ufffd"
    ++ "\ufffd\u00a0¡¢£₪¥¦§¨©×«¬\u00ad®¯°±²³´µ¶·¸¹÷»¼½¾¿\u05b0\u05b1\u05b2\u05b3\u05b4\u05b5"
    ++ "\u05b6\u05b7\u05b8\u05b9\ufffd\u05bb\u05bc\u05bd־\u05bf׀\u05c1\u05c2׃װױײ׳״\ufffd\ufffd"
    ++ "\ufffd\ufffd\ufffd\ufffd\ufffdאבגדהוזחטיךכלםמןנסעףפץצקרשת\ufffd\ufffd\u200e\u200f"⟩

/-- Arabic. -/
def codePage1256 : CodePage :=
  ⟨0x80,
    "€پ‚ƒ„…†‡ˆ‰ٹ‹Œچژڈگ‘’“”•–—ک™ڑ›œ\u200c\u200dں\u00a0،¢£¤¥¦§¨©ھ«¬\u00ad®¯°±²³´µ¶·¸¹؛»¼½¾؟ہءآأ"
    ++ "ؤإئابةتثجحخدذرزسشصض×طظعغـفقكàلâمنهوçèéêëىيîï\u064b\u064c\u064d\u064eô\u064f\u0650÷\u0651"
    ++ "ù\u0652ûü\u200e\u200fے"⟩

/-- The Baltic languages. -/
def codePage1257 : CodePage :=
  ⟨0x80,
    "€\ufffd‚\ufffd„…†‡\ufffd‰\ufffd‹\ufffd¨ˇ¸\ufffd‘’“”•–—\ufffd™\ufffd›\ufffd¯˛\ufffd\u00a0"
    ++ "\ufffd¢£¤\ufffd¦§Ø©Ŗ«¬\u00ad®Æ°±²³´µ¶·ø¹ŗ»¼½¾æĄĮĀĆÄÅĘĒČÉŹĖĢĶĪĻŠŃŅÓŌÕÖ×ŲŁŚŪÜŻŽßąįāćäåęēčé"
    ++ "źėģķīļšńņóōõö÷ųłśūüżž˙"⟩

/-- Vietnamese. -/
def codePage1258 : CodePage :=
  ⟨0x80,
    "€\ufffd‚ƒ„…†‡ˆ‰\ufffd‹Œ\ufffd\ufffd\ufffd\ufffd‘’“”•–—˜™\ufffd›œ\ufffd\ufffdŸ\u00a0¡¢£¤¥"
    ++ "¦§¨©ª«¬\u00ad®¯°±²³´µ¶·¸¹º»¼½¾¿ÀÁÂĂÄÅÆÇÈÉÊË\u0300ÍÎÏĐÑ\u0309ÓÔƠÖ×ØÙÚÛÜƯ\u0303ßàáâăäåæçèé"
    ++ "êë\u0301íîïđñ\u0323óôơö÷øùúûüư₫ÿ"⟩

end ScanAccess.Codec.CodePage
