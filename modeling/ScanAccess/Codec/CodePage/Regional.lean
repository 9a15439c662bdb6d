import ScanAccess.Codec.CodePage

/-! # Regional code pages

Pages in use in one country or on one kind of device.
-/

namespace ScanAccess.Codec.CodePage

/-- Russian, in the order of the Latin letters that sound alike. -/
def koi8Russian : CodePage :=
  ⟨0x80,
    "─│┌┐└┘├┤┬┴┼▀▄█▌▐░▒▓⌠■∙√≈≤≥\u00a0⌡°²·÷═║╒ё╓╔╕╖╗╘╙╚╛╜╝╞╟╠╡Ё╢╣╤╥╦╧╨╩╪╫╬©юабцдефгхийклмнопяр"
    ++ "стужвьызшэщчъЮАБЦДЕФГХИЙКЛМНОПЯРСТУЖВЬЫЗШЭЩЧЪ"⟩

/-- Ukrainian, in the order of the Latin letters that sound alike. -/
def koi8Ukrainian : CodePage :=
  ⟨0x80,
    "─│┌┐└┘├┤┬┴┼▀▄█▌▐░▒▓⌠■∙√≈≤≥\u00a0⌡°²·÷═║╒ёє╔ії╗╘╙╚╛ґ╝╞╟╠╡ЁЄ╣ІЇ╦╧╨╩╪Ґ╬©юабцдефгхийклмнопяр"
    ++ "стужвьызшэщчъЮАБЦДЕФГХИЙКЛМНОПЯРСТУЖВЬЫЗШЭЩЧЪ"⟩

/-- Tajik, in the order of the Latin letters that sound alike. -/
def koi8Tajik : CodePage :=
  ⟨0x80,
    "қғ‚Ғ„…†‡\ufffd‰ҳ‹ҲҷҶ\ufffdҚ‘’“”•–—\ufffd™\ufffd›\ufffd\ufffd\ufffd\ufffd\ufffdӯӮё¤ӣ¦§"
    ++ "\ufffd\ufffd\ufffd«¬\u00ad®\ufffd°±²Ё\ufffdӢ¶·\ufffd№\ufffd»\ufffd\ufffd\ufffd©юабцдефгх"
    ++ "ийклмнопярстужвьызшэщчъЮАБЦДЕФГХИЙКЛМНОПЯРСТУЖВЬЫЗШЭЩЧЪ"⟩

/-- Kazakh. -/
def kazakh : CodePage :=
  ⟨0x80,
    "ЂЃ‚ѓ„…†‡€‰Љ‹ЊҚҺЏђ‘’“”•–—\ufffd™љ›њқһџ\u00a0ҰұӘ¤Ө¦§Ё©Ғ«¬\u00ad®Ү°±Ііөµ¶·ё№ғ»әҢңүАБВГДЕЖЗИ"
    ++ "ЙКЛМНОПРСТУФХЦЧШЩЪЫЬЭЮЯабвгдежзийклмнопрстуфхцчшщъыьэюя"⟩

/-- The Cyrillic letters of Asian languages. -/
def asianCyrillic : CodePage :=
  ⟨0x80,
    "ҖҒӮғ„…ҶҮҲүҠӢҢҚҺҸҗ‘’“”•–—ҳҷҡӣңқһҹ\u00a0ЎўЈӨҘҰ§Ё©Ә«¬ӯ®Ҝ°ұІіҙө¶·ё№ә»јҪҫҝАБВГДЕЖЗИЙКЛМНОПРСТ"
    ++ "УФХЦЧШЩЪЫЬЭЮЯабвгдежзийклмнопрстуфхцчшщъыьэюя"⟩

/-- Thai. -/
def thai : CodePage :=
  ⟨0xa0,
    "\ufffdกขฃคฅฆงจฉชซฌญฎฏฐฑฒณดตถทธนบปผฝพฟภมยรฤลฦวศษสหฬอฮฯะ\u0e31าำ\u0e34\u0e35\u0e36\u0e37"
    ++ "\u0e38\u0e39\u0e3a\ufffd\ufffd\ufffd\ufffd฿เแโใไๅๆ\u0e47\u0e48\u0e49\u0e4a\u0e4b\u0e4c"
    ++ "\u0e4d\u0e4e๏๐๑๒๓๔๕๖๗๘๙๚๛"⟩

/-- Urdu, by shapes. -/
def urdu : CodePage :=
  ⟨0xa1,
    "۰۱۲۳۴۵۶۷۸۹،؛\u00ad؟ﺁﺍﺎﺎﺏﺑﭖﭘﺓﺕﺗﭦﭨﺙﺛﺝﺟﭺﭼﺡﺣﺥﺧﺩﮄﺫﺭﮌﺯﮊﺱﺳﺵﺷﺹﺻﺽﺿﻁﻅﻉﻊﻋﻌﻍﻎﻏﻐﻑﻓﻕﻗﻙﻛﮒﮔﻝﻟﻠﻡﻣﮞﻥﻧﺅﻭﮦﮨﮩ"
    ++ "ﮪﺀﺉﺊﺋﻱﻲﻳﮰﮮﹼﹽ"⟩

/-- Western Europe, on early workstations. -/
def roman8 : CodePage :=
  ⟨0xa1,
    "ÀÂÈÊËÎÏ´ˋˆ¨˜ÙÛ₤¯Ýý°ÇçÑñ¡¿¤£¥§ƒ¢âêôûáéóúàèòùäëöüÅîØÆåíøæÄìÖÜÉïßÔÁÃãÐðÍÌÓÒÕõŠšÚŸÿÞþ·µ¶¾—¼½"
    ++ "ªº«■»±"⟩

/-- Western Europe, on early handheld computers. -/
def handheld : CodePage :=
  ⟨0x80,
    "€\u0081‚ƒ„…†‡ˆ‰Š‹Œ♦♣♥♠‘’“”•–—˜™š\u009bœ\u009d\u009eŸ\u00a0¡¢£¤¥¦§¨©ª«¬\u00ad®¯°±²³´µ¶·¸¹"
    ++ "º»¼½¾¿ÀÁÂÃÄÅÆÇÈÉÊËÌÍÎÏÐÑÒÓÔÕÖ×ØÙÚÛÜÝÞßàáâãäåæçèéêëìíîïðñòóôõö÷øùúûüýþÿ"⟩

end ScanAccess.Codec.CodePage
