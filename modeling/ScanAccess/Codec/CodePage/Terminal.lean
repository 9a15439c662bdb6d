import ScanAccess.Codec.CodePage

/-! # Code pages of early terminals

The pages of early personal computers, with frames and blocks for drawing. Most of
them agree with ASCII below 128.
-/

namespace ScanAccess.Codec.CodePage

/-- Western Europe. -/
def codePage437 : CodePage :=
  ⟨0x80,
    "ÇüéâäàåçêëèïîìÄÅÉæÆôöòûùÿÖÜ¢£¥₧ƒáíóúñÑªº¿⌐¬½¼¡«»░▒▓│┤╡╢╖╕╣║╗╝╜╛┐└┴┬├─┼╞╟╚╔╩╦╠═╬╧╨╤╥╙╘╒╓╫"
    ++ "╪┘┌█▄▌▐▀αßΓπΣσµτΦΘΩδ∞φε∩≡±≥≤⌠⌡÷≈°∙·√ⁿ²■\u00a0"⟩

/-- Arabic. -/
def codePage720 : CodePage :=
  ⟨0x82,
    "éâ\u0084à\u0086çêëèïî\u008d\u008e\u008f\u0090\u0651\u0652ô¤ـûùءآأؤ£إئابةتثجحخدذرزسشص«»░▒"
    ++ "▓│┤╡╢╖╕╣║╗╝╜╛┐└┴┬├─┼╞╟╚╔╩╦╠═╬╧╨╤╥╙╘╒╓╫╪┘┌█▄▌▐▀ضطظعغفµقكلمنهوىي≡\u064b\u064c\u064d\u064e"
    ++ "\u064f\u0650≈°∙·√ⁿ²■\u00a0"⟩

/-- Greek. -/
def codePage737 : CodePage :=
  ⟨0x80,
    "ΑΒΓΔΕΖΗΘΙΚΛΜΝΞΟΠΡΣΤΥΦΧΨΩαβγδεζηθικλμνξοπρσςτυφχψ░▒▓│┤╡╢╖╕╣║╗╝╜╛┐└┴┬├─┼╞╟╚╔╩╦╠═╬╧╨╤╥╙╘╒╓╫"
    ++ "╪┘┌█▄▌▐▀ωάέήϊίόύϋώΆΈΉΊΌΎΏ±≥≤ΪΫ÷≈°∙·√ⁿ²■\u00a0"⟩

/-- The Baltic languages. -/
def codePage775 : CodePage :=
  ⟨0x80,
    "ĆüéāäģåćłēŖŗīŹÄÅÉæÆōöĢ¢ŚśÖÜø£Ø×¤ĀĪóŻżź”¦©®¬½¼Ł«»░▒▓│┤ĄČĘĖ╣║╗╝ĮŠ┐└┴┬├─┼ŲŪ╚╔╩╦╠═╬Žąčęėįšųū"
    ++ "ž┘┌█▄▌▐▀ÓßŌŃõÕµńĶķĻļņĒŅ’\u00ad±“¾¶§÷„°∙·¹³²■\u00a0"⟩

/-- Western Europe, with more letters. -/
def codePage850 : CodePage :=
  ⟨0x80,
    "ÇüéâäàåçêëèïîìÄÅÉæÆôöòûùÿÖÜø£Ø×ƒáíóúñÑªº¿®¬½¼¡«»░▒▓│┤ÁÂÀ©╣║╗╝¢¥┐└┴┬├─┼ãÃ╚╔╩╦╠═╬¤ðÐÊËÈıÍÎ"
    ++ "Ï┘┌█▄¦Ì▀ÓßÔÒõÕµþÞÚÛÙýÝ¯´\u00ad±‗¾¶§÷¸°¨·¹³²■\u00a0"⟩

/-- Central Europe. -/
def codePage852 : CodePage :=
  ⟨0x80,
    "ÇüéâäůćçłëŐőîŹÄĆÉĹĺôöĽľŚśÖÜŤťŁ×čáíóúĄąŽžĘę¬źČş«»░▒▓│┤ÁÂĚŞ╣║╗╝Żż┐└┴┬├─┼Ăă╚╔╩╦╠═╬¤đĐĎËďŇÍÎ"
    ++ "ě┘┌█▄ŢŮ▀ÓßÔŃńňŠšŔÚŕŰýÝţ´\u00ad˝˛ˇ˘§÷¸°¨˙űŘř■\u00a0"⟩

/-- Cyrillic. -/
def codePage855 : CodePage :=
  ⟨0x80,
    "ђЂѓЃёЁєЄѕЅіІїЇјЈљЉњЊћЋќЌўЎџЏюЮъЪаАбБцЦдДеЕфФгГ«»░▒▓│┤хХиИ╣║╗╝йЙ┐└┴┬├─┼кК╚╔╩╦╠═╬¤лЛмМнНоО"
    ++ "п┘┌█▄Пя▀ЯрРсСтТуУжЖвВьЬ№\u00adыЫзЗшШэЭщЩчЧ§■\u00a0"⟩

/-- Hebrew, without vowels. -/
def codePage856 : CodePage :=
  ⟨0x80,
    "אבגדהוזחטיךכלםמןנסעףפץצקרשת\ufffd£\ufffd×\ufffd\ufffd\ufffd\ufffd\ufffd\ufffd\ufffd"
    ++ "\ufffd\ufffd\ufffd®¬½¼\ufffd«»░▒▓│┤\ufffd\ufffd\ufffd©╣║╗╝¢¥┐└┴┬├─┼\ufffd\ufffd╚╔╩╦╠═╬¤"
    ++ "\ufffd\ufffd\ufffd\ufffd\ufffd\ufffd\ufffd\ufffd\ufffd┘┌█▄¦\ufffd▀\ufffd\ufffd\ufffd"
    ++ "\ufffd\ufffd\ufffdµ\ufffd\ufffd\ufffd\ufffd\ufffd\ufffd\ufffd¯´\u00ad±‗¾¶§÷¸°¨·¹³²■"
    ++ "\u00a0"⟩

/-- Turkish. -/
def codePage857 : CodePage :=
  ⟨0x80,
    "ÇüéâäàåçêëèïîıÄÅÉæÆôöòûùİÖÜø£ØŞşáíóúñÑĞğ¿®¬½¼¡«»░▒▓│┤ÁÂÀ©╣║╗╝¢¥┐└┴┬├─┼ãÃ╚╔╩╦╠═╬¤ºªÊËÈ"
    ++ "\ufffdÍÎÏ┘┌█▄¦Ì▀ÓßÔÒõÕµ\ufffd×ÚÛÙìÿ¯´\u00ad±\ufffd¾¶§÷¸°¨·¹³²■\u00a0"⟩

/-- Western Europe, with the euro sign. -/
def codePage858 : CodePage :=
  ⟨0x80,
    "ÇüéâäàåçêëèïîìÄÅÉæÆôöòûùÿÖÜø£Ø×ƒáíóúñÑªº¿®¬½¼¡«»░▒▓│┤ÁÂÀ©╣║╗╝¢¥┐└┴┬├─┼ãÃ╚╔╩╦╠═╬¤ðÐÊËÈ€ÍÎ"
    ++ "Ï┘┌█▄¦Ì▀ÓßÔÒõÕµþÞÚÛÙýÝ¯´\u00ad±‗¾¶§÷¸°¨·¹³²■\u00a0"⟩

/-- Portuguese. -/
def codePage860 : CodePage :=
  ⟨0x80,
    "ÇüéâãàÁçêÊèÍÔìÃÂÉÀÈôõòÚùÌÕÜ¢£Ù₧ÓáíóúñÑªº¿Ò¬½¼¡«»░▒▓│┤╡╢╖╕╣║╗╝╜╛┐└┴┬├─┼╞╟╚╔╩╦╠═╬╧╨╤╥╙╘╒╓╫"
    ++ "╪┘┌█▄▌▐▀αßΓπΣσµτΦΘΩδ∞φε∩≡±≥≤⌠⌡÷≈°∙·√ⁿ²■\u00a0"⟩

/-- Icelandic. -/
def codePage861 : CodePage :=
  ⟨0x80,
    "ÇüéâäàåçêëèÐðÞÄÅÉæÆôöþûÝýÖÜø£Ø₧ƒáíóúÁÍÓÚ¿⌐¬½¼¡«»░▒▓│┤╡╢╖╕╣║╗╝╜╛┐└┴┬├─┼╞╟╚╔╩╦╠═╬╧╨╤╥╙╘╒╓╫"
    ++ "╪┘┌█▄▌▐▀αßΓπΣσµτΦΘΩδ∞φε∩≡±≥≤⌠⌡÷≈°∙·√ⁿ²■\u00a0"⟩

/-- Hebrew. -/
def codePage862 : CodePage :=
  ⟨0x80,
    "אבגדהוזחטיךכלםמןנסעףפץצקרשת¢£¥₧ƒáíóúñÑªº¿⌐¬½¼¡«»░▒▓│┤╡╢╖╕╣║╗╝╜╛┐└┴┬├─┼╞╟╚╔╩╦╠═╬╧╨╤╥╙╘╒╓╫"
    ++ "╪┘┌█▄▌▐▀αßΓπΣσµτΦΘΩδ∞φε∩≡±≥≤⌠⌡÷≈°∙·√ⁿ²■\u00a0"⟩

/-- Canadian French. -/
def codePage863 : CodePage :=
  ⟨0x80,
    "ÇüéâÂà¶çêëèïî‗À§ÉÈÊôËÏûù¤ÔÜ¢£ÙÛƒ¦´óú¨¸³¯Î⌐¬½¼¾«»░▒▓│┤╡╢╖╕╣║╗╝╜╛┐└┴┬├─┼╞╟╚╔╩╦╠═╬╧╨╤╥╙╘╒╓╫"
    ++ "╪┘┌█▄▌▐▀αßΓπΣσµτΦΘΩδ∞φε∩≡±≥≤⌠⌡÷≈°∙·√ⁿ²■\u00a0"⟩

/-- Arabic by shapes, with an Arabic percent sign. -/
def codePage864 : CodePage :=
  ⟨0x25,
    "٪&'()*+,-./0123456789:;<=>?@ABCDEFGHIJKLMNOPQRSTUVWXYZ[\\]^_`abcdefghijklmnopqrstuvwxyz"
    ++ "\x7b|\x7d~\x7f°·∙√▒─│┼┤┬├┴┐┌└┘β∞φ±½¼≈«»ﻷﻸ\ufffd\ufffdﻻﻼ\ufffd\u00a0\u00adﺂ£¤ﺄ\ufffd"
    ++ "\ufffdﺎﺏﺕﺙ،ﺝﺡﺥ٠١٢٣٤٥٦٧٨٩ﻑ؛ﺱﺵﺹ؟¢ﺀﺁﺃﺅﻊﺋﺍﺑﺓﺗﺛﺟﺣﺧﺩﺫﺭﺯﺳﺷﺻﺿﻁﻅﻋﻏ¦¬÷×ﻉـﻓﻗﻛﻟﻣﻧﻫﻭﻯﻳﺽﻌﻎﻍﻡﹽ\u0651ﻥﻩﻬ"
    ++ "ﻰﻲﻐﻕﻵﻶﻝﻙﻱ■"⟩

/-- The Nordic languages. -/
def codePage865 : CodePage :=
  ⟨0x80,
    "ÇüéâäàåçêëèïîìÄÅÉæÆôöòûùÿÖÜø£Ø₧ƒáíóúñÑªº¿⌐¬½¼¡«¤░▒▓│┤╡╢╖╕╣║╗╝╜╛┐└┴┬├─┼╞╟╚╔╩╦╠═╬╧╨╤╥╙╘╒╓╫"
    ++ "╪┘┌█▄▌▐▀αßΓπΣσµτΦΘΩδ∞φε∩≡±≥≤⌠⌡÷≈°∙·√ⁿ²■\u00a0"⟩

/-- Cyrillic, in the order of the alphabet. -/
def codePage866 : CodePage :=
  ⟨0x80,
    "АБВГДЕЖЗИЙКЛМНОПРСТУФХЦЧШЩЪЫЬЭЮЯабвгдежзийклмноп░▒▓│┤╡╢╖╕╣║╗╝╜╛┐└┴┬├─┼╞╟╚╔╩╦╠═╬╧╨╤╥╙╘╒╓╫"
    ++ "╪┘┌█▄▌▐▀рстуфхцчшщъыьэюяЁёЄєЇїЎў°∙·√№¤■\u00a0"⟩

/-- Greek, with accents. -/
def codePage869 : CodePage :=
  ⟨0x80,
    "\ufffd\ufffd\ufffd\ufffd\ufffd\ufffdΆ\ufffd·¬¦‘’Έ―ΉΊΪΌ\ufffd\ufffdΎΫ©Ώ²³ά£έήίϊΐόύΑΒΓΔΕΖΗ"
    ++ "½ΘΙ«»░▒▓│┤ΚΛΜΝ╣║╗╝ΞΟ┐└┴┬├─┼ΠΡ╚╔╩╦╠═╬ΣΤΥΦΧΨΩαβγ┘┌█▄δε▀ζηθικλμνξοπρσςτ΄\u00ad±υφχ§ψ΅°¨ωϋΰώ"
    ++ "■\u00a0"⟩

/-- Thai. -/
def codePage874 : CodePage :=
  ⟨0x80,
    "€\ufffd\ufffd\ufffd\ufffd…\ufffd\ufffd\ufffd\ufffd\ufffd\ufffd\ufffd\ufffd\ufffd\ufffd"
    ++ "\ufffd‘’“”•–—\ufffd\ufffd\ufffd\ufffd\ufffd\ufffd\ufffd\ufffd\u00a0กขฃคฅฆงจฉชซฌญฎฏฐฑฒณดต"
    ++ "ถทธนบปผฝพฟภมยรฤลฦวศษสหฬอฮฯะ\u0e31าำ\u0e34\u0e35\u0e36\u0e37\u0e38\u0e39\u0e3a\ufffd"
    ++ "\ufffd\ufffd\ufffd฿เแโใไๅๆ\u0e47\u0e48\u0e49\u0e4a\u0e4b\u0e4c\u0e4d\u0e4e๏๐๑๒๓๔๕๖๗๘๙๚๛"⟩

/-- Ukrainian. -/
def codePage1125 : CodePage :=
  ⟨0x80,
    "АБВГДЕЖЗИЙКЛМНОПРСТУФХЦЧШЩЪЫЬЭЮЯабвгдежзийклмноп░▒▓│┤╡╢╖╕╣║╗╝╜╛┐└┴┬├─┼╞╟╚╔╩╦╠═╬╧╨╤╥╙╘╒╓╫"
    ++ "╪┘┌█▄▌▐▀рстуфхцчшщъыьэюяЁёҐґЄєІіЇї·√№¤■\u00a0"⟩

end ScanAccess.Codec.CodePage
