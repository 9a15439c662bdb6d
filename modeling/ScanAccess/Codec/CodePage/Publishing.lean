import ScanAccess.Codec.CodePage

/-! # Code pages of a publishing system

The pages of one family of computers for publishing. Most of them agree with ASCII
below 128.
-/

namespace ScanAccess.Codec.CodePage

/-- Western Europe. -/
def macintosh : CodePage :=
  ⟨0x80,
    "ÄÅÇÉÑÖÜáàâäãåçéèêëíìîïñóòôöõúùûü†°¢£§•¶ß®©™´¨≠ÆØ∞±≤≥¥µ∂∑∏π∫ªºΩæø¿¡¬√ƒ≈∆«»…\u00a0ÀÃÕŒœ–—“"
    ++ "”‘’÷◊ÿŸ⁄€‹›ﬁﬂ‡·‚„‰ÂÊÁËÈÍÎÏÌÓÔ\uf8ffÒÚÛÙıˆ˜¯˘˙˚¸˝˛ˇ"⟩

/-- Arabic. -/
def macintoshArabic : CodePage :=
  ⟨0x80,
    "Ä\u00a0ÇÉÑÖÜáàâäں«çéèêëí…îïñó»ôö÷úùûü !\"#$٪&'()*+،-./٠١٢٣٤٥٦٧٨٩:؛<=>؟❊ءآأؤإئابةتثجحخدذر"
    ++ "زسشصضطظعغ[\\]^_ـفقكلمنهوىي\u064b\u064c\u064d\u064e\u064f\u0650\u0651\u0652پٹچەڤگڈڑ\x7b|"
    ++ "\x7dژے"⟩

/-- Croatian. -/
def macintoshCroatian : CodePage :=
  ⟨0x80,
    "ÄÅÇÉÑÖÜáàâäãåçéèêëíìîïñóòôöõúùûü†°¢£§•¶ß®Š™´¨≠ŽØ∞±≤≥∆µ∂∑∏š∫ªºΩžø¿¡¬√ƒ≈Ć«Č…\u00a0ÀÃÕŒœĐ—“"
    ++ "”‘’÷◊\uf8ff©⁄€‹›Æ»–·‚„‰ÂćÁčÈÍÎÏÌÓÔđÒÚÛÙıˆ˜¯πË˚¸Êæˇ"⟩

/-- Cyrillic. -/
def macintoshCyrillic : CodePage :=
  ⟨0x80,
    "АБВГДЕЖЗИЙКЛМНОПРСТУФХЦЧШЩЪЫЬЭЮЯ†°Ґ£§•¶І®©™Ђђ≠Ѓѓ∞±≤≥іµґЈЄєЇїЉљЊњјЅ¬√ƒ≈∆«»…\u00a0ЋћЌќѕ–—“"
    ++ "”‘’÷„ЎўЏџ№Ёёяабвгдежзийклмнопрстуфхцчшщъыьэю€"⟩

/-- Persian. -/
def macintoshFarsi : CodePage :=
  ⟨0x80,
    "Ä\u00a0ÇÉÑÖÜáàâäں«çéèêëí…îïñó»ôö÷úùûü !\"#$٪&'()*+،-./۰۱۲۳۴۵۶۷۸۹:؛<=>؟❊ءآأؤإئابةتثجحخدذر"
    ++ "زسشصضطظعغ[\\]^_ـفقكلمنهوىي\u064b\u064c\u064d\u064e\u064f\u0650\u0651\u0652پٹچەڤگڈڑ\x7b|"
    ++ "\x7dژے"⟩

/-- Greek. -/
def macintoshGreek : CodePage :=
  ⟨0x80,
    "Ä¹²É³ÖÜ΅àâä΄¨çéèêë£™îï•½‰ôö¦€ùûü†ΓΔΘΛΞΠß®©ΣΪ§≠°·Α±≤≥¥ΒΕΖΗΙΚΜΦΫΨΩάΝ¬ΟΡ≈Τ«»…\u00a0ΥΧΆΈœ–―“"
    ++ "”‘’÷ΉΊΌΎέήίόΏύαβψδεφγηιξκλμνοπώρστθωςχυζϊϋΐΰ\u00ad"⟩

/-- Icelandic. -/
def macintoshIcelandic : CodePage :=
  ⟨0x80,
    "ÄÅÇÉÑÖÜáàâäãåçéèêëíìîïñóòôöõúùûüÝ°¢£§•¶ß®©™´¨≠ÆØ∞±≤≥¥µ∂∑∏π∫ªºΩæø¿¡¬√ƒ≈∆«»…\u00a0ÀÃÕŒœ–—“"
    ++ "”‘’÷◊ÿŸ⁄€ÐðÞþý·‚„‰ÂÊÁËÈÍÎÏÌÓÔ\uf8ffÒÚÛÙıˆ˜¯˘˙˚¸˝˛ˇ"⟩

/-- Central Europe. -/
def macintoshCentral : CodePage :=
  ⟨0x80,
    "ÄĀāÉĄÖÜáąČäčĆćéŹźĎíďĒēĖóėôöõúĚěü†°Ę£§•¶ß®©™ę¨≠ģĮįĪ≤≥īĶ∂∑łĻļĽľĹĺŅņŃ¬√ńŇ∆«»…\u00a0ňŐÕőŌ–—“"
    ++ "”‘’÷◊ōŔŕŘ‹›řŖŗŠ‚„šŚśÁŤťÍŽžŪÓÔūŮÚůŰűŲųÝýķŻŁżĢˇ"⟩

/-- Romanian. -/
def macintoshRomanian : CodePage :=
  ⟨0x80,
    "ÄÅÇÉÑÖÜáàâäãåçéèêëíìîïñóòôöõúùûü†°¢£§•¶ß®©™´¨≠ĂȘ∞±≤≥¥µ∂∑∏π∫ªºΩăș¿¡¬√ƒ≈∆«»…\u00a0ÀÃÕŒœ–—“"
    ++ "”‘’÷◊ÿŸ⁄€‹›Țț‡·‚„‰ÂÊÁËÈÍÎÏÌÓÔ\uf8ffÒÚÛÙıˆ˜¯˘˙˚¸˝˛ˇ"⟩

/-- Turkish. -/
def macintoshTurkish : CodePage :=
  ⟨0x80,
    "ÄÅÇÉÑÖÜáàâäãåçéèêëíìîïñóòôöõúùûü†°¢£§•¶ß®©™´¨≠ÆØ∞±≤≥¥µ∂∑∏π∫ªºΩæø¿¡¬√ƒ≈∆«»…\u00a0ÀÃÕŒœ–—“"
    ++ "”‘’÷◊ÿŸĞğİıŞş‡·‚„‰ÂÊÁËÈÍÎÏÌÓÔ\uf8ffÒÚÛÙ\uf8a0ˆ˜¯˘˙˚¸˝˛ˇ"⟩

end ScanAccess.Codec.CodePage
