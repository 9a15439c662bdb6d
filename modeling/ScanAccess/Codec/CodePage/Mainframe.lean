import ScanAccess.Codec.CodePage

/-! # Code pages of mainframes

Letters and digits stand elsewhere than in ASCII, and so do most control characters.
-/

namespace ScanAccess.Codec.CodePage

/-- The United States and Canada. -/
def codePage037 : CodePage :=
  ⟨0x4,
    "\u009c\x09\u0086\x7f\u0097\u008d\u008e\x0b\x0c\x0d\x0e\x0f\x10\x11\x12\x13\u009d\u0085"
    ++ "\x08\u0087\x18\x19\u0092\u008f\x1c\x1d\x1e\x1f\u0080\u0081\u0082\u0083\u0084\x0a\x17\x1b"
    ++ "\u0088\u0089\u008a\u008b\u008c\x05\x06\x07\u0090\u0091\x16\u0093\u0094\u0095\u0096\x04"
    ++ "\u0098\u0099\u009a\u009b\x14\x15\u009e\x1a \u00a0âäàáãåçñ¢.<(+|&éêëèíîïìß!$*);¬\x2d/ÂÄÀÁ"
    ++ "ÃÅÇÑ¦,%_>?øÉÊËÈÍÎÏÌ`:#@'=\"Øabcdefghi«»ðýþ±°jklmnopqrªºæ¸Æ¤µ~stuvwxyz¡¿ÐÝÞ®^£¥·©§¶¼½¾[]¯"
    ++ "¨´×\x7bABCDEFGHI\u00adôöòóõ\x7dJKLMNOPQR¹ûüùúÿ\\÷STUVWXYZ²ÔÖÒÓÕ0123456789³ÛÜÙÚ\u009f"⟩

/-- German. -/
def codePage273 : CodePage :=
  ⟨0x4,
    "\u009c\x09\u0086\x7f\u0097\u008d\u008e\x0b\x0c\x0d\x0e\x0f\x10\x11\x12\x13\u009d\u0085"
    ++ "\x08\u0087\x18\x19\u0092\u008f\x1c\x1d\x1e\x1f\u0080\u0081\u0082\u0083\u0084\x0a\x17\x1b"
    ++ "\u0088\u0089\u008a\u008b\u008c\x05\x06\x07\u0090\u0091\x16\u0093\u0094\u0095\u0096\x04"
    ++ "\u0098\u0099\u009a\u009b\x14\x15\u009e\x1a \u00a0â\x7bàáãåçñÄ.<(+!&éêëèíîïì~Ü$*);^\x2d/Â"
    ++ "[ÀÁÃÅÇÑö,%_>?øÉÊËÈÍÎÏÌ`:#§'=\"Øabcdefghi«»ðýþ±°jklmnopqrªºæ¸Æ¤µßstuvwxyz¡¿ÐÝÞ®¢£¥·©@¶¼½¾"
    ++ "¬|‾¨´×äABCDEFGHI\u00adô¦òóõüJKLMNOPQR¹û\x7dùúÿÖ÷STUVWXYZ²Ô\\ÒÓÕ0123456789³Û]ÙÚ\u009f"⟩

/-- Hebrew. -/
def codePage424 : CodePage :=
  ⟨0x4,
    "\u009c\x09\u0086\x7f\u0097\u008d\u008e\x0b\x0c\x0d\x0e\x0f\x10\x11\x12\x13\u009d\u0085"
    ++ "\x08\u0087\x18\x19\u0092\u008f\x1c\x1d\x1e\x1f\u0080\u0081\u0082\u0083\u0084\x0a\x17\x1b"
    ++ "\u0088\u0089\u008a\u008b\u008c\x05\x06\x07\u0090\u0091\x16\u0093\u0094\u0095\u0096\x04"
    ++ "\u0098\u0099\u009a\u009b\x14\x15\u009e\x1a אבגדהוזחט¢.<(+|&יךכלםמןנס!$*);¬\x2d/עףפץצקרש¦"
    ++ ",%_>?\ufffdת\ufffd\ufffd\u00a0\ufffd\ufffd\ufffd‗`:#@'=\"\ufffdabcdefghi«»\ufffd\ufffd"
    ++ "\ufffd±°jklmnopqr\ufffd\ufffd\ufffd¸\ufffd¤µ~stuvwxyz\ufffd\ufffd\ufffd\ufffd\ufffd®^£¥·"
    ++ "©§¶¼½¾[]¯¨´×\x7bABCDEFGHI\u00ad\ufffd\ufffd\ufffd\ufffd\ufffd\x7dJKLMNOPQR¹\ufffd\ufffd"
    ++ "\ufffd\ufffd\ufffd\\÷STUVWXYZ²\ufffd\ufffd\ufffd\ufffd\ufffd0123456789³\ufffd\ufffd"
    ++ "\ufffd\ufffd\u009f"⟩

/-- Western Europe. -/
def codePage500 : CodePage :=
  ⟨0x4,
    "\u009c\x09\u0086\x7f\u0097\u008d\u008e\x0b\x0c\x0d\x0e\x0f\x10\x11\x12\x13\u009d\u0085"
    ++ "\x08\u0087\x18\x19\u0092\u008f\x1c\x1d\x1e\x1f\u0080\u0081\u0082\u0083\u0084\x0a\x17\x1b"
    ++ "\u0088\u0089\u008a\u008b\u008c\x05\x06\x07\u0090\u0091\x16\u0093\u0094\u0095\u0096\x04"
    ++ "\u0098\u0099\u009a\u009b\x14\x15\u009e\x1a \u00a0âäàáãåçñ[.<(+!&éêëèíîïìß]$*);^\x2d/ÂÄÀÁ"
    ++ "ÃÅÇÑ¦,%_>?øÉÊËÈÍÎÏÌ`:#@'=\"Øabcdefghi«»ðýþ±°jklmnopqrªºæ¸Æ¤µ~stuvwxyz¡¿ÐÝÞ®¢£¥·©§¶¼½¾¬|¯"
    ++ "¨´×\x7bABCDEFGHI\u00adôöòóõ\x7dJKLMNOPQR¹ûüùúÿ\\÷STUVWXYZ²ÔÖÒÓÕ0123456789³ÛÜÙÚ\u009f"⟩

/-- Greek. -/
def codePage875 : CodePage :=
  ⟨0x4,
    "\u009c\x09\u0086\x7f\u0097\u008d\u008e\x0b\x0c\x0d\x0e\x0f\x10\x11\x12\x13\u009d\u0085"
    ++ "\x08\u0087\x18\x19\u0092\u008f\x1c\x1d\x1e\x1f\u0080\u0081\u0082\u0083\u0084\x0a\x17\x1b"
    ++ "\u0088\u0089\u008a\u008b\u008c\x05\x06\x07\u0090\u0091\x16\u0093\u0094\u0095\u0096\x04"
    ++ "\u0098\u0099\u009a\u009b\x14\x15\u009e\x1a ΑΒΓΔΕΖΗΘΙ[.<(+!&ΚΛΜΝΞΟΠΡΣ]$*);^\x2d/ΤΥΦΧΨΩΪΫ|"
    ++ ",%_>?¨ΆΈΉ\u00a0ΊΌΎΏ`:#@'=\"΅abcdefghiαβγδεζ°jklmnopqrηθικλμ´~stuvwxyzνξοπρσ£άέήϊίόύϋώςτυ"
    ++ "φχψ\x7bABCDEFGHI\u00adωΐΰ‘―\x7dJKLMNOPQR±½\x1a·’¦\\\x1aSTUVWXYZ²§\x1a\x1a«¬0123456789³©"
    ++ "\x1a\x1a»\u009f"⟩

/-- Turkish. -/
def codePage1026 : CodePage :=
  ⟨0x4,
    "\u009c\x09\u0086\x7f\u0097\u008d\u008e\x0b\x0c\x0d\x0e\x0f\x10\x11\x12\x13\u009d\u0085"
    ++ "\x08\u0087\x18\x19\u0092\u008f\x1c\x1d\x1e\x1f\u0080\u0081\u0082\u0083\u0084\x0a\x17\x1b"
    ++ "\u0088\u0089\u008a\u008b\u008c\x05\x06\x07\u0090\u0091\x16\u0093\u0094\u0095\u0096\x04"
    ++ "\u0098\u0099\u009a\u009b\x14\x15\u009e\x1a \u00a0âäàáãå\x7bñÇ.<(+!&éêëèíîïìßĞİ*);^\x2d/Â"
    ++ "ÄÀÁÃÅ[Ñş,%_>?øÉÊËÈÍÎÏÌı:ÖŞ'=ÜØabcdefghi«»\x7d`¦±°jklmnopqrªºæ¸Æ¤µöstuvwxyz¡¿]$@®¢£¥·©§¶¼"
    ++ "½¾¬|¯¨´×çABCDEFGHI\u00adô~òóõğJKLMNOPQR¹û\\ùúÿü÷STUVWXYZ²Ô#ÒÓÕ0123456789³Û\"ÙÚ\u009f"⟩

/-- The United States and Canada, with the euro sign. -/
def codePage1140 : CodePage :=
  ⟨0x4,
    "\u009c\x09\u0086\x7f\u0097\u008d\u008e\x0b\x0c\x0d\x0e\x0f\x10\x11\x12\x13\u009d\u0085"
    ++ "\x08\u0087\x18\x19\u0092\u008f\x1c\x1d\x1e\x1f\u0080\u0081\u0082\u0083\u0084\x0a\x17\x1b"
    ++ "\u0088\u0089\u008a\u008b\u008c\x05\x06\x07\u0090\u0091\x16\u0093\u0094\u0095\u0096\x04"
    ++ "\u0098\u0099\u009a\u009b\x14\x15\u009e\x1a \u00a0âäàáãåçñ¢.<(+|&éêëèíîïìß!$*);¬\x2d/ÂÄÀÁ"
    ++ "ÃÅÇÑ¦,%_>?øÉÊËÈÍÎÏÌ`:#@'=\"Øabcdefghi«»ðýþ±°jklmnopqrªºæ¸Æ€µ~stuvwxyz¡¿ÐÝÞ®^£¥·©§¶¼½¾[]¯"
    ++ "¨´×\x7bABCDEFGHI\u00adôöòóõ\x7dJKLMNOPQR¹ûüùúÿ\\÷STUVWXYZ²ÔÖÒÓÕ0123456789³ÛÜÙÚ\u009f"⟩

end ScanAccess.Codec.CodePage
