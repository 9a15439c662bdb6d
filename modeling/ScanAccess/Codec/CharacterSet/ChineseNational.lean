import ScanAccess.Codec.CharacterSet

/-! # The national Chinese code

What the national code adds to the extended one: characters of two bytes, and by rows of
consecutive numbers all other characters of the basic plane in four bytes.
-/

namespace ScanAccess.Codec.CharacterSet

/-- The characters of two bytes. Rows and cells are the bytes. -/
def chineseNational : CharacterSet where
  firstCell := 0x40
  rows := [
    (0xa2,
      "                                                                                      "
      ++ "                     \ue766\ue767\ue768\ue769\ue76a\ue76b                             "
      ++ "                     €\ue76d          \ue76e\ue76f            \ue770\ue771"),
    (0xa4,
      "                                                                                      "
      ++ "                                                                                      "
      ++ "        \ue772\ue773\ue774\ue775\ue776\ue777\ue778\ue779\ue77a\ue77b\ue77c"),
    (0xa5,
      "                                                                                      "
      ++ "                                                                                      "
      ++ "           \ue77d\ue77e\ue77f\ue780\ue781\ue782\ue783\ue784"),
    (0xa6,
      "                                                                                      "
      ++ "                                   \ue785\ue786\ue787\ue788\ue789\ue78a\ue78b\ue78c   "
      ++ "                     \ue78d\ue78e\ue78f\ue790\ue791\ue792\ue793            \ue794"
      ++ "\ue795     \ue796  \ue797\ue798\ue799\ue79a\ue79b\ue79c\ue79d\ue79e\ue79f"),
    (0xa7,
      "                                                                                      "
      ++ "                                            \ue7a0\ue7a1\ue7a2\ue7a3\ue7a4\ue7a5\ue7a6"
      ++ "\ue7a7\ue7a8\ue7a9\ue7aa\ue7ab\ue7ac\ue7ad\ue7ae                                 "
      ++ "\ue7af\ue7b0\ue7b1\ue7b2\ue7b3\ue7b4\ue7b5\ue7b6\ue7b7\ue7b8\ue7b9\ue7ba\ue7bb"),
    (0xa8,
      "                                                                                      "
      ++ "\ue7bc\ue7bd\ue7be\ue7bf\ue7c0\ue7c1\ue7c2\ue7c3\ue7c4\ue7c5\ue7c6                    "
      ++ "       \ue7c7  ǹ \ue7c9\ue7ca\ue7cb\ue7cc                                     \ue7cd"
      ++ "\ue7ce\ue7cf\ue7d0\ue7d1\ue7d2\ue7d3\ue7d4\ue7d5\ue7d6\ue7d7\ue7d8\ue7d9\ue7da\ue7db"
      ++ "\ue7dc\ue7dd\ue7de\ue7df\ue7e0\ue7e1"),
    (0xa9,
      "                        \ue7e2  \ue7e3 \ue7e4\ue7e5\ue7e6                             "
      ++ "            〾⿰⿱⿲⿳⿴⿵⿶⿷⿸⿹⿺⿻ \ue7f4\ue7f5\ue7f6\ue7f7\ue7f8\ue7f9\ue7fa\ue7fb\ue7fc\ue7fd"
      ++ "\ue7fe\ue7ff\ue800                                                                    "
      ++ "        \ue801\ue802\ue803\ue804\ue805\ue806\ue807\ue808\ue809\ue80a\ue80b\ue80c\ue80d"
      ++ "\ue80e\ue80f"),
    (0xd7,
      "                                                                                      "
      ++ "                                                                                      "
      ++ "              \ue810\ue811\ue812\ue813\ue814"),
    (0xfe,
      "                ⺁\ue816\ue817\ue818⺄㑳㑇⺈⺋\ue81e㖞㘚㘎⺌⺗㥮㤘\ue826㧏㧟㩳㧐\ue82b\ue82c㭎㱮㳠⺧\ue831"
      ++ "\ue832⺪䁖䅟⺮䌷⺳⺶⺷\ue83b䎱䎬⺻䏝䓖䙡䙌\ue843 䜣䜩䝼䞍⻊䥇䥺䥽䦂䦃䦅䦆䦟䦛䦷䦶\ue854\ue855䲣䲟䲠䲡䱷䲢䴓䴔䴕䴖䴗䴘䴙䶮\ue864")]

/-- The characters of four bytes in the basic plane: the position where each run of them
begins, and its first character. -/
def chineseRuns : List (Nat × Nat) :=
  [(0, 0x80), (36, 0xa5), (38, 0xa9), (45, 0xb2), (50, 0xb8), (81, 0xd8), (89, 0xe2), (95, 0xeb),
   (96, 0xee), (100, 0xf4), (103, 0xf8), (104, 0xfb), (105, 0xfd), (109, 0x102), (126, 0x114),
   (133, 0x11c), (148, 0x12c), (172, 0x145), (175, 0x149), (179, 0x14e), (208, 0x16c), (306,
   0x1cf), (307, 0x1d1), (308, 0x1d3), (309, 0x1d5), (310, 0x1d7), (311, 0x1d9), (312, 0x1db),
   (313, 0x1dd), (341, 0x1fa), (428, 0x252), (443, 0x262), (544, 0x2c8), (545, 0x2cc), (558,
   0x2da), (741, 0x3a2), (742, 0x3aa), (749, 0x3c2), (750, 0x3ca), (805, 0x402), (819, 0x450),
   (820, 0x452), (7922, 0x2011), (7924, 0x2017), (7925, 0x201a), (7927, 0x201e), (7934, 0x2027),
   (7943, 0x2031), (7944, 0x2034), (7945, 0x2036), (7950, 0x203c), (8062, 0x20ad), (8148,
   0x2104), (8149, 0x2106), (8152, 0x210a), (8164, 0x2117), (8174, 0x2122), (8236, 0x216c),
   (8240, 0x217a), (8262, 0x2194), (8264, 0x219a), (8374, 0x2209), (8380, 0x2210), (8381,
   0x2212), (8384, 0x2216), (8388, 0x221b), (8390, 0x2221), (8392, 0x2224), (8393, 0x2226),
   (8394, 0x222c), (8396, 0x222f), (8401, 0x2238), (8406, 0x223e), (8416, 0x2249), (8419,
   0x224d), (8424, 0x2253), (8437, 0x2262), (8439, 0x2268), (8445, 0x2270), (8482, 0x2296),
   (8485, 0x229a), (8496, 0x22a6), (8521, 0x22c0), (8603, 0x2313), (8936, 0x246a), (8946,
   0x249c), (9046, 0x254c), (9050, 0x2574), (9063, 0x2590), (9066, 0x2596), (9076, 0x25a2),
   (9092, 0x25b4), (9100, 0x25be), (9108, 0x25c8), (9111, 0x25cc), (9113, 0x25d0), (9131,
   0x25e6), (9162, 0x2607), (9164, 0x260a), (9218, 0x2641), (9219, 0x2643), (11329, 0x2e82),
   (11331, 0x2e85), (11334, 0x2e89), (11336, 0x2e8d), (11346, 0x2e98), (11361, 0x2ea8), (11363,
   0x2eab), (11366, 0x2eaf), (11370, 0x2eb4), (11372, 0x2eb8), (11375, 0x2ebc), (11389, 0x2ecb),
   (11682, 0x2ffc), (11686, 0x3004), (11687, 0x3018), (11692, 0x301f), (11694, 0x302a), (11714,
   0x303f), (11716, 0x3094), (11723, 0x309f), (11725, 0x30f7), (11730, 0x30ff), (11736, 0x312a),
   (11982, 0x322a), (11989, 0x3232), (12102, 0x32a4), (12336, 0x3390), (12348, 0x339f), (12350,
   0x33a2), (12384, 0x33c5), (12393, 0x33cf), (12395, 0x33d3), (12397, 0x33d6), (12510, 0x3448),
   (12553, 0x3474), (12851, 0x359f), (12962, 0x360f), (12973, 0x361b), (13738, 0x3919), (13823,
   0x396f), (13919, 0x39d1), (13933, 0x39e0), (14080, 0x3a74), (14298, 0x3b4f), (14585, 0x3c6f),
   (14698, 0x3ce1), (15583, 0x4057), (15847, 0x4160), (16318, 0x4338), (16434, 0x43ad), (16438,
   0x43b2), (16481, 0x43de), (16729, 0x44d7), (17102, 0x464d), (17122, 0x4662), (17315, 0x4724),
   (17320, 0x472a), (17402, 0x477d), (17418, 0x478e), (17859, 0x4948), (17909, 0x497b), (17911,
   0x497e), (17915, 0x4984), (17916, 0x4987), (17936, 0x499c), (17939, 0x49a0), (17961, 0x49b8),
   (18664, 0x4c78), (18703, 0x4ca4), (18814, 0x4d1a), (18962, 0x4daf), (19043, 0x9fa6), (33469,
   0xe76c), (33470, 0xe7c8), (33471, 0xe7e7), (33484, 0xe815), (33485, 0xe819), (33490, 0xe81f),
   (33497, 0xe827), (33501, 0xe82d), (33505, 0xe833), (33513, 0xe83c), (33520, 0xe844), (33536,
   0xe856), (33550, 0xe865), (37845, 0xf92d), (37921, 0xf97a), (37948, 0xf996), (38029, 0xf9e8),
   (38038, 0xf9f2), (38064, 0xfa10), (38065, 0xfa12), (38066, 0xfa15), (38069, 0xfa19), (38075,
   0xfa22), (38076, 0xfa25), (38078, 0xfa2a), (39108, 0xfe32), (39109, 0xfe45), (39113, 0xfe53),
   (39114, 0xfe58), (39115, 0xfe67), (39116, 0xfe6c), (39265, 0xff5f), (39394, 0xffe6)]

end ScanAccess.Codec.CharacterSet
