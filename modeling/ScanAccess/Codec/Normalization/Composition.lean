/-! # Compositions

Some pairs of characters, mostly a letter and a mark, may be joined to a single one
(Unicode 14). Korean syllables are not listed here.
-/

namespace ScanAccess.Codec.Normalization

/-- Words of three characters: a composite and the pair that it is made of. -/
def compositeWords : List String := [
  "ÀÀ ÁÁ ÂÂ ÃÃ ÄÄ ÅÅ ÇÇ ÈÈ ÉÉ ÊÊ ËË ÌÌ ÍÍ ÎÎ ÏÏ ÑÑ ÒÒ ÓÓ ÔÔ ÕÕ ÖÖ ÙÙ",
  "ÚÚ ÛÛ ÜÜ ÝÝ àà áá ââ ãã ää åå çç èè éé êê ëë ìì íí îî ïï ññ òò óó",
  "ôô õõ öö ùù úú ûû üü ýý ÿÿ ĀĀ āā ĂĂ ăă ĄĄ ąą ĆĆ ćć ĈĈ ĉĉ ĊĊ ċċ ČČ",
  "čč ĎĎ ďď ĒĒ ēē ĔĔ ĕĕ ĖĖ ėė ĘĘ ęę ĚĚ ěě ĜĜ ĝĝ ĞĞ ğğ ĠĠ ġġ ĢĢ ģģ ĤĤ",
  "ĥĥ ĨĨ ĩĩ ĪĪ īī ĬĬ ĭĭ ĮĮ įį İİ ĴĴ ĵĵ ĶĶ ķķ ĹĹ ĺĺ ĻĻ ļļ ĽĽ ľľ ŃŃ ńń",
  "ŅŅ ņņ ŇŇ ňň ŌŌ ōō ŎŎ ŏŏ ŐŐ őő ŔŔ ŕŕ ŖŖ ŗŗ ŘŘ řř ŚŚ śś ŜŜ ŝŝ ŞŞ şş",
  "ŠŠ šš ŢŢ ţţ ŤŤ ťť ŨŨ ũũ ŪŪ ūū ŬŬ ŭŭ ŮŮ ůů ŰŰ űű ŲŲ ųų ŴŴ ŵŵ ŶŶ ŷŷ",
  "ŸŸ ŹŹ źź ŻŻ żż ŽŽ žž ƠƠ ơơ ƯƯ ưư ǍǍ ǎǎ ǏǏ ǐǐ ǑǑ ǒǒ ǓǓ ǔǔ ǕǕ ǖǖ ǗǗ",
  "ǘǘ ǙǙ ǚǚ ǛǛ ǜǜ ǞǞ ǟǟ ǠǠ ǡǡ ǢǢ ǣǣ ǦǦ ǧǧ ǨǨ ǩǩ ǪǪ ǫǫ ǬǬ ǭǭ ǮǮ ǯǯ ǰǰ",
  "ǴǴ ǵǵ ǸǸ ǹǹ ǺǺ ǻǻ ǼǼ ǽǽ ǾǾ ǿǿ ȀȀ ȁȁ ȂȂ ȃȃ ȄȄ ȅȅ ȆȆ ȇȇ ȈȈ ȉȉ ȊȊ ȋȋ",
  "ȌȌ ȍȍ ȎȎ ȏȏ ȐȐ ȑȑ ȒȒ ȓȓ ȔȔ ȕȕ ȖȖ ȗȗ ȘȘ șș ȚȚ țț ȞȞ ȟȟ ȦȦ ȧȧ ȨȨ ȩȩ",
  "ȪȪ ȫȫ ȬȬ ȭȭ ȮȮ ȯȯ ȰȰ ȱȱ ȲȲ ȳȳ ΅΅ ΆΆ ΈΈ ΉΉ ΊΊ ΌΌ ΎΎ ΏΏ ΐΐ ΪΪ ΫΫ άά",
  "έέ ήή ίί ΰΰ ϊϊ ϋϋ όό ύύ ώώ ϓϓ ϔϔ ЀЀ ЁЁ ЃЃ ЇЇ ЌЌ ЍЍ ЎЎ ЙЙ йй ѐѐ ёё",
  "ѓѓ її ќќ ѝѝ ўў ѶѶ ѷѷ ӁӁ ӂӂ ӐӐ ӑӑ ӒӒ ӓӓ ӖӖ ӗӗ ӚӚ ӛӛ ӜӜ ӝӝ ӞӞ ӟӟ ӢӢ",
  "ӣӣ ӤӤ ӥӥ ӦӦ ӧӧ ӪӪ ӫӫ ӬӬ ӭӭ ӮӮ ӯӯ ӰӰ ӱӱ ӲӲ ӳӳ ӴӴ ӵӵ ӸӸ ӹӹ آآ أأ ؤؤ",
  "إإ ئئ ۀۀ ۂۂ ۓۓ ऩऩ ऱऱ ऴऴ োো ৌৌ ୈୈ ୋୋ ୌୌ ஔஔ ொொ ோோ ௌௌ ైై ೀೀ ೇೇ ೈೈ ೊೊ",
  "ೋೋ ൊൊ ോോ ൌൌ ේේ ොො ෝෝ ෞෞ ဦဦ ᬆᬆ ᬈᬈ ᬊᬊ ᬌᬌ ᬎᬎ ᬒᬒ ᬻᬻ ᬽᬽ ᭀᭀ ᭁᭁ ᭃᭃ ḀḀ ḁḁ",
  "ḂḂ ḃḃ ḄḄ ḅḅ ḆḆ ḇḇ ḈḈ ḉḉ ḊḊ ḋḋ ḌḌ ḍḍ ḎḎ ḏḏ ḐḐ ḑḑ ḒḒ ḓḓ ḔḔ ḕḕ ḖḖ ḗḗ",
  "ḘḘ ḙḙ ḚḚ ḛḛ ḜḜ ḝḝ ḞḞ ḟḟ ḠḠ ḡḡ ḢḢ ḣḣ ḤḤ ḥḥ ḦḦ ḧḧ ḨḨ ḩḩ ḪḪ ḫḫ ḬḬ ḭḭ",
  "ḮḮ ḯḯ ḰḰ ḱḱ ḲḲ ḳḳ ḴḴ ḵḵ ḶḶ ḷḷ ḸḸ ḹḹ ḺḺ ḻḻ ḼḼ ḽḽ ḾḾ ḿḿ ṀṀ ṁṁ ṂṂ ṃṃ",
  "ṄṄ ṅṅ ṆṆ ṇṇ ṈṈ ṉṉ ṊṊ ṋṋ ṌṌ ṍṍ ṎṎ ṏṏ ṐṐ ṑṑ ṒṒ ṓṓ ṔṔ ṕṕ ṖṖ ṗṗ ṘṘ ṙṙ",
  "ṚṚ ṛṛ ṜṜ ṝṝ ṞṞ ṟṟ ṠṠ ṡṡ ṢṢ ṣṣ ṤṤ ṥṥ ṦṦ ṧṧ ṨṨ ṩṩ ṪṪ ṫṫ ṬṬ ṭṭ ṮṮ ṯṯ",
  "ṰṰ ṱṱ ṲṲ ṳṳ ṴṴ ṵṵ ṶṶ ṷṷ ṸṸ ṹṹ ṺṺ ṻṻ ṼṼ ṽṽ ṾṾ ṿṿ ẀẀ ẁẁ ẂẂ ẃẃ ẄẄ ẅẅ",
  "ẆẆ ẇẇ ẈẈ ẉẉ ẊẊ ẋẋ ẌẌ ẍẍ ẎẎ ẏẏ ẐẐ ẑẑ ẒẒ ẓẓ ẔẔ ẕẕ ẖẖ ẗẗ ẘẘ ẙẙ ẛẛ ẠẠ",
  "ạạ ẢẢ ảả ẤẤ ấấ ẦẦ ầầ ẨẨ ẩẩ ẪẪ ẫẫ ẬẬ ậậ ẮẮ ắắ ẰẰ ằằ ẲẲ ẳẳ ẴẴ ẵẵ ẶẶ",
  "ặặ ẸẸ ẹẹ ẺẺ ẻẻ ẼẼ ẽẽ ẾẾ ếế ỀỀ ềề ỂỂ ểể ỄỄ ễễ ỆỆ ệệ ỈỈ ỉỉ ỊỊ ịị ỌỌ",
  "ọọ ỎỎ ỏỏ ỐỐ ốố ỒỒ ồồ ỔỔ ổổ ỖỖ ỗỗ ỘỘ ộộ ỚỚ ớớ ỜỜ ờờ ỞỞ ởở ỠỠ ỡỡ ỢỢ",
  "ợợ ỤỤ ụụ ỦỦ ủủ ỨỨ ứứ ỪỪ ừừ ỬỬ ửử ỮỮ ữữ ỰỰ ựự ỲỲ ỳỳ ỴỴ ỵỵ ỶỶ ỷỷ ỸỸ",
  "ỹỹ ἀἀ ἁἁ ἂἂ ἃἃ ἄἄ ἅἅ ἆἆ ἇἇ ἈἈ ἉἉ ἊἊ ἋἋ ἌἌ ἍἍ ἎἎ ἏἏ ἐἐ ἑἑ ἒἒ ἓἓ ἔἔ",
  "ἕἕ ἘἘ ἙἙ ἚἚ ἛἛ ἜἜ ἝἝ ἠἠ ἡἡ ἢἢ ἣἣ ἤἤ ἥἥ ἦἦ ἧἧ ἨἨ ἩἩ ἪἪ ἫἫ ἬἬ ἭἭ ἮἮ",
  "ἯἯ ἰἰ ἱἱ ἲἲ ἳἳ ἴἴ ἵἵ ἶἶ ἷἷ ἸἸ ἹἹ ἺἺ ἻἻ ἼἼ ἽἽ ἾἾ ἿἿ ὀὀ ὁὁ ὂὂ ὃὃ ὄὄ",
  "ὅὅ ὈὈ ὉὉ ὊὊ ὋὋ ὌὌ ὍὍ ὐὐ ὑὑ ὒὒ ὓὓ ὔὔ ὕὕ ὖὖ ὗὗ ὙὙ ὛὛ ὝὝ ὟὟ ὠὠ ὡὡ ὢὢ",
  "ὣὣ ὤὤ ὥὥ ὦὦ ὧὧ ὨὨ ὩὩ ὪὪ ὫὫ ὬὬ ὭὭ ὮὮ ὯὯ ὰὰ ὲὲ ὴὴ ὶὶ ὸὸ ὺὺ ὼὼ ᾀᾀ ᾁᾁ",
  "ᾂᾂ ᾃᾃ ᾄᾄ ᾅᾅ ᾆᾆ ᾇᾇ ᾈᾈ ᾉᾉ ᾊᾊ ᾋᾋ ᾌᾌ ᾍᾍ ᾎᾎ ᾏᾏ ᾐᾐ ᾑᾑ ᾒᾒ ᾓᾓ ᾔᾔ ᾕᾕ ᾖᾖ ᾗᾗ",
  "ᾘᾘ ᾙᾙ ᾚᾚ ᾛᾛ ᾜᾜ ᾝᾝ ᾞᾞ ᾟᾟ ᾠᾠ ᾡᾡ ᾢᾢ ᾣᾣ ᾤᾤ ᾥᾥ ᾦᾦ ᾧᾧ ᾨᾨ ᾩᾩ ᾪᾪ ᾫᾫ ᾬᾬ ᾭᾭ",
  "ᾮᾮ ᾯᾯ ᾰᾰ ᾱᾱ ᾲᾲ ᾳᾳ ᾴᾴ ᾶᾶ ᾷᾷ ᾸᾸ ᾹᾹ ᾺᾺ ᾼᾼ ῁῁ ῂῂ ῃῃ ῄῄ ῆῆ ῇῇ ῈῈ ῊῊ ῌῌ",
  "῍῍ ῎῎ ῏῏ ῐῐ ῑῑ ῒῒ ῖῖ ῗῗ ῘῘ ῙῙ ῚῚ ῝῝ ῞῞ ῟῟ ῠῠ ῡῡ ῢῢ ῤῤ ῥῥ ῦῦ ῧῧ ῨῨ",
  "ῩῩ ῪῪ ῬῬ ῭῭ ῲῲ ῳῳ ῴῴ ῶῶ ῷῷ ῸῸ ῺῺ ῼῼ ↚↚ ↛↛ ↮↮ ⇍⇍ ⇎⇎ ⇏⇏ ∄∄ ∉∉ ∌∌ ∤∤",
  "∦∦ ≁≁ ≄≄ ≇≇ ≉≉ ≠≠ ≢≢ ≭≭ ≮≮ ≯≯ ≰≰ ≱≱ ≴≴ ≵≵ ≸≸ ≹≹ ⊀⊀ ⊁⊁ ⊄⊄ ⊅⊅ ⊈⊈ ⊉⊉",
  "⊬⊬ ⊭⊭ ⊮⊮ ⊯⊯ ⋠⋠ ⋡⋡ ⋢⋢ ⋣⋣ ⋪⋪ ⋫⋫ ⋬⋬ ⋭⋭ がが ぎぎ ぐぐ げげ ごご ざざ じじ ずず ぜぜ ぞぞ",
  "だだ ぢぢ づづ でで どど ばば ぱぱ びび ぴぴ ぶぶ ぷぷ べべ ぺぺ ぼぼ ぽぽ ゔゔ ゞゞ ガガ ギギ ググ ゲゲ ゴゴ",
  "ザザ ジジ ズズ ゼゼ ゾゾ ダダ ヂヂ ヅヅ デデ ドド ババ パパ ビビ ピピ ブブ ププ ベベ ペペ ボボ ポポ ヴヴ ヷヷ",
  "ヸヸ ヹヹ ヺヺ ヾヾ 𑂚𑂚 𑂜𑂜 𑂫𑂫 𑄮𑄮 𑄯𑄯 𑍋𑍋 𑍌𑍌 𑒻𑒻 𑒼𑒼 𑒾𑒾 𑖺𑖺 𑖻𑖻 𑤸𑤸"]

end ScanAccess.Codec.Normalization
