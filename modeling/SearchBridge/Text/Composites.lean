import SearchBridge.Text.Basic

/-!
# Composites

The characters that stand for a character and marks on it, with that character and the marks. A
character between them in a block stands for itself.
-/

namespace SearchBridge.Text

/-- Blocks of composites with their parts. -/
def compositeBlocks : List WordBlock := [
  .of 0xC0 "À Á Â Ã Ä Å Æ Ç È É Ê Ë Ì Í Î Ï Ð Ñ Ò Ó Ô Õ Ö × Ø Ù Ú Û",
  .of 0xDC "Ü Ý Þ ß à á â ã ä å æ ç è é ê ë ì í î ï ð ñ ò ó ô õ ö ÷ ø",
  .of 0xF9 "ù ú û ü ý þ ÿ Ā ā Ă ă Ą ą Ć ć Ĉ ĉ Ċ ċ Č č Ď ď Đ đ Ē ē Ĕ",
  .of 0x115 "ĕ Ė ė Ę ę Ě ě Ĝ ĝ Ğ ğ Ġ ġ Ģ ģ Ĥ ĥ Ħ ħ Ĩ ĩ Ī ī Ĭ ĭ Į į",
  .of 0x130 "İ", .of 0x134 "Ĵ ĵ Ķ ķ ĸ Ĺ ĺ Ļ ļ Ľ ľ", .of 0x143 "Ń ń Ņ ņ Ň ň",
  .of 0x14C "Ō ō Ŏ ŏ Ő ő Œ œ Ŕ ŕ Ŗ ŗ Ř ř Ś ś Ŝ ŝ Ş ş Š š Ţ ţ Ť ť Ŧ ŧ",
  .of 0x168 "Ũ ũ Ū ū Ŭ ŭ Ů ů Ű ű Ų ų Ŵ ŵ Ŷ ŷ Ÿ Ź ź Ż ż Ž ž",
  .of 0x1A0 "Ơ ơ", .of 0x1AF "Ư ư",
  .of 0x1CD "Ǎ ǎ Ǐ ǐ Ǒ ǒ Ǔ ǔ Ǖ ǖ Ǘ ǘ Ǚ ǚ Ǜ ǜ ǝ Ǟ ǟ Ǡ ǡ Ǣ ǣ",
  .of 0x1E4 "Ǥ ǥ Ǧ ǧ Ǩ ǩ Ǫ ǫ Ǭ ǭ Ǯ ǯ ǰ",
  .of 0x1F4 "Ǵ ǵ Ƕ Ƿ Ǹ ǹ Ǻ ǻ Ǽ ǽ Ǿ ǿ Ȁ ȁ Ȃ ȃ Ȅ ȅ Ȇ ȇ Ȉ ȉ Ȋ ȋ Ȍ ȍ Ȏ",
  .of 0x20F "ȏ Ȑ ȑ Ȓ ȓ Ȕ ȕ Ȗ ȗ Ș ș Ț ț Ȝ ȝ Ȟ ȟ",
  .of 0x226 "Ȧ ȧ Ȩ ȩ Ȫ ȫ Ȭ ȭ Ȯ ȯ Ȱ ȱ Ȳ ȳ",
  .of 0x385 "΅ Ά · Έ Ή Ί ΋ Ό ΍ Ύ Ώ ΐ", .of 0x3AA "Ϊ Ϋ ά έ ή ί ΰ",
  .of 0x3CA "ϊ ϋ ό ύ ώ", .of 0x3D3 "ϓ ϔ", .of 0x400 "Ѐ Ё Ђ Ѓ", .of 0x407 "Ї",
  .of 0x40C "Ќ Ѝ Ў", .of 0x419 "Й", .of 0x439 "й", .of 0x450 "ѐ ё ђ ѓ", .of 0x457 "ї",
  .of 0x45C "ќ ѝ ў", .of 0x476 "Ѷ ѷ", .of 0x4C1 "Ӂ ӂ",
  .of 0x4D0 "Ӑ ӑ Ӓ ӓ Ӕ ӕ Ӗ ӗ Ә ә Ӛ ӛ Ӝ ӝ Ӟ ӟ Ӡ ӡ Ӣ ӣ Ӥ ӥ Ӧ ӧ Ө ө Ӫ ӫ Ӭ",
  .of 0x4ED "ӭ Ӯ ӯ Ӱ ӱ Ӳ ӳ Ӵ ӵ Ӷ ӷ Ӹ ӹ", .of 0x622 "آ أ ؤ إ ئ", .of 0x6C0 "ۀ ہ ۂ",
  .of 0x6D3 "ۓ", .of 0x929 "ऩ", .of 0x931 "ऱ ल ळ ऴ", .of 0x9CB "ো ৌ",
  .of 0xB48 "ୈ ୉ ୊ ୋ ୌ", .of 0xB94 "ஔ", .of 0xBCA "ொ ோ ௌ", .of 0xC48 "ై", .of 0xCC0 "ೀ",
  .of 0xCC7 "ೇ ೈ ೉ ೊ ೋ", .of 0xD4A "ൊ ോ ൌ", .of 0xDDA "ේ ෛ ො ෝ ෞ", .of 0x1026 "ဦ",
  .of 0x1B06 "ᬆ ᬇ ᬈ ᬉ ᬊ ᬋ ᬌ ᬍ ᬎ", .of 0x1B12 "ᬒ", .of 0x1B3B "ᬻ ᬼ ᬽ ᬾ ᬿ ᭀ ᭁ ᭂ ᭃ",
  .of 0x1E00 "Ḁ ḁ Ḃ ḃ Ḅ ḅ Ḇ ḇ Ḉ ḉ Ḋ ḋ Ḍ ḍ Ḏ ḏ Ḑ ḑ Ḓ ḓ Ḕ ḕ Ḗ ḗ Ḙ",
  .of 0x1E19 "ḙ Ḛ ḛ Ḝ ḝ Ḟ ḟ Ḡ ḡ Ḣ ḣ Ḥ ḥ Ḧ ḧ Ḩ ḩ Ḫ ḫ Ḭ ḭ Ḯ ḯ Ḱ ḱ",
  .of 0x1E32 "Ḳ ḳ Ḵ ḵ Ḷ ḷ Ḹ ḹ Ḻ ḻ Ḽ ḽ Ḿ ḿ Ṁ ṁ Ṃ ṃ Ṅ ṅ Ṇ ṇ Ṉ ṉ Ṋ ṋ",
  .of 0x1E4C "Ṍ ṍ Ṏ ṏ Ṑ ṑ Ṓ ṓ Ṕ ṕ Ṗ ṗ Ṙ ṙ Ṛ ṛ Ṝ ṝ Ṟ ṟ Ṡ ṡ Ṣ",
  .of 0x1E63 "ṣ Ṥ ṥ Ṧ ṧ Ṩ ṩ Ṫ ṫ Ṭ ṭ Ṯ ṯ Ṱ ṱ Ṳ ṳ Ṵ ṵ Ṷ ṷ Ṹ ṹ Ṻ",
  .of 0x1E7B "ṻ Ṽ ṽ Ṿ ṿ Ẁ ẁ Ẃ ẃ Ẅ ẅ Ẇ ẇ Ẉ ẉ Ẋ ẋ Ẍ ẍ Ẏ ẏ Ẑ ẑ Ẓ ẓ Ẕ",
  .of 0x1E95 "ẕ ẖ ẗ ẘ ẙ ẚ ẛ",
  .of 0x1EA0 "Ạ ạ Ả ả Ấ ấ Ầ ầ Ẩ ẩ Ẫ ẫ Ậ ậ Ắ ắ Ằ ằ Ẳ ẳ Ẵ",
  .of 0x1EB5 "ẵ Ặ ặ Ẹ ẹ Ẻ ẻ Ẽ ẽ Ế ế Ề ề Ể ể Ễ ễ Ệ ệ Ỉ ỉ Ị",
  .of 0x1ECB "ị Ọ ọ Ỏ ỏ Ố ố Ồ ồ Ổ ổ Ỗ ỗ Ộ ộ Ớ ớ Ờ ờ Ở ở",
  .of 0x1EE0 "Ỡ ỡ Ợ ợ Ụ ụ Ủ ủ Ứ ứ Ừ ừ Ử ử Ữ ữ Ự ự Ỳ ỳ Ỵ ỵ",
  .of 0x1EF6 "Ỷ ỷ Ỹ ỹ",
  .of 0x1F00 "ἀ ἁ ἂ ἃ ἄ ἅ ἆ ἇ Ἀ Ἁ Ἂ Ἃ Ἄ Ἅ Ἆ Ἇ ἐ ἑ ἒ ἓ ἔ",
  .of 0x1F15 "ἕ ἖ ἗ Ἐ Ἑ Ἒ Ἓ Ἔ Ἕ ἞ ἟ ἠ ἡ ἢ ἣ ἤ ἥ ἦ ἧ Ἠ Ἡ Ἢ Ἣ",
  .of 0x1F2C "Ἤ Ἥ Ἦ Ἧ ἰ ἱ ἲ ἳ ἴ ἵ ἶ ἷ Ἰ Ἱ Ἲ Ἳ Ἴ Ἵ Ἶ Ἷ ὀ",
  .of 0x1F41 "ὁ ὂ ὃ ὄ ὅ ὆ ὇ Ὀ Ὁ Ὂ Ὃ Ὄ Ὅ ὎ ὏ ὐ ὑ ὒ ὓ ὔ ὕ ὖ ὗ ὘",
  .of 0x1F59 "Ὑ ὚ Ὓ ὜ Ὕ ὞ Ὗ ὠ ὡ ὢ ὣ ὤ ὥ ὦ ὧ Ὠ Ὡ Ὢ Ὣ Ὤ Ὥ Ὦ Ὧ",
  .of 0x1F70 "ὰ ά ὲ έ ὴ ή ὶ ί ὸ ό ὺ ύ ὼ",
  .of 0x1F80 "ᾀ ᾁ ᾂ ᾃ ᾄ ᾅ ᾆ ᾇ ᾈ ᾉ ᾊ ᾋ ᾌ ᾍ ᾎ ᾏ ᾐ",
  .of 0x1F91 "ᾑ ᾒ ᾓ ᾔ ᾕ ᾖ ᾗ ᾘ ᾙ ᾚ ᾛ ᾜ ᾝ ᾞ ᾟ ᾠ ᾡ",
  .of 0x1FA2 "ᾢ ᾣ ᾤ ᾥ ᾦ ᾧ ᾨ ᾩ ᾪ ᾫ ᾬ ᾭ ᾮ ᾯ ᾰ ᾱ ᾲ ᾳ",
  .of 0x1FB4 "ᾴ ᾵ ᾶ ᾷ Ᾰ Ᾱ Ὰ Ά ᾼ",
  .of 0x1FC1 "῁ ῂ ῃ ῄ ῅ ῆ ῇ Ὲ Έ Ὴ Ή ῌ ῍ ῎ ῏ ῐ ῑ ῒ",
  .of 0x1FD6 "ῖ ῗ Ῐ Ῑ Ὶ Ί ῜ ῝ ῞ ῟ ῠ ῡ ῢ ΰ ῤ ῥ ῦ ῧ Ῠ Ῡ Ὺ Ύ Ῥ ῭",
  .of 0x1FF2 "ῲ ῳ ῴ ῵ ῶ ῷ Ὸ Ό Ὼ Ώ ῼ", .of 0x219A "↚ ↛", .of 0x21AE "↮",
  .of 0x21CD "⇍ ⇎ ⇏", .of 0x2204 "∄", .of 0x2209 "∉ ∊ ∋ ∌", .of 0x2224 "∤ ∥ ∦",
  .of 0x2241 "≁ ≂ ≃ ≄ ≅ ≆ ≇ ≈ ≉", .of 0x2260 "≠ ≡ ≢",
  .of 0x226D "≭ ≮ ≯ ≰ ≱ ≲ ≳ ≴ ≵ ≶ ≷ ≸ ≹", .of 0x2280 "⊀ ⊁ ⊂ ⊃ ⊄ ⊅ ⊆ ⊇ ⊈ ⊉",
  .of 0x22AC "⊬ ⊭ ⊮ ⊯", .of 0x22E0 "⋠ ⋡ ⋢ ⋣", .of 0x22EA "⋪ ⋫ ⋬ ⋭",
  .of 0x304C "が き ぎ く ぐ け げ こ ご さ ざ し じ す ず せ ぜ そ ぞ た だ ち ぢ っ つ づ て で と ど",
  .of 0x3070 "ば ぱ ひ び ぴ ふ ぶ ぷ へ べ ぺ ほ ぼ ぽ", .of 0x3094 "ゔ", .of 0x309E "ゞ",
  .of 0x30AC "ガ キ ギ ク グ ケ ゲ コ ゴ サ ザ シ ジ ス ズ セ ゼ ソ ゾ タ ダ チ ヂ ッ ツ ヅ テ デ ト ド",
  .of 0x30D0 "バ パ ヒ ビ ピ フ ブ プ ヘ ベ ペ ホ ボ ポ", .of 0x30F4 "ヴ ヵ ヶ ヷ ヸ ヹ ヺ",
  .of 0x30FE "ヾ", .of 0x105C9 "𐗉", .of 0x105E4 "𐗤", .of 0x1109A "𑂚 𑂛 𑂜", .of 0x110AB "𑂫",
  .of 0x1112E "𑄮 𑄯", .of 0x1134B "𑍋 𑍌", .of 0x11383 "𑎃 𑎄 𑎅", .of 0x1138E "𑎎 𑎏 𑎐 𑎑",
  .of 0x113C5 "𑏅 𑏆 𑏇 𑏈", .of 0x114BB "𑒻 𑒼 𑒽 𑒾", .of 0x115BA "𑖺 𑖻", .of 0x11938 "𑤸",
  .of 0x16121 "𖄡 𖄢 𖄣 𖄤 𖄥", .of 0x16D68 "𖵨 𖵩"]

end SearchBridge.Text
