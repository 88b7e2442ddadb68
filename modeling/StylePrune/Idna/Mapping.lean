import StylePrune.Text.LetterCase
import StylePrune.Text.Category

/-!
What becomes of a character in the name of a host.

A character is kept, left out, replaced or refused. Letters go to lower case, compatibility forms to what
they stand for. Characters that are kept are those of the categories of letters, marks, numbers,
punctuation and symbols, but for the exceptions that are listed.
-/
namespace StylePrune.Idna

/-- Letters and signs that move by a common distance. -/
def moves : List Text.CaseRun :=
  [⟨0x41, 0x5a, 1, 32⟩, ⟨0xc0, 0xd6, 1, 32⟩, ⟨0xd8, 0xde, 1, 32⟩, ⟨0x100, 0x12e, 2, 1⟩,
   ⟨0x139, 0x13d, 2, 1⟩, ⟨0x141, 0x147, 2, 1⟩, ⟨0x14a, 0x176, 2, 1⟩, ⟨0x179, 0x17d, 2, 1⟩,
   ⟨0x1a0, 0x1a4, 2, 1⟩, ⟨0x1cd, 0x1db, 2, 1⟩, ⟨0x1de, 0x1ee, 2, 1⟩, ⟨0x1f8, 0x21e, 2, 1⟩,
   ⟨0x222, 0x232, 2, 1⟩, ⟨0x246, 0x24e, 2, 1⟩, ⟨0x388, 0x38a, 1, 37⟩, ⟨0x391, 0x3a1, 1, 32⟩,
   ⟨0x3a3, 0x3ab, 1, 32⟩, ⟨0x3d8, 0x3ee, 2, 1⟩, ⟨0x3fd, 0x3ff, 1, -130⟩, ⟨0x400, 0x40f, 1, 80⟩,
   ⟨0x410, 0x42f, 1, 32⟩, ⟨0x460, 0x480, 2, 1⟩, ⟨0x48a, 0x4be, 2, 1⟩, ⟨0x4c1, 0x4cd, 2, 1⟩,
   ⟨0x4d0, 0x52e, 2, 1⟩, ⟨0x531, 0x556, 1, 48⟩, ⟨0x10a0, 0x10c5, 1, 7264⟩, ⟨0x13f8, 0x13fd, 1, -8⟩,
   ⟨0x1c90, 0x1cba, 1, -3008⟩, ⟨0x1cbd, 0x1cbf, 1, -3008⟩, ⟨0x1d33, 0x1d3a, 1, -7372⟩,
   ⟨0x1d5d, 0x1d5f, 1, -6571⟩, ⟨0x1da4, 0x1da6, 1, -6972⟩, ⟨0x1dae, 0x1db1, 1, -6972⟩,
   ⟨0x1dbc, 0x1dbe, 1, -6956⟩, ⟨0x1e00, 0x1e94, 2, 1⟩, ⟨0x1ea0, 0x1efe, 2, 1⟩, ⟨0x1f08, 0x1f0f, 1, -8⟩,
   ⟨0x1f18, 0x1f1d, 1, -8⟩, ⟨0x1f28, 0x1f2f, 1, -8⟩, ⟨0x1f38, 0x1f3f, 1, -8⟩, ⟨0x1f48, 0x1f4d, 1, -8⟩,
   ⟨0x1f59, 0x1f5f, 2, -8⟩, ⟨0x1f68, 0x1f6f, 1, -8⟩, ⟨0x2074, 0x2079, 1, -8256⟩,
   ⟨0x2080, 0x2089, 1, -8272⟩, ⟨0x2096, 0x2099, 1, -8235⟩, ⟨0x2119, 0x211b, 1, -8361⟩,
   ⟨0x2135, 0x2138, 1, -7013⟩, ⟨0x2460, 0x2468, 1, -9263⟩, ⟨0x24b6, 0x24cf, 1, -9301⟩,
   ⟨0x24d0, 0x24e9, 1, -9327⟩, ⟨0x2c00, 0x2c2f, 1, 48⟩, ⟨0x2c67, 0x2c6b, 2, 1⟩, ⟨0x2c80, 0x2ce2, 2, 1⟩,
   ⟨0x3137, 0x3139, 1, -8244⟩, ⟨0x313a, 0x313f, 1, -8074⟩, ⟨0x3141, 0x3143, 1, -8251⟩,
   ⟨0x3145, 0x314e, 1, -8252⟩, ⟨0x314f, 0x3163, 1, -8174⟩, ⟨0x3178, 0x317c, 1, -8269⟩,
   ⟨0x3184, 0x3186, 1, -8237⟩, ⟨0x3263, 0x3265, 1, -8542⟩, ⟨0x3269, 0x326d, 1, -8539⟩,
   ⟨0x32e4, 0x32e9, 1, -538⟩, ⟨0x32ee, 0x32f2, 1, -528⟩, ⟨0x32f5, 0x32fa, 1, -525⟩,
   ⟨0x32fb, 0x32fe, 1, -524⟩, ⟨0xa640, 0xa66c, 2, 1⟩, ⟨0xa680, 0xa69a, 2, 1⟩, ⟨0xa722, 0xa72e, 2, 1⟩,
   ⟨0xa732, 0xa76e, 2, 1⟩, ⟨0xa77e, 0xa786, 2, 1⟩, ⟨0xa796, 0xa7a8, 2, 1⟩, ⟨0xa7b4, 0xa7c2, 2, 1⟩,
   ⟨0xa7cc, 0xa7da, 2, 1⟩, ⟨0xab70, 0xabbf, 1, -38864⟩, ⟨0xfb24, 0xfb26, 1, -62793⟩,
   ⟨0xfe41, 0xfe44, 1, -52789⟩, ⟨0xff01, 0xff20, 1, -65248⟩, ⟨0xff21, 0xff3a, 1, -65216⟩,
   ⟨0xff3b, 0xff5e, 1, -65248⟩, ⟨0xff85, 0xff8a, 1, -52923⟩, ⟨0xff8f, 0xff93, 1, -52913⟩,
   ⟨0xff96, 0xff9b, 1, -52910⟩, ⟨0xffa7, 0xffa9, 1, -61092⟩, ⟨0xffaa, 0xffaf, 1, -60922⟩,
   ⟨0xffb1, 0xffb3, 1, -61099⟩, ⟨0xffb5, 0xffbe, 1, -61100⟩, ⟨0xffc2, 0xffc7, 1, -61025⟩,
   ⟨0xffca, 0xffcf, 1, -61027⟩, ⟨0xffd2, 0xffd7, 1, -61029⟩, ⟨0xffda, 0xffdc, 1, -61031⟩,
   ⟨0xffe9, 0xffec, 1, -56921⟩, ⟨0x10400, 0x10427, 1, 40⟩, ⟨0x104b0, 0x104d3, 1, 40⟩,
   ⟨0x10570, 0x1057a, 1, 39⟩, ⟨0x1057c, 0x1058a, 1, 39⟩, ⟨0x1058c, 0x10592, 1, 39⟩,
   ⟨0x107b6, 0x107b8, 1, -67062⟩, ⟨0x10c80, 0x10cb2, 1, 64⟩, ⟨0x10d50, 0x10d65, 1, 32⟩,
   ⟨0x118a0, 0x118bf, 1, 32⟩, ⟨0x16e40, 0x16e5f, 1, 32⟩, ⟨0x16ea0, 0x16eb8, 1, 27⟩,
   ⟨0x1ccd6, 0x1ccef, 1, -117877⟩, ⟨0x1ccf0, 0x1ccf9, 1, -117952⟩, ⟨0x1d400, 0x1d419, 1, -119711⟩,
   ⟨0x1d41a, 0x1d433, 1, -119737⟩, ⟨0x1d434, 0x1d44d, 1, -119763⟩, ⟨0x1d44e, 0x1d454, 1, -119789⟩,
   ⟨0x1d456, 0x1d467, 1, -119789⟩, ⟨0x1d468, 0x1d481, 1, -119815⟩, ⟨0x1d482, 0x1d49b, 1, -119841⟩,
   ⟨0x1d4a9, 0x1d4ac, 1, -119867⟩, ⟨0x1d4ae, 0x1d4b5, 1, -119867⟩, ⟨0x1d4b6, 0x1d4b9, 1, -119893⟩,
   ⟨0x1d4be, 0x1d4c3, 1, -119893⟩, ⟨0x1d4c5, 0x1d4cf, 1, -119893⟩, ⟨0x1d4d0, 0x1d4e9, 1, -119919⟩,
   ⟨0x1d4ea, 0x1d503, 1, -119945⟩, ⟨0x1d507, 0x1d50a, 1, -119971⟩, ⟨0x1d50d, 0x1d514, 1, -119971⟩,
   ⟨0x1d516, 0x1d51c, 1, -119971⟩, ⟨0x1d51e, 0x1d537, 1, -119997⟩, ⟨0x1d53b, 0x1d53e, 1, -120023⟩,
   ⟨0x1d540, 0x1d544, 1, -120023⟩, ⟨0x1d54a, 0x1d550, 1, -120023⟩, ⟨0x1d552, 0x1d56b, 1, -120049⟩,
   ⟨0x1d56c, 0x1d585, 1, -120075⟩, ⟨0x1d586, 0x1d59f, 1, -120101⟩, ⟨0x1d5a0, 0x1d5b9, 1, -120127⟩,
   ⟨0x1d5ba, 0x1d5d3, 1, -120153⟩, ⟨0x1d5d4, 0x1d5ed, 1, -120179⟩, ⟨0x1d5ee, 0x1d607, 1, -120205⟩,
   ⟨0x1d608, 0x1d621, 1, -120231⟩, ⟨0x1d622, 0x1d63b, 1, -120257⟩, ⟨0x1d63c, 0x1d655, 1, -120283⟩,
   ⟨0x1d656, 0x1d66f, 1, -120309⟩, ⟨0x1d670, 0x1d689, 1, -120335⟩, ⟨0x1d68a, 0x1d6a3, 1, -120361⟩,
   ⟨0x1d6a8, 0x1d6b8, 1, -119543⟩, ⟨0x1d6ba, 0x1d6c0, 1, -119543⟩, ⟨0x1d6c2, 0x1d6d2, 1, -119569⟩,
   ⟨0x1d6d4, 0x1d6da, 1, -119569⟩, ⟨0x1d6e2, 0x1d6f2, 1, -119601⟩, ⟨0x1d6f4, 0x1d6fa, 1, -119601⟩,
   ⟨0x1d6fc, 0x1d70c, 1, -119627⟩, ⟨0x1d70e, 0x1d714, 1, -119627⟩, ⟨0x1d71c, 0x1d72c, 1, -119659⟩,
   ⟨0x1d72e, 0x1d734, 1, -119659⟩, ⟨0x1d736, 0x1d746, 1, -119685⟩, ⟨0x1d748, 0x1d74e, 1, -119685⟩,
   ⟨0x1d756, 0x1d766, 1, -119717⟩, ⟨0x1d768, 0x1d76e, 1, -119717⟩, ⟨0x1d770, 0x1d780, 1, -119743⟩,
   ⟨0x1d782, 0x1d788, 1, -119743⟩, ⟨0x1d790, 0x1d7a0, 1, -119775⟩, ⟨0x1d7a2, 0x1d7a8, 1, -119775⟩,
   ⟨0x1d7aa, 0x1d7ba, 1, -119801⟩, ⟨0x1d7bc, 0x1d7c2, 1, -119801⟩, ⟨0x1d7ce, 0x1d7d7, 1, -120734⟩,
   ⟨0x1d7d8, 0x1d7e1, 1, -120744⟩, ⟨0x1d7e2, 0x1d7eb, 1, -120754⟩, ⟨0x1d7ec, 0x1d7f5, 1, -120764⟩,
   ⟨0x1d7f6, 0x1d7ff, 1, -120774⟩, ⟨0x1e030, 0x1e038, 1, -121856⟩, ⟨0x1e039, 0x1e03b, 1, -121855⟩,
   ⟨0x1e03c, 0x1e046, 1, -121854⟩, ⟨0x1e051, 0x1e059, 1, -121889⟩, ⟨0x1e05f, 0x1e064, 1, -121884⟩,
   ⟨0x1e900, 0x1e921, 1, 34⟩, ⟨0x1ee0a, 0x1ee0d, 1, -124871⟩, ⟨0x1ee2a, 0x1ee2d, 1, -124903⟩,
   ⟨0x1ee8b, 0x1ee8d, 1, -124999⟩, ⟨0x1eeab, 0x1eead, 1, -125031⟩, ⟨0x1f130, 0x1f149, 1, -127183⟩,
   ⟨0x1fbf0, 0x1fbf9, 1, -129984⟩]

/-- Replacements of consecutive code points, the first of which is given, between bars. -/
def replacements : List (Nat × String) :=
  [(0xa0, " "), (0xa8, " \u0308"), (0xaa, "a"), (0xaf, " \u0304"), (0xb2, "2|3| \u0301|μ"),
   (0xb8, " \u0327|1|o"), (0xbc, "1⁄4|1⁄2|3⁄4"), (0x130, "i\u0307"), (0x132, "ij|ij|ĵ"), (0x136, "ķ"),
   (0x13f, "l·|l·"), (0x149, "ʼn"), (0x178, "ÿ"), (0x17f, "s"), (0x181, "ɓ|ƃ"), (0x184, "ƅ"),
   (0x186, "ɔ|ƈ"), (0x189, "ɖ|ɗ|ƌ"), (0x18e, "ǝ|ə|ɛ|ƒ"), (0x193, "ɠ|ɣ"), (0x196, "ɩ|ɨ|ƙ"),
   (0x19c, "ɯ|ɲ"), (0x19f, "ɵ"), (0x1a6, "ʀ|ƨ"), (0x1a9, "ʃ"), (0x1ac, "ƭ"), (0x1ae, "ʈ|ư"),
   (0x1b1, "ʊ|ʋ|ƴ"), (0x1b5, "ƶ"), (0x1b7, "ʒ|ƹ"), (0x1bc, "ƽ"), (0x1c4, "dž|dž|dž|lj|lj|lj|nj|nj|nj"),
   (0x1f1, "dz|dz|dz|ǵ"), (0x1f6, "ƕ|ƿ"), (0x220, "ƞ"), (0x23a, "ⱥ|ȼ"), (0x23d, "ƚ|ⱦ"), (0x241, "ɂ"),
   (0x243, "ƀ|ʉ|ʌ"), (0x2b0, "h|ɦ|j|r|ɹ|ɻ|ʁ|w|y"),
   (0x2d8, " \u0306| \u0307| \u030a| \u0328| \u0303| \u030b"), (0x2e0, "ɣ|l|s|x|ʕ"),
   (0x340, "\u0300|\u0301"), (0x343, "\u0313|\u0308\u0301|ι"), (0x370, "ͱ"), (0x372, "ͳ"), (0x374, "ʹ"),
   (0x376, "ͷ"), (0x37a, " ι"), (0x37e, ";|ϳ"), (0x384, " \u0301| \u0308\u0301|ά|·"), (0x38c, "ό"),
   (0x38e, "ύ|ώ"), (0x3cf, "ϗ|β|θ|υ|ύ|ϋ|φ|π"), (0x3f0, "κ|ρ|σ"), (0x3f4, "θ|ε"), (0x3f7, "ϸ"),
   (0x3f9, "σ|ϻ"), (0x4c0, "ӏ"), (0x587, "եւ"),
   (0x675, "\u0627\u0674|\u0648\u0674|\u06c7\u0674|\u064a\u0674"),
   (0x958, "क\u093c|ख\u093c|ग\u093c|ज\u093c|ड\u093c|ढ\u093c|फ\u093c|य\u093c"),
   (0x9dc, "ড\u09bc|ঢ\u09bc"), (0x9df, "য\u09bc"), (0xa33, "ਲ\u0a3c"), (0xa36, "ਸ\u0a3c"),
   (0xa59, "ਖ\u0a3c|ਗ\u0a3c|ਜ\u0a3c"), (0xa5e, "ਫ\u0a3c"), (0xb5c, "ଡ\u0b3c|ଢ\u0b3c"),
   (0xe33, "\u0e4dา"), (0xeb3, "\u0ecdາ"), (0xedc, "ຫນ|ຫມ"), (0xf0c, "་"), (0xf43, "ག\u0fb7"),
   (0xf4d, "ཌ\u0fb7"), (0xf52, "ད\u0fb7"), (0xf57, "བ\u0fb7"), (0xf5c, "ཛ\u0fb7"), (0xf69, "ཀ\u0fb5"),
   (0xf73, "\u0f71\u0f72"),
   (0xf75, "\u0f71\u0f74|\u0fb2\u0f80|\u0fb2\u0f71\u0f80|\u0fb3\u0f80|\u0fb3\u0f71\u0f80"),
   (0xf81, "\u0f71\u0f80"), (0xf93, "\u0f92\u0fb7"), (0xf9d, "\u0f9c\u0fb7"), (0xfa2, "\u0fa1\u0fb7"),
   (0xfa7, "\u0fa6\u0fb7"), (0xfac, "\u0fab\u0fb7"), (0xfb9, "\u0f90\u0fb5"), (0x10c7, "ⴧ"),
   (0x10cd, "ⴭ"), (0x10fc, "ნ"), (0x1c80, "в|д|о|с|т|т|ъ|ѣ|ꙋ|\u1c8a"), (0x1d2c, "a|æ|b"),
   (0x1d30, "d|e|ǝ"), (0x1d3c, "o|ȣ|p|r|t|u|w|a|ɐ|ɑ|ᴂ|b|d|e|ə|ɛ|ɜ|g"),
   (0x1d4f, "k|m|ŋ|o|ɔ|ᴖ|ᴗ|p|t|u|ᴝ|ɯ|v|ᴥ"), (0x1d60, "φ|χ|i|r|u|v|β|γ|ρ|φ|χ"), (0x1d78, "н"),
   (0x1d9b, "ɒ|c|ɕ|ð|ɜ|f|ɟ|ɡ|ɥ"), (0x1da7, "ᵻ|ʝ|ɭ|ᶅ|ʟ|ɱ|ɰ"), (0x1db2, "ɸ|ʂ|ʃ|ƫ|ʉ|ʊ|ᴜ|ʋ|ʌ|z"),
   (0x1dbf, "θ"), (0x1e9a, "aʾ|ṡ"), (0x1e9e, "ß"), (0x1f71, "ά"), (0x1f73, "έ"), (0x1f75, "ή"),
   (0x1f77, "ί"), (0x1f79, "ό"), (0x1f7b, "ύ"), (0x1f7d, "ώ"),
   (0x1f80, "ἀι|ἁι|ἂι|ἃι|ἄι|ἅι|ἆι|ἇι|ἀι|ἁι|ἂι|ἃι|ἄι|ἅι|ἆι|ἇι|ἠι|ἡι|ἢι|ἣι|ἤι|ἥι|ἦι|ἧι|ἠι|ἡι"),
   (0x1f9a, "ἢι|ἣι|ἤι|ἥι|ἦι|ἧι|ὠι|ὡι|ὢι|ὣι|ὤι|ὥι|ὦι|ὧι|ὠι|ὡι|ὢι|ὣι|ὤι|ὥι|ὦι|ὧι"), (0x1fb2, "ὰι|αι|άι"),
   (0x1fb7, "ᾶι|ᾰ|ᾱ|ὰ|ά|αι| \u0313|ι| \u0313| \u0342| \u0308\u0342|ὴι|ηι|ήι"),
   (0x1fc7, "ῆι|ὲ|έ|ὴ|ή|ηι| \u0313\u0300| \u0313\u0301| \u0313\u0342"), (0x1fd3, "ΐ"),
   (0x1fd8, "ῐ|ῑ|ὶ|ί"), (0x1fdd, " \u0314\u0300| \u0314\u0301| \u0314\u0342"), (0x1fe3, "ΰ"),
   (0x1fe8, "ῠ|ῡ|ὺ|ύ|ῥ| \u0308\u0300| \u0308\u0301|\x60"), (0x1ff2, "ὼι|ωι|ώι"),
   (0x1ff7, "ῶι|ὸ|ό|ὼ|ώ|ωι| \u0301| \u0314"), (0x2000, " | | | | | | | | | | "), (0x2011, "‐"),
   (0x2017, " \u0333"), (0x202f, " "), (0x2033, "′′|′′′"), (0x2036, "‵‵|‵‵‵"), (0x203c, "!!"),
   (0x203e, " \u0305"), (0x2047, "??|?!|!?"), (0x2057, "′′′′"), (0x205f, " "), (0x2070, "0|i"),
   (0x207a, "+|−|=|(|)|n"), (0x208a, "+|−|=|(|)"), (0x2090, "a|e|o|x|ə|h"), (0x209a, "p|s|t"),
   (0x20a8, "rs"), (0x2100, "a/c|a/s|c|°c"), (0x2105, "c/o|c/u|ɛ"), (0x2109, "°f|g|h|h|h|h|ħ|i|i|l|l"),
   (0x2115, "n|no"), (0x211c, "r|r"), (0x2120, "sm|tel|tm"), (0x2124, "z"), (0x2126, "ω"),
   (0x2128, "z"), (0x212a, "k|å|b|c"), (0x212f, "e|e|f|ⅎ|m|o"), (0x2139, "i"),
   (0x213b, "fax|π|γ|γ|π|∑"), (0x2145, "d|d|e|i|j"),
   (0x2150, "1⁄7|1⁄9|1⁄10|1⁄3|2⁄3|1⁄5|2⁄5|3⁄5|4⁄5|1⁄6|5⁄6|1⁄8|3⁄8|5⁄8|7⁄8|1⁄|i|ii|iii|iv|v"),
   (0x2165, "vi|vii|viii|ix|x|xi|xii|l|c|d|m|i|ii|iii|iv|v|vi|vii|viii|ix|x|xi|xii|l|c|d|m"),
   (0x2183, "ↄ"), (0x2189, "0⁄3"), (0x222c, "∫∫|∫∫∫"), (0x222f, "∮∮|∮∮∮"), (0x2329, "〈|〉"),
   (0x2469, "10|11|12|13|14|15|16|17|18|19|20|(1)|(2)|(3)|(4)|(5)|(6)|(7)|(8)|(9)|(10)|(11)"),
   (0x247f, "(12)|(13)|(14)|(15)|(16)|(17)|(18)|(19)|(20)"),
   (0x249c, "(a)|(b)|(c)|(d)|(e)|(f)|(g)|(h)|(i)|(j)|(k)|(l)|(m)|(n)|(o)|(p)|(q)|(r)|(s)|(t)"),
   (0x24b0, "(u)|(v)|(w)|(x)|(y)|(z)"), (0x24ea, "0"), (0x2a0c, "∫∫∫∫"), (0x2a74, "::=|==|==="),
   (0x2adc, "⫝\u0338"), (0x2c60, "ⱡ"), (0x2c62, "ɫ|ᵽ|ɽ"), (0x2c6d, "ɑ|ɱ|ɐ|ɒ"), (0x2c72, "ⱳ"),
   (0x2c75, "ⱶ"), (0x2c7c, "j|v|ȿ|ɀ"), (0x2ceb, "ⳬ"), (0x2ced, "ⳮ"), (0x2cf2, "ⳳ"), (0x2d6f, "ⵡ"),
   (0x2e9f, "母"), (0x2ef3, "龟"),
   (0x2f00, "一|丨|丶|丿|乙|亅|二|亠|人|儿|入|八|冂|冖|冫|几|凵|刀|力|勹|匕|匚|匸|十|卜|卩|厂|厶|又|口|囗|土|士|夂|夊|夕|大|女|子|宀"),
   (0x2f28, "寸|小|尢|尸|屮|山|巛|工|己|巾|干|幺|广|廴|廾|弋|弓|彐|彡|彳|心|戈|戶|手|支|攴|文|斗|斤|方|无|日|曰|月|木|欠|止|歹|殳|毋"),
   (0x2f50, "比|毛|氏|气|水|火|爪|父|爻|爿|片|牙|牛|犬|玄|玉|瓜|瓦|甘|生|用|田|疋|疒|癶|白|皮|皿|目|矛|矢|石|示|禸|禾|穴|立|竹|米|糸"),
   (0x2f78, "缶|网|羊|羽|老|而|耒|耳|聿|肉|臣|自|至|臼|舌|舛|舟|艮|色|艸|虍|虫|血|行|衣|襾|見|角|言|谷|豆|豕|豸|貝|赤|走|足|身|車|辛"),
   (0x2fa0, "辰|辵|邑|酉|釆|里|金|長|門|阜|隶|隹|雨|靑|非|面|革|韋|韭|音|頁|風|飛|食|首|香|馬|骨|高|髟|鬥|鬯|鬲|鬼|魚|鳥|鹵|鹿|麥|麻"),
   (0x2fc8, "黃|黍|黑|黹|黽|鼎|鼓|鼠|鼻|齊|齒|龍|龜|龠"), (0x3000, " "), (0x3002, "."), (0x3036, "〒"),
   (0x3038, "十|卄|卅"), (0x309b, " \u3099| \u309a"), (0x309f, "より"), (0x30ff, "コト"),
   (0x3131, "ᄀ|ᄁ|ᆪ|ᄂ|ᆬ|ᆭ"), (0x3140, "ᄚ"), (0x3144, "ᄡ"),
   (0x3165, "ᄔ|ᄕ|ᇇ|ᇈ|ᇌ|ᇎ|ᇓ|ᇗ|ᇙ|ᄜ|ᇝ|ᇟ|ᄝ|ᄞ|ᄠ|ᄢ|ᄣ|ᄧ|ᄩ"), (0x317d, "ᄲ|ᄶ|ᅀ|ᅇ|ᅌ|ᇱ|ᇲ"),
   (0x3187, "ᆄ|ᆅ|ᆈ|ᆑ|ᆒ|ᆔ|ᆞ|ᆡ"), (0x3192, "一|二|三|四|上|中|下|甲|乙|丙|丁|天|地|人"),
   (0x3200, "(ᄀ)|(ᄂ)|(ᄃ)|(ᄅ)|(ᄆ)|(ᄇ)|(ᄉ)|(ᄋ)|(ᄌ)|(ᄎ)|(ᄏ)|(ᄐ)|(ᄑ)|(ᄒ)|(가)|(나)|(다)|(라)|(마)|(바)"),
   (0x3214, "(사)|(아)|(자)|(차)|(카)|(타)|(파)|(하)|(주)|(오전)|(오후)"),
   (0x3220, "(一)|(二)|(三)|(四)|(五)|(六)|(七)|(八)|(九)|(十)|(月)|(火)|(水)|(木)|(金)|(土)|(日)|(株)|(有)|(社)"),
   (0x3234, "(名)|(特)|(財)|(祝)|(労)|(代)|(呼)|(学)|(監)|(企)|(資)|(協)|(祭)|(休)|(自)|(至)|問|幼|文|箏"),
   (0x3250, "pte|21|22|23|24|25|26|27|28|29|30|31|32|33|34|35|ᄀ|ᄂ|ᄃ"), (0x3266, "ᄉ|ᄋ|ᄌ"),
   (0x326e, "가|나|다|라|마|바|사|아|자|차|카|타|파|하|참고|주의|우"),
   (0x3280, "一|二|三|四|五|六|七|八|九|十|月|火|水|木|金|土|日|株|有|社|名|特|財|祝|労|秘|男|女|適|優|印|注|項|休|写|正|上|中|下|左"),
   (0x32a8, "右|医|宗|学|監|企|資|協|夜|36|37|38|39|40|41|42|43|44|45|46|47|48|49|50|1月|2月|3月|4月|5月"),
   (0x32c5, "6月|7月|8月|9月|10月|11月|12月|hg|erg|ev|ltd|ア|イ|ウ|エ|オ|カ|キ|ク|ケ|コ|サ|シ|ス|セ|ソ|タ|チ|ツ|テ|ト"),
   (0x32ea, "ヒ|フ|ヘ|ホ"), (0x32f3, "ヤ|ユ"),
   (0x32ff, "令和|アパート|アルファ|アンペア|アール|イニング|インチ|ウォン|エスクード|エーカー|オンス|オーム|カイリ|カラット|カロリー|ガロン|ガンマ|ギガ"),
   (0x3311, "ギニー|キュリー|ギルダー|キロ|キログラム|キロメートル|キロワット|グラム|グラムトン|クルゼイロ|クローネ|ケース|コルナ|コーポ|サイクル|サンチーム"),
   (0x3321, "シリング|センチ|セント|ダース|デシ|ドル|トン|ナノ|ノット|ハイツ|パーセント|パーツ|バーレル|ピアストル|ピクル|ピコ|ビル|ファラッド|フィート"),
   (0x3334, "ブッシェル|フラン|ヘクタール|ペソ|ペニヒ|ヘルツ|ペンス|ページ|ベータ|ポイント|ボルト|ホン|ポンド|ホール|ホーン|マイクロ|マイル|マッハ|マルク"),
   (0x3347, "マンション|ミクロン|ミリ|ミリバール|メガ|メガトン|メートル|ヤード|ヤール|ユアン|リットル|リラ|ルピー|ルーブル|レム|レントゲン|ワット|0点"),
   (0x3359, "1点|2点|3点|4点|5点|6点|7点|8点|9点|10点|11点|12点|13点|14点|15点|16点|17点|18点|19点|20点|21点|22点"),
   (0x336f, "23点|24点|hpa|da|au|bar|ov|pc|dm|dm2|dm3|iu|平成|昭和|大正|明治|株式会社|pa|na|μa|ma|ka|kb|mb"),
   (0x3387, "gb|cal|kcal|pf|nf|μf|μg|mg|kg|hz|khz|mhz|ghz|thz|μl|ml|dl|kl|fm|nm|μm|mm|cm|km"),
   (0x339f, "mm2|cm2|m2|km2|mm3|cm3|m3|km3|m∕s|m∕s2|pa|kpa|mpa|gpa|rad|rad∕s|rad∕s2|ps|ns|μs"),
   (0x33b3, "ms|pv|nv|μv|mv|kv|mv|pw|nw|μw|mw|kw|mw|kω|mω"), (0x33c3, "bq|cc|cd|c∕kg"),
   (0x33c8, "db|gy|ha|hp|in|kk|km|kt|lm|ln|log|lx|mb|mil|mol|ph"),
   (0x33d9, "ppm|pr|sr|sv|wb|v∕m|a∕m|1日|2日|3日|4日|5日|6日|7日|8日|9日|10日|11日|12日|13日|14日|15日|16日"),
   (0x33f0, "17日|18日|19日|20日|21日|22日|23日|24日|25日|26日|27日|28日|29日|30日|31日|gal"), (0xa69c, "ъ|ь"),
   (0xa770, "ꝯ"), (0xa779, "ꝺ"), (0xa77b, "ꝼ"), (0xa77d, "ᵹ"), (0xa78b, "ꞌ"), (0xa78d, "ɥ"),
   (0xa790, "ꞑ"), (0xa792, "ꞓ"), (0xa7aa, "ɦ|ɜ|ɡ|ɬ|ɪ"), (0xa7b0, "ʞ|ʇ|ʝ|ꭓ"), (0xa7c4, "ꞔ|ʂ|ᶎ|ꟈ"),
   (0xa7c9, "ꟊ"), (0xa7cb, "ɤ"), (0xa7dc, "ƛ"), (0xa7f1, "s|c|f|q|ꟶ"), (0xa7f8, "ħ|œ"),
   (0xab5c, "ꜧ|ꬷ|ɫ|ꭒ"), (0xab69, "ʍ"),
   (0xf900, "豈|更|車|賈|滑|串|句|龜|龜|契|金|喇|奈|懶|癩|羅|蘿|螺|裸|邏|樂|洛|烙|珞|落|酪|駱|亂|卵|欄|爛|蘭|鸞|嵐|濫|藍|襤|拉|臘|蠟"),
   (0xf928, "廊|朗|浪|狼|郎|來|冷|勞|擄|櫓|爐|盧|老|蘆|虜|路|露|魯|鷺|碌|祿|綠|菉|錄|鹿|論|壟|弄|籠|聾|牢|磊|賂|雷|壘|屢|樓|淚|漏|累"),
   (0xf950, "縷|陋|勒|肋|凜|凌|稜|綾|菱|陵|讀|拏|樂|諾|丹|寧|怒|率|異|北|磻|便|復|不|泌|數|索|參|塞|省|葉|說|殺|辰|沈|拾|若|掠|略|亮"),
   (0xf978, "兩|凉|梁|糧|良|諒|量|勵|呂|女|廬|旅|濾|礪|閭|驪|麗|黎|力|曆|歷|轢|年|憐|戀|撚|漣|煉|璉|秊|練|聯|輦|蓮|連|鍊|列|劣|咽|烈"),
   (0xf9a0, "裂|說|廉|念|捻|殮|簾|獵|令|囹|寧|嶺|怜|玲|瑩|羚|聆|鈴|零|靈|領|例|禮|醴|隸|惡|了|僚|寮|尿|料|樂|燎|療|蓼|遼|龍|暈|阮|劉"),
   (0xf9c8, "杻|柳|流|溜|琉|留|硫|紐|類|六|戮|陸|倫|崙|淪|輪|律|慄|栗|率|隆|利|吏|履|易|李|梨|泥|理|痢|罹|裏|裡|里|離|匿|溺|吝|燐|璘"),
   (0xf9f0, "藺|隣|鱗|麟|林|淋|臨|立|笠|粒|狀|炙|識|什|茶|刺|切|度|拓|糖|宅|洞|暴|輻|行|降|見|廓|兀|嗀"), (0xfa10, "塚"),
   (0xfa12, "晴"), (0xfa15, "凞|猪|益|礼|神|祥|福|靖|精|羽"), (0xfa20, "蘒"), (0xfa22, "諸"), (0xfa25, "逸|都"),
   (0xfa2a, "飯|飼|館|鶴|郞|隷|侮|僧|免|勉|勤|卑|喝|嘆|器|塀|墨|層|屮|悔|慨|憎|懲|敏|既|暑|梅|海|渚|漢|煮|爫|琢|碑|社|祉|祈|祐|祖|祝"),
   (0xfa52, "禍|禎|穀|突|節|練|縉|繁|署|者|臭|艹|艹|著|褐|視|謁|謹|賓|贈|辶|逸|難|響|頻|恵|𤋮|舘"),
   (0xfa70, "並|况|全|侀|充|冀|勇|勺|喝|啕|喙|嗢|塚|墳|奄|奔|婢|嬨|廒|廙|彩|徭|惘|慎|愈|憎|慠|懲|戴|揄|搜|摒|敖|晴|朗|望|杖|歹|殺|流"),
   (0xfa98, "滛|滋|漢|瀞|煮|瞧|爵|犯|猪|瑱|甆|画|瘝|瘟|益|盛|直|睊|着|磌|窱|節|类|絛|練|缾|者|荒|華|蝹|襁|覆|視|調|諸|請|謁|諾|諭|謹"),
   (0xfac0, "變|贈|輸|遲|醙|鉶|陼|難|靖|韛|響|頋|頻|鬒|龜|𢡊|𢡄|𣏕|㮝|䀘|䀹|𥉉|𥳐|𧻓|齃|龎"), (0xfb00, "ff|fi|fl|ffi|ffl|st|st"),
   (0xfb13, "մն|մե|մի|վն|մխ"), (0xfb1d, "\u05d9\u05b4"),
   (0xfb1f, "\u05f2\u05b7|\u05e2|\u05d0|\u05d3|\u05d4"),
   (0xfb27, "\u05e8|\u05ea|+|\u05e9\u05c1|\u05e9\u05c2|\u05e9\u05bc\u05c1|\u05e9\u05bc\u05c2"),
   (0xfb2e, "\u05d0\u05b7|\u05d0\u05b8|\u05d0\u05bc|\u05d1\u05bc|\u05d2\u05bc|\u05d3\u05bc"),
   (0xfb34, "\u05d4\u05bc|\u05d5\u05bc|\u05d6\u05bc"),
   (0xfb38, "\u05d8\u05bc|\u05d9\u05bc|\u05da\u05bc|\u05db\u05bc|\u05dc\u05bc"),
   (0xfb3e, "\u05de\u05bc"), (0xfb40, "\u05e0\u05bc|\u05e1\u05bc"),
   (0xfb43, "\u05e3\u05bc|\u05e4\u05bc"),
   (0xfb46, "\u05e6\u05bc|\u05e7\u05bc|\u05e8\u05bc|\u05e9\u05bc|\u05ea\u05bc|\u05d5\u05b9"),
   (0xfb4c, "\u05d1\u05bf|\u05db\u05bf|\u05e4\u05bf|\u05d0\u05dc|\u0671|\u0671|\u067b|\u067b"),
   (0xfb54, "\u067b|\u067b|\u067e|\u067e|\u067e|\u067e|\u0680|\u0680|\u0680|\u0680|\u067a"),
   (0xfb5f, "\u067a|\u067a|\u067a|\u067f|\u067f|\u067f|\u067f|\u0679|\u0679|\u0679|\u0679"),
   (0xfb6a, "\u06a4|\u06a4|\u06a4|\u06a4|\u06a6|\u06a6|\u06a6|\u06a6|\u0684|\u0684|\u0684"),
   (0xfb75, "\u0684|\u0683|\u0683|\u0683|\u0683|\u0686|\u0686|\u0686|\u0686|\u0687|\u0687"),
   (0xfb80, "\u0687|\u0687|\u068d|\u068d|\u068c|\u068c|\u068e|\u068e|\u0688|\u0688|\u0698"),
   (0xfb8b, "\u0698|\u0691|\u0691|\u06a9|\u06a9|\u06a9|\u06a9|\u06af|\u06af|\u06af|\u06af"),
   (0xfb96, "\u06b3|\u06b3|\u06b3|\u06b3|\u06b1|\u06b1|\u06b1|\u06b1|\u06ba|\u06ba|\u06bb"),
   (0xfba1, "\u06bb|\u06bb|\u06bb|\u06c0|\u06c0|\u06c1|\u06c1|\u06c1|\u06c1|\u06be|\u06be"),
   (0xfbac, "\u06be|\u06be|\u06d2|\u06d2|\u06d3|\u06d3"),
   (0xfbd3, "\u06ad|\u06ad|\u06ad|\u06ad|\u06c7|\u06c7|\u06c6|\u06c6|\u06c8|\u06c8"),
   (0xfbdd, "\u06c7\u0674|\u06cb|\u06cb|\u06c5|\u06c5|\u06c9|\u06c9|\u06d0|\u06d0|\u06d0"),
   (0xfbe7, "\u06d0|\u0649|\u0649|\u0626\u0627|\u0626\u0627|\u0626\u06d5|\u0626\u06d5"),
   (0xfbee, "\u0626\u0648|\u0626\u0648|\u0626\u06c7|\u0626\u06c7|\u0626\u06c6|\u0626\u06c6"),
   (0xfbf4, "\u0626\u06c8|\u0626\u06c8|\u0626\u06d0|\u0626\u06d0|\u0626\u06d0|\u0626\u0649"),
   (0xfbfa, "\u0626\u0649|\u0626\u0649|\u06cc|\u06cc|\u06cc|\u06cc|\u0626\u062c|\u0626\u062d"),
   (0xfc02, "\u0626\u0645|\u0626\u0649|\u0626\u064a|\u0628\u062c|\u0628\u062d|\u0628\u062e"),
   (0xfc08, "\u0628\u0645|\u0628\u0649|\u0628\u064a|\u062a\u062c|\u062a\u062d|\u062a\u062e"),
   (0xfc0e, "\u062a\u0645|\u062a\u0649|\u062a\u064a|\u062b\u062c|\u062b\u0645|\u062b\u0649"),
   (0xfc14, "\u062b\u064a|\u062c\u062d|\u062c\u0645|\u062d\u062c|\u062d\u0645|\u062e\u062c"),
   (0xfc1a, "\u062e\u062d|\u062e\u0645|\u0633\u062c|\u0633\u062d|\u0633\u062e|\u0633\u0645"),
   (0xfc20, "\u0635\u062d|\u0635\u0645|\u0636\u062c|\u0636\u062d|\u0636\u062e|\u0636\u0645"),
   (0xfc26, "\u0637\u062d|\u0637\u0645|\u0638\u0645|\u0639\u062c|\u0639\u0645|\u063a\u062c"),
   (0xfc2c, "\u063a\u0645|\u0641\u062c|\u0641\u062d|\u0641\u062e|\u0641\u0645|\u0641\u0649"),
   (0xfc32, "\u0641\u064a|\u0642\u062d|\u0642\u0645|\u0642\u0649|\u0642\u064a|\u0643\u0627"),
   (0xfc38, "\u0643\u062c|\u0643\u062d|\u0643\u062e|\u0643\u0644|\u0643\u0645|\u0643\u0649"),
   (0xfc3e, "\u0643\u064a|\u0644\u062c|\u0644\u062d|\u0644\u062e|\u0644\u0645|\u0644\u0649"),
   (0xfc44, "\u0644\u064a|\u0645\u062c|\u0645\u062d|\u0645\u062e|\u0645\u0645|\u0645\u0649"),
   (0xfc4a, "\u0645\u064a|\u0646\u062c|\u0646\u062d|\u0646\u062e|\u0646\u0645|\u0646\u0649"),
   (0xfc50, "\u0646\u064a|\u0647\u062c|\u0647\u0645|\u0647\u0649|\u0647\u064a|\u064a\u062c"),
   (0xfc56, "\u064a\u062d|\u064a\u062e|\u064a\u0645|\u064a\u0649|\u064a\u064a|\u0630\u0670"),
   (0xfc5c, "\u0631\u0670|\u0649\u0670| \u064c\u0651| \u064d\u0651| \u064e\u0651"),
   (0xfc61, " \u064f\u0651| \u0650\u0651| \u0651\u0670|\u0626\u0631|\u0626\u0632"),
   (0xfc66, "\u0626\u0645|\u0626\u0646|\u0626\u0649|\u0626\u064a|\u0628\u0631|\u0628\u0632"),
   (0xfc6c, "\u0628\u0645|\u0628\u0646|\u0628\u0649|\u0628\u064a|\u062a\u0631|\u062a\u0632"),
   (0xfc72, "\u062a\u0645|\u062a\u0646|\u062a\u0649|\u062a\u064a|\u062b\u0631|\u062b\u0632"),
   (0xfc78, "\u062b\u0645|\u062b\u0646|\u062b\u0649|\u062b\u064a|\u0641\u0649|\u0641\u064a"),
   (0xfc7e, "\u0642\u0649|\u0642\u064a|\u0643\u0627|\u0643\u0644|\u0643\u0645|\u0643\u0649"),
   (0xfc84, "\u0643\u064a|\u0644\u0645|\u0644\u0649|\u0644\u064a|\u0645\u0627|\u0645\u0645"),
   (0xfc8a, "\u0646\u0631|\u0646\u0632|\u0646\u0645|\u0646\u0646|\u0646\u0649|\u0646\u064a"),
   (0xfc90, "\u0649\u0670|\u064a\u0631|\u064a\u0632|\u064a\u0645|\u064a\u0646|\u064a\u0649"),
   (0xfc96, "\u064a\u064a|\u0626\u062c|\u0626\u062d|\u0626\u062e|\u0626\u0645|\u0626\u0647"),
   (0xfc9c, "\u0628\u062c|\u0628\u062d|\u0628\u062e|\u0628\u0645|\u0628\u0647|\u062a\u062c"),
   (0xfca2, "\u062a\u062d|\u062a\u062e|\u062a\u0645|\u062a\u0647|\u062b\u0645|\u062c\u062d"),
   (0xfca8, "\u062c\u0645|\u062d\u062c|\u062d\u0645|\u062e\u062c|\u062e\u0645|\u0633\u062c"),
   (0xfcae, "\u0633\u062d|\u0633\u062e|\u0633\u0645|\u0635\u062d|\u0635\u062e|\u0635\u0645"),
   (0xfcb4, "\u0636\u062c|\u0636\u062d|\u0636\u062e|\u0636\u0645|\u0637\u062d|\u0638\u0645"),
   (0xfcba, "\u0639\u062c|\u0639\u0645|\u063a\u062c|\u063a\u0645|\u0641\u062c|\u0641\u062d"),
   (0xfcc0, "\u0641\u062e|\u0641\u0645|\u0642\u062d|\u0642\u0645|\u0643\u062c|\u0643\u062d"),
   (0xfcc6, "\u0643\u062e|\u0643\u0644|\u0643\u0645|\u0644\u062c|\u0644\u062d|\u0644\u062e"),
   (0xfccc, "\u0644\u0645|\u0644\u0647|\u0645\u062c|\u0645\u062d|\u0645\u062e|\u0645\u0645"),
   (0xfcd2, "\u0646\u062c|\u0646\u062d|\u0646\u062e|\u0646\u0645|\u0646\u0647|\u0647\u062c"),
   (0xfcd8, "\u0647\u0645|\u0647\u0670|\u064a\u062c|\u064a\u062d|\u064a\u062e|\u064a\u0645"),
   (0xfcde, "\u064a\u0647|\u0626\u0645|\u0626\u0647|\u0628\u0645|\u0628\u0647|\u062a\u0645"),
   (0xfce4, "\u062a\u0647|\u062b\u0645|\u062b\u0647|\u0633\u0645|\u0633\u0647|\u0634\u0645"),
   (0xfcea, "\u0634\u0647|\u0643\u0644|\u0643\u0645|\u0644\u0645|\u0646\u0645|\u0646\u0647"),
   (0xfcf0, "\u064a\u0645|\u064a\u0647|\u0640\u064e\u0651|\u0640\u064f\u0651"),
   (0xfcf4, "\u0640\u0650\u0651|\u0637\u0649|\u0637\u064a|\u0639\u0649|\u0639\u064a"),
   (0xfcf9, "\u063a\u0649|\u063a\u064a|\u0633\u0649|\u0633\u064a|\u0634\u0649|\u0634\u064a"),
   (0xfcff, "\u062d\u0649|\u062d\u064a|\u062c\u0649|\u062c\u064a|\u062e\u0649|\u062e\u064a"),
   (0xfd05, "\u0635\u0649|\u0635\u064a|\u0636\u0649|\u0636\u064a|\u0634\u062c|\u0634\u062d"),
   (0xfd0b, "\u0634\u062e|\u0634\u0645|\u0634\u0631|\u0633\u0631|\u0635\u0631|\u0636\u0631"),
   (0xfd11, "\u0637\u0649|\u0637\u064a|\u0639\u0649|\u0639\u064a|\u063a\u0649|\u063a\u064a"),
   (0xfd17, "\u0633\u0649|\u0633\u064a|\u0634\u0649|\u0634\u064a|\u062d\u0649|\u062d\u064a"),
   (0xfd1d, "\u062c\u0649|\u062c\u064a|\u062e\u0649|\u062e\u064a|\u0635\u0649|\u0635\u064a"),
   (0xfd23, "\u0636\u0649|\u0636\u064a|\u0634\u062c|\u0634\u062d|\u0634\u062e|\u0634\u0645"),
   (0xfd29, "\u0634\u0631|\u0633\u0631|\u0635\u0631|\u0636\u0631|\u0634\u062c|\u0634\u062d"),
   (0xfd2f, "\u0634\u062e|\u0634\u0645|\u0633\u0647|\u0634\u0647|\u0637\u0645|\u0633\u062c"),
   (0xfd35, "\u0633\u062d|\u0633\u062e|\u0634\u062c|\u0634\u062d|\u0634\u062e|\u0637\u0645"),
   (0xfd3b, "\u0638\u0645|\u0627\u064b|\u0627\u064b"),
   (0xfd50, "\u062a\u062c\u0645|\u062a\u062d\u062c|\u062a\u062d\u062c|\u062a\u062d\u0645"),
   (0xfd54, "\u062a\u062e\u0645|\u062a\u0645\u062c|\u062a\u0645\u062d|\u062a\u0645\u062e"),
   (0xfd58, "\u062c\u0645\u062d|\u062c\u0645\u062d|\u062d\u0645\u064a|\u062d\u0645\u0649"),
   (0xfd5c, "\u0633\u062d\u062c|\u0633\u062c\u062d|\u0633\u062c\u0649|\u0633\u0645\u062d"),
   (0xfd60, "\u0633\u0645\u062d|\u0633\u0645\u062c|\u0633\u0645\u0645|\u0633\u0645\u0645"),
   (0xfd64, "\u0635\u062d\u062d|\u0635\u062d\u062d|\u0635\u0645\u0645|\u0634\u062d\u0645"),
   (0xfd68, "\u0634\u062d\u0645|\u0634\u062c\u064a|\u0634\u0645\u062e|\u0634\u0645\u062e"),
   (0xfd6c, "\u0634\u0645\u0645|\u0634\u0645\u0645|\u0636\u062d\u0649|\u0636\u062e\u0645"),
   (0xfd70, "\u0636\u062e\u0645|\u0637\u0645\u062d|\u0637\u0645\u062d|\u0637\u0645\u0645"),
   (0xfd74, "\u0637\u0645\u064a|\u0639\u062c\u0645|\u0639\u0645\u0645|\u0639\u0645\u0645"),
   (0xfd78, "\u0639\u0645\u0649|\u063a\u0645\u0645|\u063a\u0645\u064a|\u063a\u0645\u0649"),
   (0xfd7c, "\u0641\u062e\u0645|\u0641\u062e\u0645|\u0642\u0645\u062d|\u0642\u0645\u0645"),
   (0xfd80, "\u0644\u062d\u0645|\u0644\u062d\u064a|\u0644\u062d\u0649|\u0644\u062c\u062c"),
   (0xfd84, "\u0644\u062c\u062c|\u0644\u062e\u0645|\u0644\u062e\u0645|\u0644\u0645\u062d"),
   (0xfd88, "\u0644\u0645\u062d|\u0645\u062d\u062c|\u0645\u062d\u0645|\u0645\u062d\u064a"),
   (0xfd8c, "\u0645\u062c\u062d|\u0645\u062c\u0645|\u0645\u062e\u062c|\u0645\u062e\u0645"),
   (0xfd92, "\u0645\u062c\u062e|\u0647\u0645\u062c|\u0647\u0645\u0645|\u0646\u062d\u0645"),
   (0xfd96, "\u0646\u062d\u0649|\u0646\u062c\u0645|\u0646\u062c\u0645|\u0646\u062c\u0649"),
   (0xfd9a, "\u0646\u0645\u064a|\u0646\u0645\u0649|\u064a\u0645\u0645|\u064a\u0645\u0645"),
   (0xfd9e, "\u0628\u062e\u064a|\u062a\u062c\u064a|\u062a\u062c\u0649|\u062a\u062e\u064a"),
   (0xfda2, "\u062a\u062e\u0649|\u062a\u0645\u064a|\u062a\u0645\u0649|\u062c\u0645\u064a"),
   (0xfda6, "\u062c\u062d\u0649|\u062c\u0645\u0649|\u0633\u062e\u0649|\u0635\u062d\u064a"),
   (0xfdaa, "\u0634\u062d\u064a|\u0636\u062d\u064a|\u0644\u062c\u064a|\u0644\u0645\u064a"),
   (0xfdae, "\u064a\u062d\u064a|\u064a\u062c\u064a|\u064a\u0645\u064a|\u0645\u0645\u064a"),
   (0xfdb2, "\u0642\u0645\u064a|\u0646\u062d\u064a|\u0642\u0645\u062d|\u0644\u062d\u0645"),
   (0xfdb6, "\u0639\u0645\u064a|\u0643\u0645\u064a|\u0646\u062c\u062d|\u0645\u062e\u064a"),
   (0xfdba, "\u0644\u062c\u0645|\u0643\u0645\u0645|\u0644\u062c\u0645|\u0646\u062c\u062d"),
   (0xfdbe, "\u062c\u062d\u064a|\u062d\u062c\u064a|\u0645\u062c\u064a|\u0641\u0645\u064a"),
   (0xfdc2, "\u0628\u062d\u064a|\u0643\u0645\u0645|\u0639\u062c\u0645|\u0635\u0645\u0645"),
   (0xfdc6, "\u0633\u062e\u064a|\u0646\u062c\u064a"),
   (0xfdf0, "\u0635\u0644\u06d2|\u0642\u0644\u06d2|\u0627\u0644\u0644\u0647"),
   (0xfdf3, "\u0627\u0643\u0628\u0631|\u0645\u062d\u0645\u062f|\u0635\u0644\u0639\u0645"),
   (0xfdf6, "\u0631\u0633\u0648\u0644|\u0639\u0644\u064a\u0647|\u0648\u0633\u0644\u0645"),
   (0xfdf9, "\u0635\u0644\u0649"),
   (0xfdfa, "\u0635\u0644\u0649 \u0627\u0644\u0644\u0647 \u0639\u0644\u064a\u0647 \u0648\u0633\u0644\u0645"),
   (0xfdfb, "\u062c\u0644 \u062c\u0644\u0627\u0644\u0647|\u0631\u06cc\u0627\u0644"), (0xfe10, ",|、"),
   (0xfe13, ":|;|!|?|〖|〗"), (0xfe31, "—|–|_|_|(|)|\x7b|\x7d|〔|〕|【|】|《|》|〈|〉"),
   (0xfe47, "[|]| \u0305| \u0305| \u0305| \u0305|_|_|_|,|、"),
   (0xfe54, ";|:|?|!|—|(|)|\x7b|\x7d|〔|〕|#|&|*|+|-|<|>|="), (0xfe68, "\\|$|%|@"),
   (0xfe70, " \u064b|\u0640\u064b| \u064c"), (0xfe74, " \u064d"),
   (0xfe76, " \u064e|\u0640\u064e| \u064f|\u0640\u064f| \u0650|\u0640\u0650| \u0651"),
   (0xfe7d, "\u0640\u0651| \u0652|\u0640\u0652|\u0621|\u0622|\u0622|\u0623|\u0623|\u0624"),
   (0xfe86, "\u0624|\u0625|\u0625|\u0626|\u0626|\u0626|\u0626|\u0627|\u0627|\u0628|\u0628"),
   (0xfe91, "\u0628|\u0628|\u0629|\u0629|\u062a|\u062a|\u062a|\u062a|\u062b|\u062b|\u062b"),
   (0xfe9c, "\u062b|\u062c|\u062c|\u062c|\u062c|\u062d|\u062d|\u062d|\u062d|\u062e|\u062e"),
   (0xfea7, "\u062e|\u062e|\u062f|\u062f|\u0630|\u0630|\u0631|\u0631|\u0632|\u0632|\u0633"),
   (0xfeb2, "\u0633|\u0633|\u0633|\u0634|\u0634|\u0634|\u0634|\u0635|\u0635|\u0635|\u0635"),
   (0xfebd, "\u0636|\u0636|\u0636|\u0636|\u0637|\u0637|\u0637|\u0637|\u0638|\u0638|\u0638"),
   (0xfec8, "\u0638|\u0639|\u0639|\u0639|\u0639|\u063a|\u063a|\u063a|\u063a|\u0641|\u0641"),
   (0xfed3, "\u0641|\u0641|\u0642|\u0642|\u0642|\u0642|\u0643|\u0643|\u0643|\u0643|\u0644"),
   (0xfede, "\u0644|\u0644|\u0644|\u0645|\u0645|\u0645|\u0645|\u0646|\u0646|\u0646|\u0646"),
   (0xfee9, "\u0647|\u0647|\u0647|\u0647|\u0648|\u0648|\u0649|\u0649|\u064a|\u064a|\u064a"),
   (0xfef4, "\u064a|\u0644\u0622|\u0644\u0622|\u0644\u0623|\u0644\u0623|\u0644\u0625"),
   (0xfefa, "\u0644\u0625|\u0644\u0627|\u0644\u0627"),
   (0xff5f, "⦅|⦆|.|「|」|、|・|ヲ|ァ|ィ|ゥ|ェ|ォ|ャ|ュ|ョ|ッ|ー|ア|イ|ウ|エ|オ|カ|キ|ク|ケ|コ|サ|シ|ス|セ|ソ|タ|チ|ツ|テ|ト"),
   (0xff8b, "ヒ|フ|ヘ|ホ"), (0xff94, "ヤ|ユ"), (0xff9c, "ワ|ン|\u3099|\u309a"), (0xffa1, "ᄀ|ᄁ|ᆪ|ᄂ|ᆬ|ᆭ"),
   (0xffb0, "ᄚ"), (0xffb4, "ᄡ"), (0xffe0, "¢|£|¬| \u0304|¦|¥|₩"), (0xffe8, "│"), (0xffed, "■|○"),
   (0x10594, "𐖻|𐖼"), (0x10781, "ː|ˑ|æ|ʙ|ɓ"),
   (0x10787, "ʣ|ꭦ|ʥ|ʤ|ɖ|ɗ|ᶑ|ɘ|ɞ|ʩ|ɤ|ɢ|ɠ|ʛ|ħ|ʜ|ɧ|ʄ|ʪ|ʫ|ɬ|𝼄|ꞎ|ɮ|𝼅|ʎ|𝼆|ø|ɶ|ɷ|q|ɺ|𝼈|ɽ|ɾ|ʀ|ʨ|ʦ|ꭧ|ʧ"),
   (0x107af, "ʈ|ⱱ"), (0x107b2, "ʏ|ʡ|ʢ|ʘ"), (0x107b9, "𝼊|𝼞"), (0x1d15e, "𝅗𝅥|𝅘𝅥|𝅘𝅥𝅮|𝅘𝅥𝅯|𝅘𝅥𝅰|𝅘𝅥𝅱|𝅘𝅥𝅲"),
   (0x1d1bb, "𝆹𝅥|𝆺𝅥|𝆹𝅥𝅮|𝆺𝅥𝅮|𝆹𝅥𝅯|𝆺𝅥𝅯"), (0x1d49c, "a"), (0x1d49e, "c|d"), (0x1d4a2, "g"),
   (0x1d4a5, "j|k"), (0x1d4bb, "f"), (0x1d4bd, "h"), (0x1d504, "a|b"), (0x1d538, "a|b"), (0x1d546, "o"),
   (0x1d6a4, "ı|ȷ"), (0x1d6b9, "θ"), (0x1d6c1, "∇"), (0x1d6d3, "σ"), (0x1d6db, "∂|ε|θ|κ|φ|ρ|π"),
   (0x1d6f3, "θ"), (0x1d6fb, "∇"), (0x1d70d, "σ"), (0x1d715, "∂|ε|θ|κ|φ|ρ|π"), (0x1d72d, "θ"),
   (0x1d735, "∇"), (0x1d747, "σ"), (0x1d74f, "∂|ε|θ|κ|φ|ρ|π"), (0x1d767, "θ"), (0x1d76f, "∇"),
   (0x1d781, "σ"), (0x1d789, "∂|ε|θ|κ|φ|ρ|π"), (0x1d7a1, "θ"), (0x1d7a9, "∇"), (0x1d7bb, "σ"),
   (0x1d7c3, "∂|ε|θ|κ|φ|ρ|π|ϝ|ϝ"), (0x1e047, "ы|э|ю|ꚉ|ә|і|ј|ө|ү|ӏ"), (0x1e05a, "к|л|о|п|с"),
   (0x1e065, "ъ|ы|ґ|і|ѕ|џ|ҫ|ꙑ|ұ"), (0x1ee00, "\u0627|\u0628|\u062c|\u062f"),
   (0x1ee05, "\u0648|\u0632|\u062d|\u0637|\u064a"),
   (0x1ee0e, "\u0633|\u0639|\u0641|\u0635|\u0642|\u0631|\u0634|\u062a|\u062b|\u062e|\u0630"),
   (0x1ee19, "\u0636|\u0638|\u063a|\u066e|\u06ba|\u06a1|\u066f"), (0x1ee21, "\u0628|\u062c"),
   (0x1ee24, "\u0647"), (0x1ee27, "\u062d"), (0x1ee29, "\u064a"),
   (0x1ee2e, "\u0633|\u0639|\u0641|\u0635|\u0642"), (0x1ee34, "\u0634|\u062a|\u062b|\u062e"),
   (0x1ee39, "\u0636"), (0x1ee3b, "\u063a"), (0x1ee42, "\u062c"), (0x1ee47, "\u062d"),
   (0x1ee49, "\u064a"), (0x1ee4b, "\u0644"), (0x1ee4d, "\u0646|\u0633|\u0639"),
   (0x1ee51, "\u0635|\u0642"), (0x1ee54, "\u0634"), (0x1ee57, "\u062e"), (0x1ee59, "\u0636"),
   (0x1ee5b, "\u063a"), (0x1ee5d, "\u06ba"), (0x1ee5f, "\u066f"), (0x1ee61, "\u0628|\u062c"),
   (0x1ee64, "\u0647"), (0x1ee67, "\u062d|\u0637|\u064a|\u0643"),
   (0x1ee6c, "\u0645|\u0646|\u0633|\u0639|\u0641|\u0635|\u0642"),
   (0x1ee74, "\u0634|\u062a|\u062b|\u062e"), (0x1ee79, "\u0636|\u0638|\u063a|\u066e"),
   (0x1ee7e, "\u06a1"),
   (0x1ee80, "\u0627|\u0628|\u062c|\u062f|\u0647|\u0648|\u0632|\u062d|\u0637|\u064a"),
   (0x1ee8e, "\u0633|\u0639|\u0641|\u0635|\u0642|\u0631|\u0634|\u062a|\u062b|\u062e|\u0630"),
   (0x1ee99, "\u0636|\u0638|\u063a"), (0x1eea1, "\u0628|\u062c|\u062f"),
   (0x1eea5, "\u0648|\u0632|\u062d|\u0637|\u064a"),
   (0x1eeae, "\u0633|\u0639|\u0641|\u0635|\u0642|\u0631|\u0634|\u062a|\u062b|\u062e|\u0630"),
   (0x1eeb9, "\u0636|\u0638|\u063a"), (0x1f101, "0,|1,|2,|3,|4,|5,|6,|7,|8,|9,"),
   (0x1f110, "(a)|(b)|(c)|(d)|(e)|(f)|(g)|(h)|(i)|(j)|(k)|(l)|(m)|(n)|(o)|(p)|(q)|(r)|(s)|(t)"),
   (0x1f124, "(u)|(v)|(w)|(x)|(y)|(z)|〔s〕|c|r|cd|wz"), (0x1f14a, "hv|mv|sd|ss|ppv|wc"),
   (0x1f16a, "mc|md|mr"), (0x1f190, "dj"), (0x1f200, "ほか|ココ|サ"),
   (0x1f210, "手|字|双|デ|二|多|解|天|交|映|無|料|前|後|再|新|初|終|生|販|声|吹|演|投|捕|一|三|遊|左|中|右|指|走|打|禁|空|合|満|有|月"),
   (0x1f238, "申|割|営|配"), (0x1f240, "〔本〕|〔三〕|〔二〕|〔安〕|〔点〕|〔打〕|〔盗〕|〔勝〕|〔敗〕"), (0x1f250, "得|可"),
   (0x2f800, "丽|丸|乁|𠄢|你|侮|侻|倂|偺|備|僧|像|㒞|𠘺|免|兔|兤|具|𠔜|㒹|內|再|𠕋|冗|冤|仌|冬|况|𩇟|凵|刃|㓟|刻|剆|割|剷|㔕|勇|勉|勤"),
   (0x2f828, "勺|包|匆|北|卉|卑|博|即|卽|卿|卿|卿|𠨬|灰|及|叟|𠭣|叫|叱|吆|咞|吸|呈|周|咢|哶|唐|啓|啣|善|善|喙|喫|喳|嗂|圖|嘆|圗|噑|噴"),
   (0x2f850, "切|壮|城|埴|堍|型|堲|報|墬|𡓤|売|壷|夆|多|夢|奢|𡚨|𡛪|姬|娛|娧|姘|婦|㛮|㛼|嬈|嬾|嬾|𡧈|寃|寘|寧|寳|𡬘|寿|将|当|尢|㞁|屠"),
   (0x2f878, "屮|峀|岍|𡷤|嵃|𡷦|嵮|嵫|嵼|巡|巢|㠯|巽|帨|帽|幩|㡢|𢆃|㡼|庰|庳|庶|廊|𪎒|廾|𢌱|𢌱|舁|弢|弢|㣇|𣊸|𦇚|形|彫|㣣|徚|忍|志|忹"),
   (0x2f8a0, "悁|㤺|㤜|悔|𢛔|惇|慈|慌|慎|慌|慺|憎|憲|憤|憯|懞|懲|懶|成|戛|扝|抱|拔|捐|𢬌|挽|拼|捨|掃|揤|𢯱|搢|揅|掩|㨮|摩|摾|撝|摷|㩬"),
   (0x2f8c8, "敏|敬|𣀊|旣|書|晉|㬙|暑|㬈|㫤|冒|冕|最|暜|肭|䏙|朗|望|朡|杞|杓|𣏃|㭉|柺|枅|桒|梅|𣑭|梎|栟|椔|㮝|楂|榣|槪|檨|𣚣|櫛|㰘|次"),
   (0x2f8f0, "𣢧|歔|㱎|歲|殟|殺|殻|𣪍|𡴋|𣫺|汎|𣲼|沿|泍|汧|洖|派|海|流|浩|浸|涅|𣴞|洴|港|湮|㴳|滋|滇|𣻑|淹|潮|𣽞|𣾎|濆|瀹|瀞|瀛|㶖|灊"),
   (0x2f918, "災|灷|炭|𠔥|煅|𤉣|熜|𤎫|爨|爵|牐|𤘈|犀|犕|𤜵|𤠔|獺|王|㺬|玥|㺸|㺸|瑇|瑜|瑱|璅|瓊|㼛|甤|𤰶|甾|𤲒|異|𢆟|瘐|𤾡|𤾸|𥁄|㿼|䀈"),
   (0x2f940, "直|𥃳|𥃲|𥄙|𥄳|眞|真|真|睊|䀹|瞋|䁆|䂖|𥐝|硎|碌|磌|䃣|𥘦|祖|𥚚|𥛅|福|秫|䄯|穀|穊|穏|𥥼|𥪧|𥪧|竮|䈂|𥮫|篆|築|䈧|𥲀|糒|䊠"),
   (0x2f968, "糨|糣|紀|𥾆|絣|䌁|緇|縂|繅|䌴|𦈨|𦉇|䍙|𦋙|罺|𦌾|羕|翺|者|𦓚|𦔣|聠|𦖨|聰|𣍟|䏕|育|脃|䐋|脾|媵|𦞧|𦞵|𣎓|𣎜|舁|舄|辞|䑫|芑"),
   (0x2f990, "芋|芝|劳|花|芳|芽|苦|𦬼|若|茝|荣|莭|茣|莽|菧|著|荓|菊|菌|菜|𦰶|𦵫|𦳕|䔫|蓱|蓳|蔖|𧏊|蕤|𦼬|䕝|䕡|𦾱|𧃒|䕫|虐|虜|虧|虩|蚩"),
   (0x2f9b8, "蚈|蜎|蛢|蝹|蜨|蝫|螆|䗗|蟡|蠁|䗹|衠|衣|𧙧|裗|裞|䘵|裺|㒻|𧢮|𧥦|䚾|䛇|誠|諭|變|豕|𧲨|貫|賁|贛|起|𧼯|𠠄|跋|趼|跰|𠣞|軔|輸"),
   (0x2f9e0, "𨗒|𨗭|邔|郱|鄑|𨜮|鄛|鈸|鋗|鋘|鉼|鏹|鐕|𨯺|開|䦕|閷|𨵷|䧦|雃|嶲|霣|𩅅|𩈚|䩮|䩶|韠|𩐊|䪲|𩒖|頋|頋|頩|𩖶|飢|䬳|餩|馧|駂|駾"),
   (0x2fa08, "䯎|𩬰|鬒|鱀|鳽|䳎|䳭|鵧|𪃎|䳸|𪄅|𪈎|𪊑|麻|䵖|黹|黾|鼅|鼏|鼖|鼻|𪘀")]

/-- Characters that are left out. -/
def ignoredRanges : List (Nat × Nat) :=
  [(0xad, 0xad), (0x34f, 0x34f), (0x115f, 0x1160), (0x17b4, 0x17b5), (0x180b, 0x180f), (0x200b, 0x200b),
   (0x2060, 0x2064), (0x206a, 0x206f), (0x3164, 0x3164), (0xfe00, 0xfe0f), (0xfeff, 0xfeff),
   (0xffa0, 0xffa0), (0x1bca0, 0x1bca3), (0x1d173, 0x1d17a), (0xe0100, 0xe01ef)]

/-- Characters that are kept whatever their category. -/
def keptRanges : List (Nat × Nat) :=
  [(0x88f, 0x88f), (0x897, 0x897), (0xc5c, 0xc5c), (0xcdc, 0xcdc), (0x1acf, 0x1add), (0x1ae0, 0x1aeb),
   (0x1b4e, 0x1b4f), (0x1b7f, 0x1b7f), (0x1c8a, 0x1c8a), (0x200c, 0x200d), (0x20c1, 0x20c1),
   (0x2427, 0x2429), (0x2b96, 0x2b96), (0x31e4, 0x31e5), (0xa7cd, 0xa7cd), (0xa7cf, 0xa7cf),
   (0xa7db, 0xa7db), (0xfbc3, 0xfbd2), (0xfd90, 0xfd91), (0xfdc8, 0xfdce), (0x105c0, 0x105f3),
   (0x10940, 0x10959), (0x10d40, 0x10d4f), (0x10d69, 0x10d85), (0x10d8e, 0x10d8f), (0x10ec2, 0x10ec7),
   (0x10ed0, 0x10ed8), (0x10efa, 0x10efc), (0x11380, 0x11389), (0x1138b, 0x1138b), (0x1138e, 0x1138e),
   (0x11390, 0x113b5), (0x113b7, 0x113c0), (0x113c2, 0x113c2), (0x113c5, 0x113c5), (0x113c7, 0x113ca),
   (0x113cc, 0x113d5), (0x113d7, 0x113d8), (0x113e1, 0x113e2), (0x116d0, 0x116e3), (0x11b60, 0x11b67),
   (0x11bc0, 0x11be1), (0x11bf0, 0x11bf9), (0x11db0, 0x11ddb), (0x11de0, 0x11de9), (0x11f5a, 0x11f5a),
   (0x13460, 0x143fa), (0x16100, 0x16139), (0x16d40, 0x16d79), (0x16ebb, 0x16ed3), (0x16ff2, 0x16ff6),
   (0x187f8, 0x187ff), (0x18cff, 0x18cff), (0x18d09, 0x18d1e), (0x18d80, 0x18df2), (0x1cc00, 0x1ccd5),
   (0x1ccfa, 0x1ccfc), (0x1cd00, 0x1ceb3), (0x1ceba, 0x1ced0), (0x1cee0, 0x1cef0), (0x1e5d0, 0x1e5fa),
   (0x1e5ff, 0x1e5ff), (0x1e6c0, 0x1e6de), (0x1e6e0, 0x1e6f5), (0x1e6fe, 0x1e6ff), (0x1f6d8, 0x1f6d8),
   (0x1f777, 0x1f77a), (0x1f8b2, 0x1f8bb), (0x1f8c0, 0x1f8c1), (0x1f8d0, 0x1f8d8), (0x1fa54, 0x1fa57),
   (0x1fa89, 0x1fa8a), (0x1fa8e, 0x1fa8f), (0x1fabe, 0x1fabe), (0x1fac6, 0x1fac6), (0x1fac8, 0x1fac8),
   (0x1facd, 0x1facd), (0x1fadc, 0x1fadc), (0x1fadf, 0x1fadf), (0x1fae9, 0x1faea), (0x1faef, 0x1faef),
   (0x1fbcb, 0x1fbef), (0x1fbfa, 0x1fbfa), (0x2b73a, 0x2b73f), (0x2cea2, 0x2cead), (0x2ebf0, 0x2ee5d),
   (0x323b0, 0x33479)]

/-- Characters that are refused whatever their category. -/
def refusedRanges : List (Nat × Nat) :=
  [(0x2024, 0x2026), (0x2488, 0x249b), (0x2ff0, 0x2ffb), (0x33c2, 0x33c2), (0x33c7, 0x33c7),
   (0x33d8, 0x33d8), (0xfe12, 0xfe12), (0xfe19, 0xfe19), (0xfe30, 0xfe30), (0xfe52, 0xfe52),
   (0xfffc, 0xfffd), (0x1f100, 0x1f100)]

/-- What becomes of a character. -/
inductive Fate where
  | kept
  | leftOut
  | replaced (t : Text)
  | refused
deriving DecidableEq, Repr

/-- Letters, marks, numbers, punctuation and symbols. -/
def isKeptCategory (category : Text) : Bool :=
  match category with
  | c :: _ => c == 'L' || c == 'M' || c == 'N' || c == 'P' || c == 'S'
  | [] => false

/-- The replacement that a line of replacements gives for a code point. -/
def replacementIn? (n : Nat) (line : Nat × String) : Option Text :=
  if n < line.1 then none else (Text.splitOnChar '|' line.2.toList)[n - line.1]?

/-- What a character is replaced by. -/
def replacement? (n : Nat) : Option Text :=
  match moves.find? (·.covers n) with
  | some r => some [Char.ofNat (Int.ofNat n + r.delta).toNat]
  | none => replacements.findSome? (replacementIn? n)

/-- What becomes of a character. -/
def fate (c : Char) : Fate :=
  let n := c.toNat
  if n < 128 then
    if c.isUpper then .replaced [c.toLower] else .kept
  else
    match replacement? n with
    | some t => .replaced t
    | none =>
      if Text.inRanges ignoredRanges n then .leftOut
      else if Text.inRanges keptRanges n then .kept
      else if Text.inRanges refusedRanges n then .refused
      else
        let category := Text.category c
        if isKeptCategory category && category != "Cs".toList then .kept else .refused

/-- A name with its characters replaced; none if one is refused. -/
def mapped? : Text → Option Text
  | [] => some []
  | c :: r =>
    match fate c, mapped? r with
    | .kept, some t => some (c :: t)
    | .leftOut, some t => some t
    | .replaced u, some t => some (u ++ t)
    | _, _ => none

end StylePrune.Idna
