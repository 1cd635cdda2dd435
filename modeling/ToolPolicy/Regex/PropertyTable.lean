/-! Properties of characters, as far as they can be asked of ASCII characters, the long s and the
Kelvin sign, which are all that reasons hold or fold to. -/

namespace ToolPolicy.Regex

/-- A class of characters with its normalised names, the characters of interest in it, and what a
compiled pattern weighs by it. -/
structure Property where
  names : List String
  members : List (Nat × Nat)
  weight : Nat
deriving DecidableEq, Repr

namespace Property

/-- The properties that a character has or has not. -/
def binary : List Property := [
  ⟨["ahex", "asciihexdigit"], [(0x30, 0x39), (0x41, 0x46), (0x61, 0x66)], 88⟩,
  ⟨["alpha", "alphabetic"], [(0x41, 0x5a), (0x61, 0x7a), (0x17f, 0x17f), (0x212a, 0x212a)], 45436⟩,
  ⟨["bidic", "bidicontrol"], [], 336⟩,
  ⟨["ci", "caseignorable"],
    [(0x27, 0x27), (0x2e, 0x2e), (0x3a, 0x3a), (0x5e, 0x5e), (0x60, 0x60)],
    23824⟩,
  ⟨["cased"], [(0x41, 0x5a), (0x61, 0x7a), (0x17f, 0x17f), (0x212a, 0x212a)], 10200⟩,
  ⟨["cwcf", "changeswhencasefolded"], [(0x41, 0x5a), (0x17f, 0x17f), (0x212a, 0x212a)], 24952⟩,
  ⟨["cwcm", "changeswhencasemapped"],
    [(0x41, 0x5a), (0x61, 0x7a), (0x17f, 0x17f), (0x212a, 0x212a)],
    8296⟩,
  ⟨["cwl", "changeswhenlowercased"], [(0x41, 0x5a), (0x212a, 0x212a)], 24356⟩,
  ⟨["cwt", "changeswhentitlecased"], [(0x61, 0x7a), (0x17f, 0x17f)], 25104⟩,
  ⟨["cwu", "changeswhenuppercased"], [(0x61, 0x7a), (0x17f, 0x17f)], 25172⟩,
  ⟨["dash"], [(0x2d, 0x2d)], 1564⟩,
  ⟨["di", "defaultignorablecodepoint"], [], 1476⟩,
  ⟨["dep", "deprecated"], [], 736⟩,
  ⟨["dia", "diacritic"], [(0x5e, 0x5e), (0x60, 0x60)], 12468⟩,
  ⟨["emoji"], [(0x23, 0x23), (0x2a, 0x2a), (0x30, 0x39)], 7660⟩,
  ⟨["ecomp", "emojicomponent"], [(0x23, 0x23), (0x2a, 0x2a), (0x30, 0x39)], 908⟩,
  ⟨["emod", "emojimodifier"], [], 196⟩,
  ⟨["ebase", "emojimodifierbase"], [], 2144⟩,
  ⟨["epres", "emojipresentation"], [], 4856⟩,
  ⟨["extpict", "extendedpictographic"], [], 5072⟩,
  ⟨["ext", "extender"], [], 2500⟩,
  ⟨["grbase", "graphemebase"], [(0x20, 0x7e), (0x17f, 0x17f), (0x212a, 0x212a)], 54372⟩,
  ⟨["grext", "graphemeextend"], [], 19532⟩,
  ⟨["grlink", "graphemelink"], [], 2400⟩,
  ⟨["hex", "hexdigit"], [(0x30, 0x39), (0x41, 0x46), (0x61, 0x66)], 376⟩,
  ⟨["hyphen"], [(0x2d, 0x2d)], 840⟩,
  ⟨["idsb", "idsbinaryoperator"], [], 200⟩,
  ⟨["idst", "idstrinaryoperator"], [], 164⟩,
  ⟨["idc", "idcontinue"],
    [(0x30, 0x39), (0x41, 0x5a), (0x5f, 0x5f), (0x61, 0x7a), (0x17f, 0x17f), (0x212a, 0x212a)],
    47920⟩,
  ⟨["ids", "idstart"], [(0x41, 0x5a), (0x61, 0x7a), (0x17f, 0x17f), (0x212a, 0x212a)], 41552⟩,
  ⟨["ideo", "ideographic"], [], 3744⟩,
  ⟨["joinc", "joincontrol"], [], 164⟩,
  ⟨["loe", "logicalorderexception"], [], 540⟩,
  ⟨["lower", "lowercase"], [(0x61, 0x7a), (0x17f, 0x17f)], 28112⟩,
  ⟨["math"], [(0x2b, 0x2b), (0x3c, 0x3e), (0x5e, 0x5e), (0x7c, 0x7c), (0x7e, 0x7e)], 7068⟩,
  ⟨["nchar", "noncharactercodepoint"], [], 1992⟩,
  ⟨["oalpha", "otheralphabetic"], [], 12800⟩,
  ⟨["odi", "otherdefaultignorablecodepoint"], [], 900⟩,
  ⟨["ogrext", "othergraphemeextend"], [], 1700⟩,
  ⟨["oidc", "otheridcontinue"], [], 700⟩,
  ⟨["oids", "otheridstart"], [], 500⟩,
  ⟨["olower", "otherlowercase"], [], 1700⟩,
  ⟨["omath", "othermath"], [(0x5e, 0x5e)], 7000⟩,
  ⟨["oupper", "otheruppercase"], [], 500⟩,
  ⟨["patsyn", "patternsyntax"],
    [(0x21, 0x2f), (0x3a, 0x40), (0x5b, 0x5e), (0x60, 0x60), (0x7b, 0x7e)],
    1824⟩,
  ⟨["patws", "patternwhitespace"], [(0x9, 0xd), (0x20, 0x20)], 340⟩,
  ⟨["pcm", "prependedconcatenationmark"], [], 636⟩,
  ⟨["qmark", "quotationmark"], [(0x22, 0x22), (0x27, 0x27)], 852⟩,
  ⟨["radical"], [], 404⟩,
  ⟨["ri", "regionalindicator"], [], 196⟩,
  ⟨["sterm", "sentenceterminal"], [(0x21, 0x21), (0x2e, 0x2e), (0x3f, 0x3f)], 5348⟩,
  ⟨["sd", "softdotted"], [(0x69, 0x6a)], 2248⟩,
  ⟨["term", "terminalpunctuation"],
    [(0x21, 0x21), (0x2c, 0x2c), (0x2e, 0x2e), (0x3a, 0x3b), (0x3f, 0x3f)],
    6964⟩,
  ⟨["uideo", "unifiedideograph"], [], 2636⟩,
  ⟨["upper", "uppercase"], [(0x41, 0x5a), (0x212a, 0x212a)], 26828⟩,
  ⟨["vs", "variationselector"], [], 500⟩,
  ⟨["space", "wspace", "whitespace"], [(0x9, 0xd), (0x20, 0x20)], 680⟩,
  ⟨["xidc", "xidcontinue"],
    [(0x30, 0x39), (0x41, 0x5a), (0x5f, 0x5f), (0x61, 0x7a), (0x17f, 0x17f), (0x212a, 0x212a)],
    48308⟩,
  ⟨["xids", "xidstart"], [(0x41, 0x5a), (0x61, 0x7a), (0x17f, 0x17f), (0x212a, 0x212a)], 41972⟩,
  ⟨["idsu", "idsunaryoperator"], [], 200⟩,
  ⟨["idcompatmathstart"], [], 500⟩,
  ⟨["idcompatmathcontinue"], [], 700⟩,
  ⟨["mcm", "modifiercombiningmark"], [], 700⟩]

/-- The general categories. -/
def categories : List Property := [
  ⟨["c", "other"], [(0x0, 0x1f), (0x7f, 0x7f)], 41908⟩,
  ⟨["cc", "control", "cntrl"], [(0x0, 0x1f), (0x7f, 0x7f)], 204⟩,
  ⟨["cf", "format"], [], 1784⟩,
  ⟨["cn", "unassigned"], [], 41192⟩,
  ⟨["co", "privateuse"], [], 864⟩,
  ⟨["l", "letter"], [(0x41, 0x5a), (0x61, 0x7a), (0x17f, 0x17f), (0x212a, 0x212a)], 41608⟩,
  ⟨["lc", "casedletter"], [(0x41, 0x5a), (0x61, 0x7a), (0x17f, 0x17f), (0x212a, 0x212a)], 9404⟩,
  ⟨["ll", "lowercaseletter"], [(0x61, 0x7a), (0x17f, 0x17f)], 27388⟩,
  ⟨["lm", "modifierletter"], [], 4776⟩,
  ⟨["lo", "otherletter"], [], 32764⟩,
  ⟨["lt", "titlecaseletter"], [], 552⟩,
  ⟨["lu", "uppercaseletter"], [(0x41, 0x5a), (0x212a, 0x212a)], 26316⟩,
  ⟨["m", "mark", "combiningmark"], [], 18204⟩,
  ⟨["mc", "spacingmark"], [], 9924⟩,
  ⟨["me", "enclosingmark"], [], 468⟩,
  ⟨["mn", "nonspacingmark"], [], 18756⟩,
  ⟨["n", "number"], [(0x30, 0x39)], 9272⟩,
  ⟨["nd", "decimalnumber", "digit"], [(0x30, 0x39)], 4640⟩,
  ⟨["nl", "letternumber"], [], 1208⟩,
  ⟨["no", "othernumber"], [], 5100⟩,
  ⟨["p", "punctuation", "punct"],
    [(0x21, 0x23), (0x25, 0x2a), (0x2c, 0x2f), (0x3a, 0x3b), (0x3f, 0x40), (0x5b, 0x5d),
      (0x5f, 0x5f), (0x7b, 0x7b), (0x7d, 0x7d)],
    11472⟩,
  ⟨["pc", "connectorpunctuation"], [(0x5f, 0x5f)], 540⟩,
  ⟨["pd", "dashpunctuation"], [(0x2d, 0x2d)], 1324⟩,
  ⟨["pe", "closepunctuation"], [(0x29, 0x29), (0x5d, 0x5d), (0x7d, 0x7d)], 3504⟩,
  ⟨["pf", "finalpunctuation"], [], 552⟩,
  ⟨["pi", "initialpunctuation"], [], 588⟩,
  ⟨["po", "otherpunctuation"],
    [(0x21, 0x23), (0x25, 0x27), (0x2a, 0x2a), (0x2c, 0x2c), (0x2e, 0x2f), (0x3a, 0x3b),
      (0x3f, 0x40), (0x5c, 0x5c)],
    10868⟩,
  ⟨["ps", "openpunctuation"], [(0x28, 0x28), (0x5b, 0x5b), (0x7b, 0x7b)], 3644⟩,
  ⟨["s", "symbol"],
    [(0x24, 0x24), (0x2b, 0x2b), (0x3c, 0x3e), (0x5e, 0x5e), (0x60, 0x60), (0x7c, 0x7c),
      (0x7e, 0x7e)],
    15416⟩,
  ⟨["sc", "currencysymbol"], [(0x24, 0x24)], 1720⟩,
  ⟨["sk", "modifiersymbol"], [(0x5e, 0x5e), (0x60, 0x60)], 2020⟩,
  ⟨["sm", "mathsymbol"], [(0x2b, 0x2b), (0x3c, 0x3e), (0x7c, 0x7c), (0x7e, 0x7e)], 3860⟩,
  ⟨["so", "othersymbol"], [], 12812⟩,
  ⟨["z", "separator"], [(0x20, 0x20)], 608⟩,
  ⟨["zl", "lineseparator"], [], 164⟩,
  ⟨["zp", "paragraphseparator"], [], 164⟩,
  ⟨["zs", "spaceseparator"], [(0x20, 0x20)], 572⟩,
  ⟨["any"], [(0x0, 0x7f), (0x17f, 0x17f), (0x212a, 0x212a)], 1000⟩,
  ⟨["assigned"], [(0x0, 0x7f), (0x17f, 0x17f), (0x212a, 0x212a)], 41200⟩,
  ⟨["ascii"], [(0x0, 0x7f)], 72⟩]

/-- The scripts. -/
def scripts : List Property := [
  ⟨["adlm", "adlam"], [], 336⟩,
  ⟨["aghb", "caucasianalbanian"], [], 300⟩,
  ⟨["ahom"], [], 336⟩,
  ⟨["arab", "arabic"], [], 3544⟩,
  ⟨["armi", "imperialaramaic"], [], 232⟩,
  ⟨["armn", "armenian"], [], 440⟩,
  ⟨["avst", "avestan"], [], 232⟩,
  ⟨["bali", "balinese"], [], 268⟩,
  ⟨["bamu", "bamum"], [], 432⟩,
  ⟨["bass", "bassavah"], [], 232⟩,
  ⟨["batk", "batak"], [], 200⟩,
  ⟨["beng", "bengali"], [], 700⟩,
  ⟨["bhks", "bhaiksuki"], [], 372⟩,
  ⟨["bopo", "bopomofo"], [], 300⟩,
  ⟨["brah", "brahmi"], [], 336⟩,
  ⟨["brai", "braille"], [], 164⟩,
  ⟨["bugi", "buginese"], [], 200⟩,
  ⟨["buhd", "buhid"], [], 164⟩,
  ⟨["cakm", "chakma"], [], 300⟩,
  ⟨["cans", "canadianaboriginal"], [], 432⟩,
  ⟨["cari", "carian"], [], 264⟩,
  ⟨["cham"], [], 304⟩,
  ⟨["cher", "cherokee"], [], 436⟩,
  ⟨["chrs", "chorasmian"], [], 264⟩,
  ⟨["copt", "coptic", "qaac"], [], 336⟩,
  ⟨["cpmn", "cyprominoan"], [], 264⟩,
  ⟨["cprt", "cypriot"], [], 376⟩,
  ⟨["cyrl", "cyrillic"], [], 1244⟩,
  ⟨["deva", "devanagari"], [], 536⟩,
  ⟨["diak", "divesakuru"], [], 516⟩,
  ⟨["dogr", "dogra"], [], 196⟩,
  ⟨["dsrt", "deseret"], [], 264⟩,
  ⟨["dupl", "duployan"], [], 440⟩,
  ⟨["egyp", "egyptianhieroglyphs"], [], 264⟩,
  ⟨["elba", "elbasan"], [], 196⟩,
  ⟨["elym", "elymaic"], [], 196⟩,
  ⟨["ethi", "ethiopic"], [], 2016⟩,
  ⟨["geor", "georgian"], [], 652⟩,
  ⟨["glag", "glagolitic"], [], 508⟩,
  ⟨["gong", "gunjalagondi"], [], 444⟩,
  ⟨["gonm", "masaramgondi"], [], 480⟩,
  ⟨["goth", "gothic"], [], 264⟩,
  ⟨["gran", "grantha"], [], 768⟩,
  ⟨["grek", "greek"], [], 2244⟩,
  ⟨["gujr", "gujarati"], [], 700⟩,
  ⟨["guru", "gurmukhi"], [], 804⟩,
  ⟨["hang", "hangul"], [], 1456⟩,
  ⟨["hani", "han"], [], 3480⟩,
  ⟨["hano", "hanunoo"], [], 164⟩,
  ⟨["hatr", "hatran"], [], 268⟩,
  ⟨["hebr", "hebrew"], [], 584⟩,
  ⟨["hira", "hiragana"], [], 740⟩,
  ⟨["hluw", "anatolianhieroglyphs"], [], 264⟩,
  ⟨["hmng", "pahawhhmong"], [], 476⟩,
  ⟨["hmnp", "nyiakengpuachuehmong"], [], 336⟩,
  ⟨["hung", "oldhungarian"], [], 300⟩,
  ⟨["ital", "olditalic"], [], 232⟩,
  ⟨["java", "javanese"], [], 304⟩,
  ⟨["kali", "kayahli"], [], 200⟩,
  ⟨["kana", "katakana"], [], 1220⟩,
  ⟨["kawi"], [], 336⟩,
  ⟨["khar", "kharoshthi"], [], 516⟩,
  ⟨["khmr", "khmer"], [], 372⟩,
  ⟨["khoj", "khojki"], [], 300⟩,
  ⟨["kits", "khitansmallscript"], [], 364⟩,
  ⟨["knda", "kannada"], [], 664⟩,
  ⟨["kthi", "kaithi"], [], 300⟩,
  ⟨["lana", "taitham"], [], 444⟩,
  ⟨["laoo", "lao"], [], 556⟩,
  ⟨["latn", "latin"], [(0x41, 0x5a), (0x61, 0x7a), (0x17f, 0x17f), (0x212a, 0x212a)], 2848⟩,
  ⟨["lepc", "lepcha"], [], 304⟩,
  ⟨["limb", "limbu"], [], 340⟩,
  ⟨["lina", "lineara"], [], 368⟩,
  ⟨["linb", "linearb"], [], 580⟩,
  ⟨["lisu"], [], 296⟩,
  ⟨["lyci", "lycian"], [], 196⟩,
  ⟨["lydi", "lydian"], [], 232⟩,
  ⟨["mahj", "mahajani"], [], 196⟩,
  ⟨["maka", "makasar"], [], 196⟩,
  ⟨["mand", "mandaic"], [], 200⟩,
  ⟨["mani", "manichaean"], [], 232⟩,
  ⟨["marc", "marchen"], [], 336⟩,
  ⟨["medf", "medefaidrin"], [], 264⟩,
  ⟨["mend", "mendekikakui"], [], 300⟩,
  ⟨["merc", "meroiticcursive"], [], 336⟩,
  ⟨["mero", "meroitichieroglyphs"], [], 196⟩,
  ⟨["mlym", "malayalam"], [], 448⟩,
  ⟨["modi"], [], 300⟩,
  ⟨["mong", "mongolian"], [], 540⟩,
  ⟨["mroo", "mro"], [], 268⟩,
  ⟨["mtei", "meeteimayek"], [], 268⟩,
  ⟨["mult", "multani"], [], 340⟩,
  ⟨["mymr", "myanmar"], [], 400⟩,
  ⟨["nagm", "nagmundari"], [], 196⟩,
  ⟨["nand", "nandinagari"], [], 336⟩,
  ⟨["narb", "oldnortharabian"], [], 196⟩,
  ⟨["nbat", "nabataean"], [], 232⟩,
  ⟨["newa"], [], 300⟩,
  ⟨["nkoo", "nko"], [], 168⟩,
  ⟨["nshu", "nushu"], [], 432⟩,
  ⟨["ogam", "ogham"], [], 164⟩,
  ⟨["olck", "olchiki"], [], 164⟩,
  ⟨["orkh", "oldturkic"], [], 264⟩,
  ⟨["orya", "oriya"], [], 700⟩,
  ⟨["osge", "osage"], [], 300⟩,
  ⟨["osma", "osmanya"], [], 232⟩,
  ⟨["ougr", "olduyghur"], [], 264⟩,
  ⟨["palm", "palmyrene"], [], 196⟩,
  ⟨["pauc", "paucinhau"], [], 196⟩,
  ⟨["perm", "oldpermic"], [], 196⟩,
  ⟨["phag", "phagspa"], [], 164⟩,
  ⟨["phli", "inscriptionalpahlavi"], [], 232⟩,
  ⟨["phlp", "psalterpahlavi"], [], 268⟩,
  ⟨["phnx", "phoenician"], [], 232⟩,
  ⟨["plrd", "miao"], [], 404⟩,
  ⟨["prti", "inscriptionalparthian"], [], 232⟩,
  ⟨["rjng", "rejang"], [], 268⟩,
  ⟨["rohg", "hanifirohingya"], [], 232⟩,
  ⟨["runr", "runic"], [], 268⟩,
  ⟨["samr", "samaritan"], [], 200⟩,
  ⟨["sarb", "oldsoutharabian"], [], 196⟩,
  ⟨["saur", "saurashtra"], [], 268⟩,
  ⟨["sgnw", "signwriting"], [], 336⟩,
  ⟨["shaw", "shavian"], [], 196⟩,
  ⟨["shrd", "sharada"], [], 264⟩,
  ⟨["sidd", "siddham"], [], 300⟩,
  ⟨["sind", "khudawadi"], [], 300⟩,
  ⟨["sinh", "sinhala"], [], 724⟩,
  ⟨["sogd", "sogdian"], [], 264⟩,
  ⟨["sogo", "oldsogdian"], [], 196⟩,
  ⟨["sora", "sorasompeng"], [], 232⟩,
  ⟨["soyo", "soyombo"], [], 264⟩,
  ⟨["sund", "sundanese"], [], 232⟩,
  ⟨["sylo", "sylotinagri"], [], 164⟩,
  ⟨["syrc", "syriac"], [], 372⟩,
  ⟨["tagb", "tagbanwa"], [], 236⟩,
  ⟨["takr", "takri"], [], 264⟩,
  ⟨["tale", "taile"], [], 200⟩,
  ⟨["talu", "newtailue"], [], 340⟩,
  ⟨["taml", "tamil"], [], 940⟩,
  ⟨["tang", "tangut"], [], 600⟩,
  ⟨["tavt", "taiviet"], [], 268⟩,
  ⟨["telu", "telugu"], [], 664⟩,
  ⟨["tfng", "tifinagh"], [], 304⟩,
  ⟨["tglg", "tagalog"], [], 200⟩,
  ⟨["thaa", "thaana"], [], 132⟩,
  ⟨["thai"], [], 232⟩,
  ⟨["tibt", "tibetan"], [], 584⟩,
  ⟨["tirh", "tirhuta"], [], 300⟩,
  ⟨["tnsa", "tangsa"], [], 332⟩,
  ⟨["toto"], [], 196⟩,
  ⟨["ugar", "ugaritic"], [], 232⟩,
  ⟨["vaii", "vai"], [], 232⟩,
  ⟨["vith", "vithkuqi"], [], 516⟩,
  ⟨["wara", "warangciti"], [], 300⟩,
  ⟨["wcho", "wancho"], [], 232⟩,
  ⟨["xpeo", "oldpersian"], [], 300⟩,
  ⟨["xsux", "cuneiform"], [], 572⟩,
  ⟨["yezi", "yezidi"], [], 268⟩,
  ⟨["yiii", "yi"], [], 336⟩,
  ⟨["zanb", "zanabazarsquare"], [], 264⟩,
  ⟨["zinh", "inherited", "qaai"], [], 2408⟩,
  ⟨["zyyy", "common"], [(0x0, 0x40), (0x5b, 0x60), (0x7b, 0x7f)], 12304⟩,
  ⟨["gara", "garay"], [], 500⟩,
  ⟨["gukh", "gurungkhema"], [], 300⟩,
  ⟨["krai", "kiratrai"], [], 300⟩,
  ⟨["onao", "olonal"], [], 300⟩,
  ⟨["sunu", "sunuwar"], [], 400⟩,
  ⟨["todr", "todhri"], [], 700⟩,
  ⟨["tutg", "tulutigalari"], [], 1100⟩]

/-- The versions of the standard, each with the characters of the earlier ones. -/
def ages : List Property := [
  ⟨["1.1", "v11"], [(0x0, 0x7f), (0x17f, 0x17f), (0x212a, 0x212a)], 17040⟩,
  ⟨["2.0", "v20"], [(0x0, 0x7f), (0x17f, 0x17f), (0x212a, 0x212a)], 19596⟩,
  ⟨["2.1", "v21"], [(0x0, 0x7f), (0x17f, 0x17f), (0x212a, 0x212a)], 19596⟩,
  ⟨["3.0", "v30"], [(0x0, 0x7f), (0x17f, 0x17f), (0x212a, 0x212a)], 23544⟩,
  ⟨["3.1", "v31"], [(0x0, 0x7f), (0x17f, 0x17f), (0x212a, 0x212a)], 26372⟩,
  ⟨["3.2", "v32"], [(0x0, 0x7f), (0x17f, 0x17f), (0x212a, 0x212a)], 26168⟩,
  ⟨["4.0", "v40"], [(0x0, 0x7f), (0x17f, 0x17f), (0x212a, 0x212a)], 27036⟩,
  ⟨["4.1", "v41"], [(0x0, 0x7f), (0x17f, 0x17f), (0x212a, 0x212a)], 28856⟩,
  ⟨["5.0", "v50"], [(0x0, 0x7f), (0x17f, 0x17f), (0x212a, 0x212a)], 29516⟩,
  ⟨["5.1", "v51"], [(0x0, 0x7f), (0x17f, 0x17f), (0x212a, 0x212a)], 30896⟩,
  ⟨["5.2", "v52"], [(0x0, 0x7f), (0x17f, 0x17f), (0x212a, 0x212a)], 33396⟩,
  ⟨["6.0", "v60"], [(0x0, 0x7f), (0x17f, 0x17f), (0x212a, 0x212a)], 35372⟩,
  ⟨["6.1", "v61"], [(0x0, 0x7f), (0x17f, 0x17f), (0x212a, 0x212a)], 37328⟩,
  ⟨["6.2", "v62"], [(0x0, 0x7f), (0x17f, 0x17f), (0x212a, 0x212a)], 37328⟩,
  ⟨["6.3", "v63"], [(0x0, 0x7f), (0x17f, 0x17f), (0x212a, 0x212a)], 37328⟩,
  ⟨["7.0", "v70"], [(0x0, 0x7f), (0x17f, 0x17f), (0x212a, 0x212a)], 41708⟩,
  ⟨["8.0", "v80"], [(0x0, 0x7f), (0x17f, 0x17f), (0x212a, 0x212a)], 42712⟩,
  ⟨["9.0", "v90"], [(0x0, 0x7f), (0x17f, 0x17f), (0x212a, 0x212a)], 44408⟩,
  ⟨["10.0", "v100"], [(0x0, 0x7f), (0x17f, 0x17f), (0x212a, 0x212a)], 45612⟩,
  ⟨["11.0", "v110"], [(0x0, 0x7f), (0x17f, 0x17f), (0x212a, 0x212a)], 46740⟩,
  ⟨["12.0", "v120"], [(0x0, 0x7f), (0x17f, 0x17f), (0x212a, 0x212a)], 47508⟩,
  ⟨["12.1", "v121"], [(0x0, 0x7f), (0x17f, 0x17f), (0x212a, 0x212a)], 47564⟩,
  ⟨["13.0", "v130"], [(0x0, 0x7f), (0x17f, 0x17f), (0x212a, 0x212a)], 48372⟩,
  ⟨["14.0", "v140"], [(0x0, 0x7f), (0x17f, 0x17f), (0x212a, 0x212a)], 49128⟩,
  ⟨["15.0", "v150"], [(0x0, 0x7f), (0x17f, 0x17f), (0x212a, 0x212a)], 50192⟩,
  ⟨["16.0", "v160"], [(0x0, 0x7f), (0x17f, 0x17f), (0x212a, 0x212a)], 41000⟩]

/-- The classes that tell where graphemes end. -/
def graphemeBreaks : List Property := [
  ⟨["cn", "control"], [(0x0, 0x9), (0xb, 0xc), (0xe, 0x1f), (0x7f, 0x7f)], 1556⟩,
  ⟨["cr"], [(0xd, 0xd)], 32⟩,
  ⟨["ex", "extend"], [], 19632⟩,
  ⟨["l"], [], 332⟩,
  ⟨["lf"], [(0xa, 0xa)], 32⟩,
  ⟨["lv"], [], 20188⟩,
  ⟨["lvt"], [], 25620⟩,
  ⟨["pp", "prepend"], [], 1180⟩,
  ⟨["ri", "regionalindicator"], [], 196⟩,
  ⟨["sm", "spacingmark"], [], 9312⟩,
  ⟨["t"], [], 332⟩,
  ⟨["v"], [], 400⟩,
  ⟨["zwj"], [], 164⟩]

/-- The classes that tell where words end. -/
def wordBreaks : List Property := [
  ⟨["cr"], [(0xd, 0xd)], 32⟩,
  ⟨["dq", "doublequote"], [(0x22, 0x22)], 32⟩,
  ⟨["ex", "extendnumlet"], [(0x5f, 0x5f)], 576⟩,
  ⟨["extend"], [], 18512⟩,
  ⟨["fo", "format"], [], 1680⟩,
  ⟨["hl", "hebrewletter"], [], 552⟩,
  ⟨["ka", "katakana"], [], 1288⟩,
  ⟨["le", "aletter"], [(0x41, 0x5a), (0x61, 0x7a), (0x17f, 0x17f), (0x212a, 0x212a)], 35104⟩,
  ⟨["lf"], [(0xa, 0xa)], 32⟩,
  ⟨["mb", "midnumlet"], [(0x2e, 0x2e)], 440⟩,
  ⟨["ml", "midletter"], [(0x3a, 0x3a)], 708⟩,
  ⟨["mn", "midnum"], [(0x2c, 0x2c), (0x3b, 0x3b)], 920⟩,
  ⟨["nl", "newline"], [(0xb, 0xc)], 268⟩,
  ⟨["nu", "numeric"], [(0x30, 0x39)], 4740⟩,
  ⟨["ri", "regionalindicator"], [], 196⟩,
  ⟨["sq", "singlequote"], [(0x27, 0x27)], 32⟩,
  ⟨["wsegspace"], [(0x20, 0x20)], 504⟩,
  ⟨["zwj"], [], 164⟩]

/-- The classes that tell where sentences end. -/
def sentenceBreaks : List Property := [
  ⟨["at", "aterm"], [(0x2e, 0x2e)], 368⟩,
  ⟨["cl", "close"],
    [(0x22, 0x22), (0x27, 0x29), (0x5b, 0x5b), (0x5d, 0x5d), (0x7b, 0x7b), (0x7d, 0x7d)],
    2616⟩,
  ⟨["cr"], [(0xd, 0xd)], 32⟩,
  ⟨["ex", "extend"], [], 18412⟩,
  ⟨["fo", "format"], [], 1716⟩,
  ⟨["le", "oletter"], [], 34632⟩,
  ⟨["lf"], [(0xa, 0xa)], 32⟩,
  ⟨["lo", "lower"], [(0x61, 0x7a), (0x17f, 0x17f)], 28008⟩,
  ⟨["nu", "numeric"], [(0x30, 0x39)], 4740⟩,
  ⟨["sc", "scontinue"], [(0x2c, 0x2d), (0x3a, 0x3a)], 1196⟩,
  ⟨["se", "sep"], [], 232⟩,
  ⟨["sp"], [(0x9, 0x9), (0xb, 0xc), (0x20, 0x20)], 644⟩,
  ⟨["st", "sterm"], [(0x21, 0x21), (0x3f, 0x3f)], 5304⟩,
  ⟨["up", "upper"], [(0x41, 0x5a), (0x212a, 0x212a)], 26832⟩]

/-- The names of a category and of scripts that no character has. -/
def withoutCharacters : List String :=
  ["cs", "surrogate", "hrkt", "katakanaorhiragana", "zzzz", "unknown"]

/-- The names of properties that have no values to ask for. -/
def withoutValues : List String := [
  "bc", "bidiclass", "blk", "block", "bmg", "bidimirroringglyph", "bpb", "bidipairedbracket", "bpt",
  "bidipairedbrackettype", "cf", "casefolding", "ccc", "canonicalcombiningclass", "dm",
  "decompositionmapping", "dt", "decompositiontype", "ea", "eastasianwidth", "hst",
  "hangulsyllabletype", "inpc", "indicpositionalcategory", "insc", "indicsyllabiccategory", "isc",
  "ocomment", "jg", "joininggroup", "jt", "joiningtype", "lb", "linebreak", "lc",
  "lowercasemapping", "na", "name", "na1", "unicode1name", "nt", "numerictype", "nv",
  "numericvalue", "scf", "simplecasefolding", "sfc", "slc", "simplelowercasemapping", "stc",
  "simpletitlecasemapping", "suc", "simpleuppercasemapping", "tc", "titlecasemapping", "uc",
  "uppercasemapping", "vo", "verticalorientation", "fcnfkc", "nfkccf", "nfkccasefold", "nfkcscf",
  "cjkaccountingnumeric", "cjkothernumeric", "cjkprimarynumeric", "cjkcompatibilityvariant",
  "cjkiicore", "cjkirggsource", "cjkirghsource", "cjkirgjsource", "cjkirgkpsource", "cjkirgksource",
  "cjkirgmsource", "cjkirgssource", "cjkirgtsource", "cjkirguksource", "cjkirgusource",
  "cjkirgvsource", "cjkrsunicode", "equideo", "equivalentunifiedideograph", "namealias", "nfcqc",
  "nfcquickcheck", "nfdqc", "nfdquickcheck", "nfkcqc", "nfkcquickcheck", "nfkdqc", "nfkdquickcheck",
  "xonfc", "xonfd", "xonfkc", "xonfkd", "ce", "compositionexclusion", "compex",
  "fullcompositionexclusion", "bidim", "bidimirrored", "cwkcf", "changeswhennfkccasefolded",
  "kaccountingnumeric", "kothernumeric", "kprimarynumeric", "kcompatibilityvariant", "kiicore",
  "kirggsource", "kirghsource", "kirgjsource", "kirgkpsource", "kirgksource", "kirgmsource",
  "kirgssource", "kirgtsource", "kirguksource", "kirgusource", "kirgvsource", "krsunicode",
  "unicoderadicalstroke", "urs", "fcnfkcclosure", "expandsonnfc", "expandsonnfd", "expandsonnfkc",
  "expandsonnfkd", "nfkcsimplecasefold", "incb", "indicconjunctbreak", "kehcat"]

end Property

end ToolPolicy.Regex
