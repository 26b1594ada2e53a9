import WorkItems.Unicode.Category
import WorkItems.Unicode.Property
import WorkItems.Unicode.Script
import WorkItems.Unicode.ScriptExtension
/-!
# Classes of characters by name

`classNamed?` finds a binary property, a general category or a script by one of its names, and
`classValued?` a category or a script by the name of the property and of the value. Names are
compared loosely, as the Unicode standard recommends: without case, blanks, hyphens, underscores and
a leading `is`.
-/

namespace WorkItems.Unicode

/-- Whether a character does not count in a name. -/
def isFiller (c : Char) : Bool := c == ' ' || c == '_' || c == '-' || 128 ≤ c.toNat

/-- The letters of a name that count, in lower case. -/
def nameLetters (cs : List Char) : List Char := (cs.filter (!isFiller ·)).map Char.toLower

/--
A name in the form in which names are compared. The abbreviation `isc` keeps its first letters.
-/
def looseName (name : List Char) : String :=
  if (name.take 2).map Char.toLower = ['i', 's'] then
    let rest := nameLetters (name.drop 2)
    String.ofList (if rest = ['c'] then ['i', 's', 'c'] else rest)
  else String.ofList (nameLetters name)

/-! ## General categories -/

def letters : List CharSet := [categoryLu, categoryLl, categoryLt, categoryLm, categoryLo]

def marks : List CharSet := [categoryMn, categoryMc, categoryMe]

def numbers : List CharSet := [categoryNd, categoryNl, categoryNo]

def punctuation : List CharSet :=
  [categoryPc, categoryPd, categoryPs, categoryPe, categoryPi, categoryPf, categoryPo]

def symbols : List CharSet := [categorySm, categorySc, categorySk, categorySo]

def separators : List CharSet := [categoryZs, categoryZl, categoryZp]

def others : List CharSet := [categoryCc, categoryCf, categoryCn, categoryCo]

/-- A general category or a group of them, by a loose name. Surrogates are no characters. -/
def category? : String → Option CharSet
  | "any" => some .all
  | "assigned" => some (.complement categoryCn)
  | "ascii" => some (.interval 0 0x7F)
  | "l" | "letter" => some (.unions letters)
  | "lc" | "casedletter" => some (.unions [categoryLu, categoryLl, categoryLt])
  | "lu" | "uppercaseletter" => some categoryLu
  | "ll" | "lowercaseletter" => some categoryLl
  | "lt" | "titlecaseletter" => some categoryLt
  | "lm" | "modifierletter" => some categoryLm
  | "lo" | "otherletter" => some categoryLo
  | "m" | "mark" | "combiningmark" => some (.unions marks)
  | "mn" | "nonspacingmark" => some categoryMn
  | "mc" | "spacingmark" => some categoryMc
  | "me" | "enclosingmark" => some categoryMe
  | "n" | "number" => some (.unions numbers)
  | "nd" | "decimalnumber" | "digit" => some categoryNd
  | "nl" | "letternumber" => some categoryNl
  | "no" | "othernumber" => some categoryNo
  | "p" | "punctuation" | "punct" => some (.unions punctuation)
  | "pc" | "connectorpunctuation" => some categoryPc
  | "pd" | "dashpunctuation" => some categoryPd
  | "ps" | "openpunctuation" => some categoryPs
  | "pe" | "closepunctuation" => some categoryPe
  | "pi" | "initialpunctuation" => some categoryPi
  | "pf" | "finalpunctuation" => some categoryPf
  | "po" | "otherpunctuation" => some categoryPo
  | "s" | "symbol" => some (.unions symbols)
  | "sm" | "mathsymbol" => some categorySm
  | "sc" | "currencysymbol" => some categorySc
  | "sk" | "modifiersymbol" => some categorySk
  | "so" | "othersymbol" => some categorySo
  | "z" | "separator" => some (.unions separators)
  | "zs" | "spaceseparator" => some categoryZs
  | "zl" | "lineseparator" => some categoryZl
  | "zp" | "paragraphseparator" => some categoryZp
  | "c" | "other" => some (.unions others)
  | "cc" | "control" | "cntrl" => some categoryCc
  | "cf" | "format" => some categoryCf
  | "cn" | "unassigned" => some categoryCn
  | "co" | "privateuse" => some categoryCo
  | _ => none

/-! ## Properties and scripts -/

/-- The long names of properties by their abbreviations. -/
def propertyAliases : List (String × String) := [
  ("alpha", "alphabetic"), ("ci", "caseignorable"), ("lower", "lowercase"), ("upper", "uppercase"),
  ("space", "whitespace"), ("wspace", "whitespace"), ("joinc", "joincontrol"),
  ("ahex", "asciihexdigit"), ("hex", "hexdigit"), ("ideo", "ideographic"),
  ("epres", "emojipresentation"), ("extpict", "extendedpictographic"), ("ids", "idstart"),
  ("idc", "idcontinue"), ("xids", "xidstart"), ("xidc", "xidcontinue"),
  ("di", "defaultignorablecodepoint"), ("nchar", "noncharactercodepoint"),
  ("patws", "patternwhitespace"), ("patsyn", "patternsyntax"), ("qmark", "quotationmark"),
  ("dia", "diacritic"), ("ext", "extender"), ("uideo", "unifiedideograph"),
  ("vs", "variationselector"), ("ri", "regionalindicator"), ("sterm", "sentenceterminal"),
  ("term", "terminalpunctuation"), ("sd", "softdotted"), ("loe", "logicalorderexception"),
  ("grbase", "graphemebase"), ("grext", "graphemeextend"), ("emod", "emojimodifier"),
  ("ebase", "emojimodifierbase"), ("ecomp", "emojicomponent"), ("dep", "deprecated"),
  ("bidic", "bidicontrol"), ("bidim", "bidimirrored"), ("cwcf", "changeswhencasefolded"),
  ("cwcm", "changeswhencasemapped"), ("cwl", "changeswhenlowercased"),
  ("cwt", "changeswhentitlecased"), ("cwu", "changeswhenuppercased"),
  ("idsb", "idsbinaryoperator"), ("idst", "idstrinaryoperator")]

/-- The long names of scripts by their codes of four letters. -/
def scriptAliases : List (String × String) := [
  ("adlm", "adlam"), ("aghb", "caucasianalbanian"), ("arab", "arabic"),
  ("armi", "imperialaramaic"), ("armn", "armenian"), ("avst", "avestan"), ("bali", "balinese"),
  ("bamu", "bamum"), ("bass", "bassavah"), ("batk", "batak"), ("beng", "bengali"),
  ("bhks", "bhaiksuki"), ("bopo", "bopomofo"), ("brah", "brahmi"), ("brai", "braille"),
  ("bugi", "buginese"), ("buhd", "buhid"), ("cakm", "chakma"), ("cans", "canadianaboriginal"),
  ("cari", "carian"), ("cher", "cherokee"), ("chrs", "chorasmian"), ("copt", "coptic"),
  ("cpmn", "cyprominoan"), ("cprt", "cypriot"), ("cyrl", "cyrillic"), ("deva", "devanagari"),
  ("diak", "divesakuru"), ("dogr", "dogra"), ("dsrt", "deseret"), ("dupl", "duployan"),
  ("egyp", "egyptianhieroglyphs"), ("elba", "elbasan"), ("elym", "elymaic"), ("ethi", "ethiopic"),
  ("gara", "garay"), ("geor", "georgian"), ("glag", "glagolitic"), ("gong", "gunjalagondi"),
  ("gonm", "masaramgondi"), ("goth", "gothic"), ("gran", "grantha"), ("grek", "greek"),
  ("gujr", "gujarati"), ("gukh", "gurungkhema"), ("guru", "gurmukhi"), ("hang", "hangul"),
  ("hani", "han"), ("hano", "hanunoo"), ("hatr", "hatran"), ("hebr", "hebrew"),
  ("hira", "hiragana"), ("hluw", "anatolianhieroglyphs"), ("hmng", "pahawhhmong"),
  ("hmnp", "nyiakengpuachuehmong"), ("hung", "oldhungarian"), ("ital", "olditalic"),
  ("java", "javanese"), ("kali", "kayahli"), ("kana", "katakana"), ("khar", "kharoshthi"),
  ("khmr", "khmer"), ("khoj", "khojki"), ("kits", "khitansmallscript"), ("knda", "kannada"),
  ("krai", "kiratrai"), ("kthi", "kaithi"), ("lana", "taitham"), ("laoo", "lao"),
  ("latn", "latin"), ("lepc", "lepcha"), ("limb", "limbu"), ("lina", "lineara"),
  ("linb", "linearb"), ("lyci", "lycian"), ("lydi", "lydian"), ("mahj", "mahajani"),
  ("maka", "makasar"), ("mand", "mandaic"), ("mani", "manichaean"), ("marc", "marchen"),
  ("medf", "medefaidrin"), ("mend", "mendekikakui"), ("merc", "meroiticcursive"),
  ("mero", "meroitichieroglyphs"), ("mlym", "malayalam"), ("mong", "mongolian"), ("mroo", "mro"),
  ("mtei", "meeteimayek"), ("mult", "multani"), ("mymr", "myanmar"), ("nagm", "nagmundari"),
  ("nand", "nandinagari"), ("narb", "oldnortharabian"), ("nbat", "nabataean"), ("nkoo", "nko"),
  ("nshu", "nushu"), ("ogam", "ogham"), ("olck", "olchiki"), ("onao", "olonal"),
  ("orkh", "oldturkic"), ("orya", "oriya"), ("osge", "osage"), ("osma", "osmanya"),
  ("ougr", "olduyghur"), ("palm", "palmyrene"), ("pauc", "paucinhau"), ("perm", "oldpermic"),
  ("phag", "phagspa"), ("phli", "inscriptionalpahlavi"), ("phlp", "psalterpahlavi"),
  ("phnx", "phoenician"), ("plrd", "miao"), ("prti", "inscriptionalparthian"), ("qaac", "coptic"),
  ("qaai", "inherited"), ("rjng", "rejang"), ("rohg", "hanifirohingya"), ("runr", "runic"),
  ("samr", "samaritan"), ("sarb", "oldsoutharabian"), ("saur", "saurashtra"),
  ("sgnw", "signwriting"), ("shaw", "shavian"), ("shrd", "sharada"), ("sidd", "siddham"),
  ("sind", "khudawadi"), ("sinh", "sinhala"), ("sogd", "sogdian"), ("sogo", "oldsogdian"),
  ("sora", "sorasompeng"), ("soyo", "soyombo"), ("sund", "sundanese"), ("sunu", "sunuwar"),
  ("sylo", "sylotinagri"), ("syrc", "syriac"), ("tagb", "tagbanwa"), ("takr", "takri"),
  ("tale", "taile"), ("talu", "newtailue"), ("taml", "tamil"), ("tang", "tangut"),
  ("tavt", "taiviet"), ("telu", "telugu"), ("tfng", "tifinagh"), ("tglg", "tagalog"),
  ("thaa", "thaana"), ("tibt", "tibetan"), ("tirh", "tirhuta"), ("tnsa", "tangsa"),
  ("todr", "todhri"), ("tutg", "tulutigalari"), ("ugar", "ugaritic"), ("vaii", "vai"),
  ("vith", "vithkuqi"), ("wara", "warangciti"), ("wcho", "wancho"), ("xpeo", "oldpersian"),
  ("xsux", "cuneiform"), ("yezi", "yezidi"), ("yiii", "yi"), ("zanb", "zanabazarsquare"),
  ("zinh", "inherited"), ("zyyy", "common")]

/-- The name that an abbreviation stands for, or the name itself. -/
def longName (aliases : List (String × String)) (name : String) : String :=
  (aliases.lookup name).getD name

/-- A binary property by a loose name. -/
def property? (name : String) : Option CharSet :=
  match longName propertyAliases name with
  | "alphabetic" => some alphabetic
  | "cased" => some cased
  | "caseignorable" => some caseIgnorable
  | long => (propertyTable.lookup long).map CharSet.ofText

def script? (name : String) : Option CharSet :=
  (scriptTable.lookup (longName scriptAliases name)).map CharSet.ofText

def scriptExtension? (name : String) : Option CharSet :=
  (scriptExtensionTable.lookup (longName scriptAliases name)).map CharSet.ofText

/-- Categories with an abbreviation that is also one of a property of another kind. -/
def prefersCategory (name : String) : Bool := name == "cf" || name == "sc" || name == "lc"

/-- The class of a name that stands alone: a property, else a category, else a script. -/
def classNamed? (name : List Char) : Option CharSet :=
  let name := looseName name
  let property := if prefersCategory name then none else property? name
  (property.or (category? name)).or (script? name)

/-- The class of the characters for which the named property has the named value. -/
def classValued? (name value : List Char) : Option CharSet :=
  let value := looseName value
  match looseName name with
  | "gc" | "generalcategory" => category? value
  | "sc" | "script" => script? value
  | "scx" | "scriptextensions" => scriptExtension? value
  | _ => none

/-! ## Words -/

/-- The characters of words: letters, marks, digits, connectors and joiners. -/
def wordChars : CharSet :=
  .unions ([alphabetic, categoryNd, categoryPc, .interval 0x200C 0x200D] ++ marks)

/-- The characters with the property `White_Space`. -/
def blankChars : CharSet := (property? "whitespace").getD .empty

end WorkItems.Unicode
