/-!
The names of character properties that a pattern may use.

A name is compared without case, blanks, hyphens and underscores, and without a leading `is`.
-/

namespace Compliance.Pattern

private def words (lines : List String) : List String := lines.flatMap fun line => line.splitOn " "

def binaryProperties : List String := words [
  "ahex alpha alphabetic asciihexdigit bidic bidicontrol bidim bidimirrored cased caseignorable",
  "changeswhencasefolded changeswhencasemapped changeswhenlowercased changeswhentitlecased",
  "changeswhenuppercased ci cwcf cwcm cwl cwt cwu dash defaultignorablecodepoint dep deprecated",
  "di dia diacritic ebase ecomp emod emoji emojicomponent emojimodifier emojimodifierbase",
  "emojipresentation epres ext extendedpictographic extender extpict graphemebase graphemeextend",
  "graphemelink grbase grext hex hexdigit hyphen idc idcompatmathcontinue idcompatmathstart",
  "idcontinue ideo ideographic ids idsb idsbinaryoperator idst idstart idstrinaryoperator idsu",
  "idsunaryoperator joinc joincontrol loe logicalorderexception lower lowercase math mcm",
  "modifiercombiningmark nchar noncharactercodepoint oalpha odi ogrext oidc oids olower omath",
  "otheralphabetic otherdefaultignorablecodepoint othergraphemeextend otheridcontinue",
  "otheridstart otherlowercase othermath otheruppercase oupper patsyn patternsyntax",
  "patternwhitespace patws pcm prependedconcatenationmark qmark quotationmark radical",
  "regionalindicator ri sd sentenceterminal softdotted space sterm term terminalpunctuation",
  "uideo unifiedideograph upper uppercase variationselector vs whitespace wspace xidc",
  "xidcontinue xids xidstart"]

def generalCategories : List String := words [
  "c casedletter cc cf closepunctuation cn cntrl co combiningmark connectorpunctuation control",
  "currencysymbol dashpunctuation decimalnumber digit enclosingmark finalpunctuation format",
  "initialpunctuation l lc letter letternumber lineseparator ll lm lo lowercaseletter lt lu m",
  "mark mathsymbol mc me mn modifierletter modifiersymbol n nd nl no nonspacingmark number",
  "openpunctuation other otherletter othernumber otherpunctuation othersymbol p",
  "paragraphseparator pc pd pe pf pi po privateuse ps punct punctuation s sc separator sk sm so",
  "spaceseparator spacingmark symbol titlecaseletter unassigned uppercaseletter z zl zp zs any",
  "assigned ascii"]

def scripts : List String := words [
  "adlam adlm aghb ahom anatolianhieroglyphs arab arabic armenian armi armn avestan avst bali",
  "balinese bamu bamum bass bassavah batak batk beng bengali bhaiksuki bhks bopo bopomofo brah",
  "brahmi brai braille bugi buginese buhd buhid cakm canadianaboriginal cans cari carian",
  "caucasianalbanian chakma cham cher cherokee chorasmian chrs common copt coptic cpmn cprt",
  "cuneiform cypriot cyprominoan cyrillic cyrl deseret deva devanagari diak divesakuru dogr",
  "dogra dsrt dupl duployan egyp egyptianhieroglyphs elba elbasan elym elymaic ethi ethiopic",
  "gara garay geor georgian glag glagolitic gong gonm goth gothic gran grantha greek grek",
  "gujarati gujr gukh gunjalagondi gurmukhi guru gurungkhema han hang hangul hani hanifirohingya",
  "hano hanunoo hatr hatran hebr hebrew hira hiragana hluw hmng hmnp hung imperialaramaic",
  "inherited inscriptionalpahlavi inscriptionalparthian ital java javanese kaithi kali kana",
  "kannada katakana kawi kayahli khar kharoshthi khitansmallscript khmer khmr khoj khojki",
  "khudawadi kiratrai kits knda krai kthi lana lao laoo latin latn lepc lepcha limb limbu lina",
  "linb lineara linearb lisu lyci lycian lydi lydian mahajani mahj maka makasar malayalam mand",
  "mandaic mani manichaean marc marchen masaramgondi medefaidrin medf meeteimayek mend",
  "mendekikakui merc mero meroiticcursive meroitichieroglyphs miao mlym modi mong mongolian mro",
  "mroo mtei mult multani myanmar mymr nabataean nagm nagmundari nand nandinagari narb nbat newa",
  "newtailue nko nkoo nshu nushu nyiakengpuachuehmong ogam ogham olchiki olck oldhungarian",
  "olditalic oldnortharabian oldpermic oldpersian oldsogdian oldsoutharabian oldturkic olduyghur",
  "olonal onao oriya orkh orya osage osge osma osmanya ougr pahawhhmong palm palmyrene pauc",
  "paucinhau perm phag phagspa phli phlp phnx phoenician plrd prti psalterpahlavi qaac qaai",
  "rejang rjng rohg runic runr samaritan samr sarb saur saurashtra sgnw sharada shavian shaw",
  "shrd sidd siddham signwriting sind sinh sinhala sogd sogdian sogo sora sorasompeng soyo",
  "soyombo sund sundanese sunu sunuwar sylo sylotinagri syrc syriac tagalog tagb tagbanwa taile",
  "taitham taiviet takr takri tale talu tamil taml tang tangsa tangut tavt telu telugu tfng tglg",
  "thaa thaana thai tibetan tibt tifinagh tirh tirhuta tnsa todhri todr toto tulutigalari tutg",
  "ugar ugaritic vai vaii vith vithkuqi wancho wara warangciti wcho xpeo xsux yezi yezidi yi",
  "yiii zanabazarsquare zanb zinh zyyy"]

def ages : List String := words [
  "1.1 10.0 11.0 12.0 12.1 13.0 14.0 15.0 2.0 2.1 3.0 3.1 3.2 4.0 4.1 5.0 5.1 5.2 6.0 6.1 6.2",
  "6.3 7.0 8.0 9.0 v100 v11 v110 v120 v121 v130 v140 v150 v20 v21 v30 v31 v32 v40 v41 v50 v51",
  "v52 v60 v61 v62 v63 v70 v80 v90 15.1 16.0 v151 v160"]

def graphemeBreaks : List String := words [
  "cr cn control ex extend l lf lv lvt pp prepend ri regionalindicator sm spacingmark t v zwj"]

def wordBreaks : List String := words [
  "le aletter cr dq doublequote extend ex extendnumlet fo format hl hebrewletter ka katakana lf",
  "ml midletter mn midnum mb midnumlet nl newline nu numeric ri regionalindicator sq singlequote",
  "wsegspace zwj"]

def sentenceBreaks : List String := words [
  "at aterm cr cl close ex extend fo format lf lo lower nu numeric le oletter sc scontinue st",
  "sterm se sep sp up upper"]

private def looseChars (name : List Char) : List Char :=
  (name.filter fun c => c ≠ ' ' && c ≠ '_' && c ≠ '-' && c.toNat < 0x80).map Char.toLower

/-- The name as it is compared. The one name that a leading `is` would leave with a single c keeps it. -/
def looseName (name : List Char) : String :=
  let stripped := match name with
    | a :: b :: rest => if a.toLower = 'i' ∧ b.toLower = 's' then rest else name
    | _ => name
  let loose := looseChars stripped
  String.ofList (if stripped.length < name.length ∧ loose = ['c'] then looseChars name else loose)

def isProperty (name : List Char) : Bool :=
  let loose := looseName name
  binaryProperties.contains loose || generalCategories.contains loose || scripts.contains loose

def propertyValues? (property : String) : Option (List String) :=
  match property with
  | "gc" | "generalcategory" => some generalCategories
  | "sc" | "script" | "scx" | "scriptextensions" => some scripts
  | "age" => some ages
  | "gcb" | "graphemeclusterbreak" => some graphemeBreaks
  | "wb" | "wordbreak" => some wordBreaks
  | "sb" | "sentencebreak" => some sentenceBreaks
  | _ => none

def isPropertyValue (property value : List Char) : Bool :=
  match propertyValues? (looseName property) with
  | some values => values.contains (looseName value)
  | none => false

def largeClasses : List (Nat × List String) := [
  (48000, words [
    "alpha alphabetic assigned c cn graphemebase grbase idc idcontinue ids idstart l letter",
    "other unassigned xidc xidcontinue xids xidstart"]),
  (34500, words ["lo otherletter"]),
  (27000, words [
    "caseignorable changeswhencasefolded changeswhenlowercased changeswhentitlecased",
    "changeswhenuppercased ci cwcf cwl cwt cwu ll lower lowercase lowercaseletter lu upper",
    "uppercase uppercaseletter"]),
  (19500, words ["combiningmark graphemeextend grext m mark mn nonspacingmark"]),
  (13000, words [
    "common dia diacritic othersymbol p po otherpunctuation punct punctuation s so symbol zyyy"]),
  (10000, words [
    "cased casedletter changeswhencasemapped cwcm emoji extendedpictographic extpict lc math mc",
    "n number spacingmark term terminalpunctuation"])]

def classBytes (name : List Char) : Nat :=
  match largeClasses.find? fun (_, names) => names.contains (looseName name) with
  | some (bytes, _) => bytes
  | none => 3000

end Compliance.Pattern
