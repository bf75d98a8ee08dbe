import ScriptSandbox.Unicode.Property

/-!
# Names of properties

The standard knows more properties than have a table here. Their names are known all the same:
to ask for one is another fault than to ask for a property that there is not.
-/

namespace ScriptSandbox.Unicode

/-- The loose names of the properties that are not binary or have no table. -/
def otherPropertyNames : List String := [
  "age", "bc", "bidiclass", "bidimirroringglyph", "bidipairedbracket",
  "bidipairedbrackettype", "blk", "block", "bmg", "bpb", "bpt", "canonicalcombiningclass",
  "casefolding", "ccc", "ce", "cf", "changeswhennfkccasefolded", "cjkaccountingnumeric",
  "cjkcompatibilityvariant", "cjkiicore", "cjkirggsource", "cjkirghsource", "cjkirgjsource",
  "cjkirgkpsource", "cjkirgksource", "cjkirgmsource", "cjkirgssource", "cjkirgtsource",
  "cjkirguksource", "cjkirgusource", "cjkirgvsource", "cjkothernumeric", "cjkprimarynumeric",
  "cjkrsunicode", "compex", "compositionexclusion", "cwkcf", "decompositionmapping",
  "decompositiontype", "dm", "dt", "ea", "eastasianwidth", "equideo",
  "equivalentunifiedideograph", "expandsonnfc", "expandsonnfd", "expandsonnfkc", "expandsonnfkd",
  "fcnfkc", "fcnfkcclosure", "fullcompositionexclusion", "gc", "gcb", "generalcategory",
  "graphemeclusterbreak", "hangulsyllabletype", "hst", "incb", "indicconjunctbreak",
  "indicpositionalcategory", "indicsyllabiccategory", "inpc", "insc", "isc",
  "jamoshortname", "jg", "joininggroup", "joiningtype", "jsn", "jt", "kaccountingnumeric",
  "kcompatibilityvariant", "kehcat", "kehdesc", "kehhg", "kehifao", "kehjsesh", "kehnomirror",
  "kehnorotate", "kiicore", "kirggsource", "kirghsource", "kirgjsource", "kirgkpsource",
  "kirgksource", "kirgmsource", "kirgssource", "kirgtsource", "kirguksource", "kirgusource",
  "kirgvsource", "kothernumeric", "kprimarynumeric", "krsunicode", "lb", "lc", "linebreak",
  "lowercasemapping", "na", "na1", "name", "namealias", "nfcqc", "nfcquickcheck", "nfdqc",
  "nfdquickcheck", "nfkccasefold", "nfkccf", "nfkcqc", "nfkcquickcheck", "nfkcscf",
  "nfkcsimplecasefold", "nfkdqc", "nfkdquickcheck", "nt", "numerictype", "numericvalue", "nv",
  "ocomment", "sb", "sc", "scf", "script", "scriptextensions", "scx", "sentencebreak", "sfc",
  "simplecasefolding", "simplelowercasemapping", "simpletitlecasemapping",
  "simpleuppercasemapping", "slc", "stc", "suc", "tc", "titlecasemapping", "uc", "unicode1name",
  "unicoderadicalstroke", "uppercasemapping", "urs", "verticalorientation", "vo", "wb",
  "wordbreak", "xonfc", "xonfd", "xonfkc", "xonfkd"]

/-- Whether a loose name is that of a property of the standard. -/
def isPropertyName (name : String) : Bool :=
  otherPropertyNames.contains name || (find? properties name).isSome

/-- The loose names of the values, of a general category or a script, that no character has. -/
def valuesWithoutChars : List String :=
  ["cs", "surrogate", "hrkt", "katakanaorhiragana", "zzzz", "unknown"]

end ScriptSandbox.Unicode
