import StylePrune.Pattern.Expression
import StylePrune.Text.Age
import StylePrune.Text.Segment

/-!
Classes of characters that a pattern names.

`classNamed` looks a class up by its name, or by the name of a property and of its value. Names are
compared in lower case and without blanks, hyphens and underscores.
-/
namespace StylePrune.Pattern

/-- The general categories with their long names. A category of one letter stands for all that start
with it. -/
def categories : List (String × List String) :=
  [("L", ["letter"]), ("LC", ["casedletter"]), ("Lu", ["uppercaseletter"]), ("Ll", ["lowercaseletter"]),
   ("Lt", ["titlecaseletter"]), ("Lm", ["modifierletter"]), ("Lo", ["otherletter"]),
   ("M", ["mark", "combiningmark"]), ("Mn", ["nonspacingmark"]), ("Mc", ["spacingmark"]),
   ("Me", ["enclosingmark"]), ("N", ["number"]), ("Nd", ["decimalnumber", "digit"]),
   ("Nl", ["letternumber"]), ("No", ["othernumber"]), ("P", ["punctuation", "punct"]),
   ("Pc", ["connectorpunctuation"]), ("Pd", ["dashpunctuation"]), ("Ps", ["openpunctuation"]),
   ("Pe", ["closepunctuation"]), ("Pi", ["initialpunctuation"]), ("Pf", ["finalpunctuation"]),
   ("Po", ["otherpunctuation"]), ("S", ["symbol"]), ("Sm", ["mathsymbol"]), ("Sc", ["currencysymbol"]),
   ("Sk", ["modifiersymbol"]), ("So", ["othersymbol"]), ("Z", ["separator"]), ("Zs", ["spaceseparator"]),
   ("Zl", ["lineseparator"]), ("Zp", ["paragraphseparator"]), ("C", ["other"]), ("Cc", ["control", "cntrl"]),
   ("Cf", ["format"]), ("Co", ["privateuse"]), ("Cn", ["unassigned"])]

/-- Properties that a value goes with and that no class can be made of. -/
def otherProperties : List String :=
  ["cjkaccountingnumeric", "kaccountingnumeric", "cjkothernumeric", "kothernumeric", "cjkprimarynumeric",
   "kprimarynumeric", "nv", "numericvalue", "bmg", "bidimirroringglyph", "bpb", "bidipairedbracket", "cf",
   "casefolding", "cjkcompatibilityvariant", "kcompatibilityvariant", "dm", "decompositionmapping",
   "equideo", "equivalentunifiedideograph", "fcnfkc", "fcnfkcclosure", "lc", "lowercasemapping", "nfkccf",
   "nfkccasefold", "nfkcscf", "nfkcsimplecasefold", "scf", "simplecasefolding", "sfc", "slc",
   "simplelowercasemapping", "stc", "simpletitlecasemapping", "suc", "simpleuppercasemapping", "tc",
   "titlecasemapping", "uc", "uppercasemapping", "cjkiicore", "kiicore", "cjkirggsource", "kirggsource",
   "cjkirghsource", "kirghsource", "cjkirgjsource", "kirgjsource", "cjkirgkpsource", "kirgkpsource",
   "cjkirgksource", "kirgksource", "cjkirgmsource", "kirgmsource", "cjkirgssource", "kirgssource",
   "cjkirgtsource", "kirgtsource", "cjkirguksource", "kirguksource", "cjkirgusource", "kirgusource",
   "cjkirgvsource", "kirgvsource", "cjkrsunicode", "krsunicode", "unicoderadicalstroke", "urs", "isc",
   "isocomment", "jsn", "jamoshortname", "kehcat", "kehdesc", "kehhg", "kehifao", "kehjsesh", "na", "name",
   "na1", "unicode1name", "namealias", "blk", "block", "bc", "bidiclass", "bpt", "bidipairedbrackettype",
   "ccc", "canonicalcombiningclass", "dt", "decompositiontype", "ea", "eastasianwidth", "hst",
   "hangulsyllabletype", "incb", "indicconjunctbreak", "inpc", "indicpositionalcategory", "insc",
   "indicsyllabiccategory", "jg", "joininggroup", "jt", "joiningtype", "lb", "linebreak", "nfcqc",
   "nfcquickcheck", "nfdqc", "nfdquickcheck", "nfkcqc", "nfkcquickcheck", "nfkdqc", "nfkdquickcheck", "nt",
   "numerictype", "vo", "verticalorientation", "ce", "compositionexclusion", "compex",
   "fullcompositionexclusion", "cwkcf", "changeswhennfkccasefolded", "xonfc", "expandsonnfc", "xonfd",
   "expandsonnfd", "xonfkc", "expandsonnfkc", "xonfkd", "expandsonnfkd", "kehnomirror", "kehnorotate"]

/-- Names of scripts without characters. -/
def emptyScripts : List String := ["unknown", "zzzz", "katakanaorhiragana", "hrkt"]

/-- A name without blanks, hyphens and underscores, in lower case, and without `is` in front. -/
def plainName (name : Text) : Text :=
  let low := Text.lowerAscii name
  let rest := match low with
    | 'i' :: 's' :: r => r
    | r => r
  let kept := rest.filter fun c => c.toNat < 128 && c != ' ' && c != '_' && c != '-'
  if kept = ['c'] && low ≠ rest then "isc".toList else kept

/-- A general category by a plain name. -/
def categoryNamed? (name : Text) : Option CharSet :=
  if name = "any".toList then some .all
  else if name = "assigned".toList then some (.not (.having (Text.isOfCategory ["Cn"])))
  else if name = "ascii".toList then some (.range (Char.ofNat 0) (Char.ofNat 127))
  else
    (categories.find? fun e => Text.lowerAscii e.1.toList = name || e.2.any (·.toList = name)).map fun e =>
      .having (Text.isOfCategory (if e.1 = "LC" then ["Lu", "Ll", "Lt"] else [e.1]))

/-- A property that a name or a value belongs to. -/
inductive PropertyKind where
  | category
  | script
  | scriptUse
  | age
  | cluster
  | wordPlace
  | sentencePlace
  | trait (t : Text.Trait)
  | other

/-- A property by its plain name. -/
def PropertyKind.named? (name : Text) : Option PropertyKind :=
  match Text.Trait.named? name with
  | some t => some (.trait t)
  | none => match String.ofList name with
    | "gc" | "generalcategory" | "category" => some .category
    | "sc" | "script" => some .script
    | "scx" | "scriptextensions" => some .scriptUse
    | "age" => some .age
    | "gcb" | "graphemeclusterbreak" => some .cluster
    | "wb" | "wordbreak" => some .wordPlace
    | "sb" | "sentencebreak" => some .sentencePlace
    | _ => if otherProperties.any (·.toList = name) then some .other else none

/-- The characters with a value of a property. -/
def PropertyKind.withValue? (kind : PropertyKind) (value : Text) : Option CharSet :=
  match kind with
  | .category => categoryNamed? value
  | .script => (Text.Script.named? value).map fun s => .having s.has
  | .scriptUse => (Text.Script.named? value).map fun s => .having s.extendsTo
  | .age => (Text.Age.named? value).map fun i => .having (Text.Age.upTo i)
  | .cluster => (Text.ClusterPlace.names.find? fun e => e.2.any (·.toList = value)).map fun e =>
    .having fun c => Text.ClusterPlace.of? c == some e.1
  | .wordPlace => (Text.WordPlace.names.find? fun e => e.2.any (·.toList = value)).map fun e =>
    .having fun c => Text.WordPlace.of? c == some e.1
  | .sentencePlace => (Text.SentencePlace.names.find? fun e => e.2.any (·.toList = value)).map fun e =>
    .having fun c => Text.SentencePlace.of? c == some e.1
  | .trait _ | .other => none

/-- The class that one name stands for: a trait, a general category or a script. The names `cf`, `lc` and
`sc` are those of categories. -/
def classOfName (name : Text) : Except Cause CharSet :=
  let isCategory := ["cf", "lc", "sc"].any (·.toList = name)
  match (if isCategory then none else PropertyKind.named? name) with
  | some (.trait t) => .ok (.having t.holds)
  | some _ => .error .unknownProperty
  | none => match categoryNamed? name with
    | some s => .ok s
    | none => match Text.Script.named? name with
      | some s => .ok (.having s.has)
      | none =>
        if emptyScripts.any (·.toList = name) || name = "cs".toList || name = "surrogate".toList then
          .error .unknownPropertyValue
        else .error .unknownProperty

/-- The class that a name stands for, or a property and the name of its value. -/
def classNamed (name : Text) (value : Option Text) : Except Cause CharSet :=
  match value with
  | none => classOfName (plainName name)
  | some v => match PropertyKind.named? (plainName name) with
    | none => .error .unknownProperty
    | some kind => match kind.withValue? (plainName v) with
      | some s => .ok s
      | none => .error .unknownPropertyValue

/-- A class of ASCII characters by its name. -/
def asciiNamed? (name : Text) : Option CharSet :=
  let upper := CharSet.range 'A' 'Z'
  let lower := CharSet.range 'a' 'z'
  let digit := CharSet.range '0' '9'
  let letter := CharSet.union upper lower
  let punct := CharSet.union (.union (.range '!' '/') (.range ':' '@')) (.union (.range '[' '\x60') (.range '\x7b' '~'))
  match String.ofList name with
  | "alnum" => some (.union letter digit)
  | "alpha" => some letter
  | "ascii" => some (.range (Char.ofNat 0) (Char.ofNat 127))
  | "blank" => some (.union (.only '\t') (.only ' '))
  | "cntrl" => some (.union (.range (Char.ofNat 0) (Char.ofNat 31)) (.only (Char.ofNat 127)))
  | "digit" => some digit
  | "graph" => some (.range '!' '~')
  | "lower" => some lower
  | "print" => some (.range ' ' '~')
  | "punct" => some punct
  | "space" => some (.blank true)
  | "upper" => some upper
  | "word" => some (.word true)
  | "xdigit" => some (.union digit (.union (.range 'A' 'F') (.range 'a' 'f')))
  | _ => none

end StylePrune.Pattern
