/-
  LineLexer.Pattern.Property
  ──────────────────────────
  **PROPERTIES BY THEIR NAMES.**

  A pattern can ask for the characters with a property, with a value of a
  property, in a general category or of a script.  In a name, case, blanks,
  hyphens and low lines do not count, nor an `is` at the front:

      Lu  uppercase_letter  Uppercase-Letter  isLu    — the same
      gc=Lu  general_category=Lu                      — the same again
      Greek  sc=Grek  scx=Greek  age=3.0              — scripts and ages

  There are more properties than those whose characters are listed here, and
  their names are known as well: asking for one of them is another mistake
  than asking for one that does not exist.
-/
import LineLexer.Pattern.Property.Age
import LineLexer.Pattern.Property.Numeral
import LineLexer.Pattern.Property.Identifier
import LineLexer.Pattern.Property.SentenceBreak

namespace LineLexer.Pattern.Property

/-! ## §1. Names. -/

/-- Whether a name begins with `is`. -/
def beginsWithIs : Text → Bool
  | a :: b :: _ => a.toLower == 'i' && b.toLower == 's'
  | _ => false

/-- A name without what does not count in it.  An `is` that only `c` follows
counts: the two are the name of something else. -/
def normalize (name : Text) : Text :=
  let rest := if beginsWithIs name then name.drop 2 else name
  let kept := rest.filter (fun c => c.toNat < 128 && c != ' ' && c != '_' && c != '-')
  let lower := kept.map Char.toLower
  if beginsWithIs name && lower == ['c'] then ['i', 's', 'c'] else lower

/-! ## §2. Properties that a character has or has not. -/

/-- These properties. -/
def all : List Named :=
  Letter.all ++ CaseChange.all ++ Numeral.all ++ Identifier.all ++ Ideograph.all ++ Emoji.all ++
    Grapheme.all ++ Punctuation.all

/-! ## §3. Properties with values. -/

/-- A property with the sets that have its values, by its names. -/
def valued : List (List String × List Named) :=
  [(["gc", "generalcategory"], Category.all),
    (["sc", "script"], Script.all),
    (["scx", "scriptextensions"], Script.allUsed),
    (["age"], Age.all),
    (["gcb", "graphemeclusterbreak"], GraphemeBreak.all),
    (["wb", "wordbreak"], WordBreak.all),
    (["sb", "sentencebreak"], SentenceBreak.all)]

/-- The names of all other properties. -/
def unlisted : List String :=
  ["bc", "bidiclass", "bidimirroringglyph", "bidipairedbracket", "bidipairedbrackettype", "blk",
    "block", "bmg", "bpb", "bpt", "canonicalcombiningclass", "casefolding", "ccc", "ce", "cf",
    "changeswhennfkccasefolded", "cjkaccountingnumeric", "cjkcompatibilityvariant", "cjkiicore",
    "cjkirggsource", "cjkirghsource", "cjkirgjsource", "cjkirgkpsource", "cjkirgksource",
    "cjkirgmsource", "cjkirgssource", "cjkirgtsource", "cjkirguksource", "cjkirgusource",
    "cjkirgvsource", "cjkothernumeric", "cjkprimarynumeric", "cjkrsunicode", "compex",
    "compositionexclusion", "cwkcf", "decompositionmapping", "decompositiontype", "dm", "dt",
    "ea", "eastasianwidth", "equideo", "equivalentunifiedideograph", "expandsonnfc",
    "expandsonnfd", "expandsonnfkc", "expandsonnfkd", "fcnfkc", "fcnfkcclosure",
    "fullcompositionexclusion", "hangulsyllabletype", "hst", "incb", "indicconjunctbreak",
    "indicpositionalcategory", "indicsyllabiccategory", "inpc", "insc", "isc", "jamoshortname",
    "jg", "joininggroup", "joiningtype", "jsn", "jt", "kaccountingnumeric",
    "kcompatibilityvariant", "kehcat", "kehdesc", "kehhg", "kehifao", "kehjsesh", "kehnomirror",
    "kehnorotate", "kiicore", "kirggsource", "kirghsource", "kirgjsource", "kirgkpsource",
    "kirgksource", "kirgmsource", "kirgssource", "kirgtsource", "kirguksource", "kirgusource",
    "kirgvsource", "kothernumeric", "kprimarynumeric", "krsunicode", "lb", "lc", "linebreak",
    "lowercasemapping", "na", "na1", "name", "namealias", "nfcqc", "nfcquickcheck", "nfdqc",
    "nfdquickcheck", "nfkccasefold", "nfkccf", "nfkcqc", "nfkcquickcheck", "nfkcscf",
    "nfkcsimplecasefold", "nfkdqc", "nfkdquickcheck", "nt", "numerictype", "numericvalue", "nv",
    "ocomment", "scf", "sfc", "simplecasefolding", "simplelowercasemapping",
    "simpletitlecasemapping", "simpleuppercasemapping", "slc", "stc", "suc", "tc",
    "titlecasemapping", "uc", "unicode1name", "unicoderadicalstroke", "uppercasemapping", "urs",
    "verticalorientation", "vo", "xonfc", "xonfd", "xonfkc", "xonfkd"]

/-- Whether a property has the name. -/
def isProperty (name : Text) : Bool :=
  (Named.find? all name).isSome || unlisted.contains (String.ofList name) ||
    valued.any (·.1.contains (String.ofList name))

/-! ## §4. Queries. -/

/-- The names that are short for a general category first. -/
def ambiguous : List String :=
  ["cf", "lc", "sc"]

/-- The set that a name alone stands for: a property, or else a category or a
script. -/
def ofName (name : Text) : Except Flaw.Kind CharSet :=
  if isProperty name && !ambiguous.contains (String.ofList name) then
    match (Named.find? all name).bind (·.set?) with
    | some set => .ok set
    | none => .error .propertyUnknown
  else
    match (Named.find? Category.all name).or (Named.find? Script.all name) with
    | some ⟨_, some set⟩ => .ok set
    | some ⟨_, none⟩ => .error .propertyValueUnknown
    | none => .error .propertyUnknown

/-- The set that a name and a value stand for. -/
def ofValue (name value : Text) : Except Flaw.Kind CharSet :=
  if isProperty name then
    let values := ((valued.find? (·.1.contains (String.ofList name))).map (·.2)).getD []
    match (Named.find? values value).bind (·.set?) with
    | some set => .ok set
    | none => .error .propertyValueUnknown
  else .error .propertyUnknown

/-- The set that a query asks for; else what is wrong with it. -/
def ofQuery : Query → Except Flaw.Kind CharSet
  | .named name => ofName (normalize name)
  | .valued name value => ofValue (normalize name) (normalize value)

end LineLexer.Pattern.Property
