/-
  LineLexer.Pattern.Property.Category
  ───────────────────────────────────
  **GENERAL CATEGORIES, AS PATTERNS KNOW THEM.**

  Patterns know Unicode 16.  What came in with the next version is unassigned
  to them, and U+0295 is still a small letter.  A pattern can ask for a general
  category or for a group of them.
-/
import LineLexer.Pattern.Property.Named
import LineLexer.Text.GeneralCategory

namespace LineLexer.Pattern.Property.Category

/-! ## §1. Unicode 16. -/

/-- The characters that came in with Unicode 17. -/
def later : CharSet where
  ranges :=
    [(0x88F, 0x88F), (0xC5C, 0xC5C), (0xCDC, 0xCDC), (0x1ACF, 0x1ADD), (0x1AE0, 0x1AEB),
      (0x20C1, 0x20C1), (0x2B96, 0x2B96), (0xA7CE, 0xA7CF), (0xA7D2, 0xA7D2), (0xA7D4, 0xA7D4),
      (0xA7F1, 0xA7F1), (0xFBC3, 0xFBD2), (0xFD90, 0xFD91), (0xFDC8, 0xFDCE), (0x10940, 0x10959),
      (0x10EC5, 0x10EC7), (0x10ED0, 0x10ED8), (0x10EFA, 0x10EFB), (0x11B60, 0x11B67),
      (0x11DB0, 0x11DDB), (0x11DE0, 0x11DE9), (0x16EA0, 0x16EB8), (0x16EBB, 0x16ED3),
      (0x16FF2, 0x16FF6), (0x187F8, 0x187FF), (0x18D09, 0x18D1E), (0x18D80, 0x18DF2),
      (0x1CCFA, 0x1CCFC), (0x1CEBA, 0x1CED0), (0x1CEE0, 0x1CEF0), (0x1E6C0, 0x1E6DE),
      (0x1E6E0, 0x1E6F5), (0x1E6FE, 0x1E6FF), (0x1F6D8, 0x1F6D8), (0x1F777, 0x1F77A),
      (0x1F8D0, 0x1F8D8), (0x1FA54, 0x1FA57), (0x1FA8A, 0x1FA8A), (0x1FA8E, 0x1FA8E),
      (0x1FAC8, 0x1FAC8), (0x1FACD, 0x1FACD), (0x1FAEA, 0x1FAEA), (0x1FAEF, 0x1FAEF),
      (0x1FBFA, 0x1FBFA), (0x2B73A, 0x2B73F), (0x2CEA2, 0x2CEAD), (0x323B0, 0x33479)]

/-- A property of characters of Unicode 17, before these came in. -/
def known (rs : Ranges) : CharSet :=
  ⟨rs⟩ \ later

/-- The character whose category has been changed since. -/
def pharyngeal : CharSet :=
  ⟨[(0x295, 0x295)]⟩

/-- The characters in a category. -/
def set (g : GeneralCategory) : CharSet :=
  match g with
  | .lowercaseLetter => known g.ranges ∪ pharyngeal
  | .otherLetter => known g.ranges \ pharyngeal
  | .unassigned => ⟨g.ranges⟩ ∪ later
  | g => known g.ranges

/-- The characters in some categories. -/
def sets (gs : List GeneralCategory) : CharSet :=
  .unions (gs.map set)

/-! ## §2. Groups. -/

/-- Letters. -/
def letter : CharSet := sets GeneralCategory.letters

/-- Letters that have a case. -/
def casedLetter : CharSet := sets [.uppercaseLetter, .lowercaseLetter, .titlecaseLetter]

/-- Marks. -/
def mark : CharSet := sets GeneralCategory.marks

/-- Numbers that no character has; here they fill the gap between others. -/
def surrogate : CharSet :=
  ⟨[(0xD800, 0xDFFF)]⟩

/-- All that is neither a visible character nor a separator. -/
def other : CharSet := sets GeneralCategory.others ∪ surrogate

/-- Every character. -/
def any : CharSet := CharSet.none.complement

/-- The characters of ASCII. -/
def ascii : CharSet := .range '\x00' '\x7f'

/-- The characters that are assigned. -/
def assigned : CharSet := (set .unassigned).complement

/-! ## §3. Categories by their names. -/

/-- The categories and groups. -/
def all : List Named :=
  [⟨["lu", "uppercaseletter"], some (set .uppercaseLetter)⟩,
    ⟨["ll", "lowercaseletter"], some (set .lowercaseLetter)⟩,
    ⟨["lt", "titlecaseletter"], some (set .titlecaseLetter)⟩,
    ⟨["lc", "casedletter"], some casedLetter⟩,
    ⟨["lm", "modifierletter"], some (set .modifierLetter)⟩,
    ⟨["lo", "otherletter"], some (set .otherLetter)⟩,
    ⟨["l", "letter"], some letter⟩,
    ⟨["mn", "nonspacingmark"], some (set .nonspacingMark)⟩,
    ⟨["mc", "spacingmark"], some (set .spacingMark)⟩,
    ⟨["me", "enclosingmark"], some (set .enclosingMark)⟩,
    ⟨["m", "mark", "combiningmark"], some mark⟩,
    ⟨["nd", "digit", "decimalnumber"], some (set .decimalNumber)⟩,
    ⟨["nl", "letternumber"], some (set .letterNumber)⟩,
    ⟨["no", "othernumber"], some (set .otherNumber)⟩,
    ⟨["n", "number"], some (sets GeneralCategory.numbers)⟩,
    ⟨["pc", "connectorpunctuation"], some (set .connectorPunctuation)⟩,
    ⟨["pd", "dashpunctuation"], some (set .dashPunctuation)⟩,
    ⟨["ps", "openpunctuation"], some (set .openPunctuation)⟩,
    ⟨["pe", "closepunctuation"], some (set .closePunctuation)⟩,
    ⟨["pi", "initialpunctuation"], some (set .initialPunctuation)⟩,
    ⟨["pf", "finalpunctuation"], some (set .finalPunctuation)⟩,
    ⟨["po", "otherpunctuation"], some (set .otherPunctuation)⟩,
    ⟨["p", "punct", "punctuation"], some (sets GeneralCategory.punctuation)⟩,
    ⟨["sm", "mathsymbol"], some (set .mathSymbol)⟩,
    ⟨["sc", "currencysymbol"], some (set .currencySymbol)⟩,
    ⟨["sk", "modifiersymbol"], some (set .modifierSymbol)⟩,
    ⟨["so", "othersymbol"], some (set .otherSymbol)⟩,
    ⟨["s", "symbol"], some (sets GeneralCategory.symbols)⟩,
    ⟨["zs", "spaceseparator"], some (set .spaceSeparator)⟩,
    ⟨["zl", "lineseparator"], some (set .lineSeparator)⟩,
    ⟨["zp", "paragraphseparator"], some (set .paragraphSeparator)⟩,
    ⟨["z", "separator"], some (sets GeneralCategory.separators)⟩,
    ⟨["cc", "cntrl", "control"], some (set .control)⟩,
    ⟨["cf", "format"], some (set .format)⟩,
    ⟨["co", "privateuse"], some (set .privateUse)⟩,
    ⟨["cn", "unassigned"], some (set .unassigned)⟩,
    ⟨["c", "other"], some other⟩,
    ⟨["cs", "surrogate"], none⟩,
    ⟨["any"], some any⟩,
    ⟨["ascii"], some ascii⟩,
    ⟨["assigned"], some assigned⟩]

end LineLexer.Pattern.Property.Category
