/-
  LineLexer.Text.GeneralCategory
  ──────────────────────────────
  **THE GENERAL CATEGORY OF A CHARACTER.**

  Unicode gives every number a general category, which says what kind of
  character it is.  Here are those of Unicode 17, with the numbers that have
  each of them; surrogates are left out, for they are no characters.
-/
import LineLexer.Text.GeneralCategory.Letter
import LineLexer.Text.GeneralCategory.Mark
import LineLexer.Text.GeneralCategory.Number
import LineLexer.Text.GeneralCategory.Punctuation
import LineLexer.Text.GeneralCategory.Symbol
import LineLexer.Text.GeneralCategory.Separator
import LineLexer.Text.GeneralCategory.Other

namespace LineLexer

/-- What kind of character a character is. -/
inductive GeneralCategory where
  | uppercaseLetter
  | lowercaseLetter
  | titlecaseLetter
  | modifierLetter
  | otherLetter
  | nonspacingMark
  | spacingMark
  | enclosingMark
  | decimalNumber
  | letterNumber
  | otherNumber
  | connectorPunctuation
  | dashPunctuation
  | openPunctuation
  | closePunctuation
  | initialPunctuation
  | finalPunctuation
  | otherPunctuation
  | mathSymbol
  | currencySymbol
  | modifierSymbol
  | otherSymbol
  | spaceSeparator
  | lineSeparator
  | paragraphSeparator
  | control
  | format
  | privateUse
  | unassigned
  deriving Repr, DecidableEq

namespace GeneralCategory

/-! ## §1. The tables. -/

/-- The numbers of the characters in a category. -/
def ranges : GeneralCategory → Ranges
  | uppercaseLetter => Letter.uppercase
  | lowercaseLetter => Letter.lowercase
  | titlecaseLetter => Letter.titlecase
  | modifierLetter => Letter.modifier
  | otherLetter => Letter.other
  | nonspacingMark => Mark.nonspacing
  | spacingMark => Mark.spacing
  | enclosingMark => Mark.enclosing
  | decimalNumber => Number.decimal
  | letterNumber => Number.letter
  | otherNumber => Number.other
  | connectorPunctuation => Punctuation.connector
  | dashPunctuation => Punctuation.dash
  | openPunctuation => Punctuation.opening
  | closePunctuation => Punctuation.closing
  | initialPunctuation => Punctuation.initial
  | finalPunctuation => Punctuation.final
  | otherPunctuation => Punctuation.other
  | mathSymbol => Symbol.math
  | currencySymbol => Symbol.currency
  | modifierSymbol => Symbol.modifier
  | otherSymbol => Symbol.other
  | spaceSeparator => Separator.space
  | lineSeparator => Separator.line
  | paragraphSeparator => Separator.paragraph
  | control => Other.control
  | format => Other.format
  | privateUse => Other.privateUse
  | unassigned => Other.unassigned

theorem ranges_ascend (g : GeneralCategory) : Ranges.ascend g.ranges = true := by
  cases g <;> decide +kernel

/-- The table of a category. -/
def table (g : GeneralCategory) : Ranges.Table :=
  ⟨g.ranges, g.ranges_ascend⟩

/-- Whether a character is in a category. -/
def has (g : GeneralCategory) (c : Char) : Bool :=
  g.table.has c.toNat

/-! ## §2. Groups of categories. -/

/-- Letters. -/
def letters : List GeneralCategory :=
  [uppercaseLetter, lowercaseLetter, titlecaseLetter, modifierLetter, otherLetter]

/-- Marks. -/
def marks : List GeneralCategory :=
  [nonspacingMark, spacingMark, enclosingMark]

/-- Numbers. -/
def numbers : List GeneralCategory :=
  [decimalNumber, letterNumber, otherNumber]

/-- Punctuation. -/
def punctuation : List GeneralCategory :=
  [connectorPunctuation, dashPunctuation, openPunctuation, closePunctuation,
    initialPunctuation, finalPunctuation, otherPunctuation]

/-- Symbols. -/
def symbols : List GeneralCategory :=
  [mathSymbol, currencySymbol, modifierSymbol, otherSymbol]

/-- Separators. -/
def separators : List GeneralCategory :=
  [spaceSeparator, lineSeparator, paragraphSeparator]

/-- All that is neither a visible character nor a separator. -/
def others : List GeneralCategory :=
  [control, format, privateUse, unassigned]

end GeneralCategory

end LineLexer
