/-
  LineLexer.Pattern.Property.WordBreak
  ────────────────────────────────────
  **WHERE A WORD ENDS.**

  Each character has a part in the words of a text, as in Unicode 16.
-/
import LineLexer.Pattern.Property.GraphemeBreak
import LineLexer.Pattern.Property.Ideograph
import LineLexer.Pattern.Property.Letter
import LineLexer.Pattern.Property.Script

namespace LineLexer.Pattern.Property.WordBreak

/-! ## §1. Letters. -/

/-- What goes with the character before. -/
def extend : CharSet :=
  GraphemeBreak.extend ∪ Category.set .spacingMark

/-- Hebrew letters. -/
def hebrewLetter : CharSet :=
  Script.ofCodes ["hebr"] ∩ Category.set .otherLetter

/-- Marks that Katakana is written with. -/
def kanaMarks : CharSet where
  ranges :=
    [(0x3031, 0x3035), (0x309B, 0x309C), (0x30A0, 0x30A0), (0x30FC, 0x30FC), (0xFF70, 0xFF70)]

/-- Katakana. -/
def katakana : CharSet :=
  Script.ofCodes ["kana"] ∪ kanaMarks

/-- Letters between which words do not show where they end. -/
def unspaced : CharSet :=
  Ideograph.ideographic ∪ katakana ∪
    Script.ofCodes ["ahom", "hira", "khmr", "lana", "laoo", "mymr", "tale", "talu", "tavt", "thai"]

/-- What is used as a letter inside words. -/
def otherLetter : CharSet where
  ranges :=
    [(0x2C2, 0x2C5), (0x2D2, 0x2D7), (0x2DE, 0x2DF), (0x2E5, 0x2EB), (0x2ED, 0x2ED),
      (0x2EF, 0x2FF), (0x55A, 0x55C), (0x55E, 0x55E), (0x58A, 0x58A), (0x5F3, 0x5F3),
      (0x70F, 0x70F), (0xA708, 0xA716), (0xA720, 0xA721), (0xA789, 0xA78A), (0xAB5B, 0xAB5B)]

/-- Letters. -/
def letter : CharSet :=
  (Letter.alphabetic \ (unspaced ∪ extend ∪ hebrewLetter)) ∪ otherLetter

/-! ## §2. Numbers. -/

/-- The signs that stand before numbers; one that is used for Syriac only is
none of them. -/
def numberSign : CharSet :=
  Grapheme.prependedMark \ .single '\u070f'

/-- Numbers. -/
def numeric : CharSet :=
  Category.set .decimalNumber ∪ numberSign ∪ .single '\u066b' ∪ .single '\u19da'

/-! ## §3. Signs. -/

/-- Signs that are not seen. -/
def format : CharSet :=
  Category.set .format \
    (Grapheme.prependedMark ∪ Grapheme.extend ∪ .range '\u200b' '\u200d')

/-- Signs that join letters and numbers to one word. -/
def extendNumberLetter : CharSet :=
  Category.set .connectorPunctuation ∪ .single '\u202f'

/-- Signs that can stand between letters. -/
def midLetter : CharSet where
  ranges :=
    [(0x3A, 0x3A), (0xB7, 0xB7), (0x387, 0x387), (0x55F, 0x55F), (0x5F4, 0x5F4), (0x2027, 0x2027),
      (0xFE13, 0xFE13), (0xFE55, 0xFE55), (0xFF1A, 0xFF1A)]

/-- Signs that can stand between numbers. -/
def midNumber : CharSet where
  ranges :=
    [(0x2C, 0x2C), (0x3B, 0x3B), (0x37E, 0x37E), (0x589, 0x589), (0x60C, 0x60D), (0x66C, 0x66C),
      (0x7F8, 0x7F8), (0x2044, 0x2044), (0xFE50, 0xFE50), (0xFE54, 0xFE54), (0xFF0C, 0xFF0C),
      (0xFF1B, 0xFF1B)]

/-- Signs that can stand between both. -/
def midNumberLetter : CharSet where
  ranges :=
    [(0x2E, 0x2E), (0x2018, 0x2019), (0x2024, 0x2024), (0xFE52, 0xFE52), (0xFF07, 0xFF07),
      (0xFF0E, 0xFF0E)]

/-- What ends a line. -/
def newline : CharSet where
  ranges :=
    [(0xB, 0xC), (0x85, 0x85), (0x2028, 0x2029)]

/-- Blanks that stay together. -/
def blank : CharSet where
  ranges :=
    [(0x20, 0x20), (0x1680, 0x1680), (0x2000, 0x2006), (0x2008, 0x200A), (0x205F, 0x205F),
      (0x3000, 0x3000)]

/-- The quotation mark of one stroke. -/
def singleQuote : CharSet where
  ranges := [(0x27, 0x27)]

/-- The quotation mark of two strokes. -/
def doubleQuote : CharSet where
  ranges := [(0x22, 0x22)]

/-! ## §4. Parts by their names. -/

/-- The parts. -/
def all : List Named :=
  [⟨["cr"], some GraphemeBreak.carriageReturn⟩,
    ⟨["lf"], some GraphemeBreak.lineFeed⟩,
    ⟨["zwj"], some GraphemeBreak.joiner⟩,
    ⟨["nl", "newline"], some newline⟩,
    ⟨["extend"], some extend⟩,
    ⟨["fo", "format"], some format⟩,
    ⟨["ri", "regionalindicator"], some Emoji.regionalIndicator⟩,
    ⟨["ka", "katakana"], some katakana⟩,
    ⟨["hl", "hebrewletter"], some hebrewLetter⟩,
    ⟨["le", "aletter"], some letter⟩,
    ⟨["nu", "numeric"], some numeric⟩,
    ⟨["ex", "extendnumlet"], some extendNumberLetter⟩,
    ⟨["ml", "midletter"], some midLetter⟩,
    ⟨["mn", "midnum"], some midNumber⟩,
    ⟨["mb", "midnumlet"], some midNumberLetter⟩,
    ⟨["wsegspace"], some blank⟩,
    ⟨["sq", "singlequote"], some singleQuote⟩,
    ⟨["dq", "doublequote"], some doubleQuote⟩,
    ⟨["eb", "ebase"], none⟩,
    ⟨["ebg", "ebasegaz"], none⟩,
    ⟨["em", "emodifier"], none⟩,
    ⟨["gaz", "glueafterzwj"], none⟩,
    ⟨["xx", "other"], none⟩]

end LineLexer.Pattern.Property.WordBreak
