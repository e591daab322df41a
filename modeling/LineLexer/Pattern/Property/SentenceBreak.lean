/-
  LineLexer.Pattern.Property.SentenceBreak
  ────────────────────────────────────────
  **WHERE A SENTENCE ENDS.**

  Each character has a part in the sentences of a text, as in Unicode 16.
-/
import LineLexer.Pattern.Property.CaseChange
import LineLexer.Pattern.Property.Punctuation

namespace LineLexer.Pattern.Property.SentenceBreak

/-! ## §1. Letters and numbers. -/

/-- What goes with the character before. -/
def extend : CharSet :=
  Grapheme.extend ∪ Category.set .spacingMark ∪ GraphemeBreak.joiner

/-- Small letters. -/
def lower : CharSet :=
  Letter.lowercase \ (Grapheme.extend ∪ CaseChange.georgian)

/-- The Georgian capital letters, which stand in words of capitals only. -/
def georgianCapitals : CharSet where
  ranges := [(0x1C90, 0x1CBA), (0x1CBD, 0x1CBF)]

/-- Capital letters. -/
def upper : CharSet :=
  (Letter.uppercase ∪ Category.set .titlecaseLetter) \ georgianCapitals

/-- Other letters. -/
def letter : CharSet :=
  (Letter.alphabetic \ (lower ∪ upper ∪ extend)) ∪ .single '\u05f3'

/-- Numbers. -/
def numeric : CharSet :=
  WordBreak.numeric ∪ .single '\u066c'

/-! ## §2. Signs. -/

/-- Signs that are not seen. -/
def format : CharSet :=
  Category.set .format \
    (WordBreak.numberSign ∪ Grapheme.extend ∪ .range '\u200c' '\u200d')

/-- What ends a paragraph. -/
def separator : CharSet where
  ranges := [(0x85, 0x85), (0x2028, 0x2029)]

/-- Blanks. -/
def blank : CharSet :=
  Punctuation.whiteSpace \ (separator ∪ .single '\n' ∪ .single '\r')

/-- Full stops, which may also stand in abbreviations. -/
def fullStop : CharSet where
  ranges :=
    [(0x2E, 0x2E), (0x2024, 0x2024), (0xFE52, 0xFE52), (0xFF0E, 0xFF0E)]

/-- What ends a sentence in any case. -/
def terminal : CharSet :=
  Punctuation.sentenceTerminal \ fullStop

/-- Ornaments that are used as quotation marks. -/
def ornament : CharSet where
  ranges :=
    [(0x275B, 0x2760), (0x2E00, 0x2E01), (0x2E06, 0x2E08), (0x2E0B, 0x2E0B), (0x1F676, 0x1F678)]

/-- What can enclose a part of a sentence. -/
def close : CharSet :=
  (Category.sets [.openPunctuation, .closePunctuation, .initialPunctuation, .finalPunctuation] ∪
      Punctuation.quotationMark ∪ ornament) \
    (.single '\uff02' ∪ .single '\uff07')

/-- Signs behind which a sentence goes on. -/
def continue_ : CharSet where
  ranges :=
    [(0x2C, 0x2D), (0x3A, 0x3B), (0x37E, 0x37E), (0x55D, 0x55D), (0x60C, 0x60D), (0x7F8, 0x7F8),
      (0x1802, 0x1802), (0x1808, 0x1808), (0x2013, 0x2014), (0x3001, 0x3001), (0xFE10, 0xFE11),
      (0xFE13, 0xFE14), (0xFE31, 0xFE32), (0xFE50, 0xFE51), (0xFE54, 0xFE55), (0xFE58, 0xFE58),
      (0xFE63, 0xFE63), (0xFF0C, 0xFF0D), (0xFF1A, 0xFF1B), (0xFF64, 0xFF64)]

/-! ## §3. Parts by their names. -/

/-- The parts. -/
def all : List Named :=
  [⟨["cr"], some GraphemeBreak.carriageReturn⟩,
    ⟨["lf"], some GraphemeBreak.lineFeed⟩,
    ⟨["se", "sep"], some separator⟩,
    ⟨["ex", "extend"], some extend⟩,
    ⟨["fo", "format"], some format⟩,
    ⟨["sp"], some blank⟩,
    ⟨["lo", "lower"], some lower⟩,
    ⟨["up", "upper"], some upper⟩,
    ⟨["le", "oletter"], some letter⟩,
    ⟨["nu", "numeric"], some numeric⟩,
    ⟨["at", "aterm"], some fullStop⟩,
    ⟨["st", "sterm"], some terminal⟩,
    ⟨["cl", "close"], some close⟩,
    ⟨["sc", "scontinue"], some continue_⟩,
    ⟨["xx", "other"], none⟩]

end LineLexer.Pattern.Property.SentenceBreak
