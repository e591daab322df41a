/-
  LineLexer.Pattern.Property.GraphemeBreak
  ────────────────────────────────────────
  **WHERE A SIGN ENDS.**

  What a reader takes for one sign may be several characters.  Each character
  has a part in such a cluster, as in Unicode 16.
-/
import LineLexer.Pattern.Property.Emoji
import LineLexer.Pattern.Property.Grapheme

namespace LineLexer.Pattern.Property.GraphemeBreak

/-! ## §1. Controls and what goes with other characters. -/

/-- The end of a line by itself, which most parts leave out. -/
def lineFeed : CharSet := .single '\n'

/-- The first half of the end of a line. -/
def carriageReturn : CharSet := .single '\r'

/-- What joins two signs to one. -/
def joiner : CharSet := .single '\u200d'

/-- What goes with the character before. -/
def extend : CharSet :=
  Grapheme.extend ∪ Emoji.modifier

/-- What ends every sign. -/
def control : CharSet :=
  (Category.sets [.lineSeparator, .paragraphSeparator, .control, .format] ∪
      (Category.set .unassigned ∩ Grapheme.ignorable)) \
    (lineFeed ∪ carriageReturn ∪ .range '\u200c' '\u200d' ∪ Grapheme.prependedMark ∪
      Grapheme.extend)

/-- Marks that take a place and still are signs of their own. -/
def separate : CharSet where
  ranges :=
    [(0x102B, 0x102C), (0x1038, 0x1038), (0x1062, 0x1064), (0x1067, 0x106D), (0x1083, 0x1083),
      (0x1087, 0x108C), (0x108F, 0x108F), (0x109A, 0x109C), (0x1A61, 0x1A61), (0x1A63, 0x1A64),
      (0xAA7B, 0xAA7B), (0xAA7D, 0xAA7D), (0x11720, 0x11721)]

/-- Marks that take a place. -/
def spacingMark : CharSet :=
  (Category.set .spacingMark \ (Grapheme.extend ∪ separate)) ∪ .single '\u0e33' ∪ .single '\u0eb3'

/-- What goes with the character behind. -/
def prepend : CharSet where
  ranges :=
    [(0x600, 0x605), (0x6DD, 0x6DD), (0x70F, 0x70F), (0x890, 0x891), (0x8E2, 0x8E2),
      (0xD4E, 0xD4E), (0x110BD, 0x110BD), (0x110CD, 0x110CD), (0x111C2, 0x111C3),
      (0x113D1, 0x113D1), (0x1193F, 0x1193F), (0x11941, 0x11941), (0x11A3A, 0x11A3A),
      (0x11A84, 0x11A89), (0x11D46, 0x11D46), (0x11F02, 0x11F02)]

/-! ## §2. Korean syllables. -/

/-- Consonants at the front of a syllable. -/
def leading : CharSet where
  ranges := [(0x1100, 0x115F), (0xA960, 0xA97C)]

/-- Vowels. -/
def vowel : CharSet where
  ranges := [(0x1160, 0x11A7), (0xD7B0, 0xD7C6), (0x16D63, 0x16D63), (0x16D67, 0x16D6A)]

/-- Consonants at the end of a syllable. -/
def trailing : CharSet where
  ranges := [(0x11A8, 0x11FF), (0xD7CB, 0xD7FB)]

/-- Whole syllables without a consonant at the end: every twenty-eighth one. -/
def openSyllable : CharSet :=
  .ofRanges ((List.range 399).map (fun i => (0xAC00 + 28 * i, 0xAC00 + 28 * i)))

/-- Whole syllables with a consonant at the end. -/
def closedSyllable : CharSet :=
  .range '\uac00' '\ud7a3' \ openSyllable

/-! ## §3. Parts by their names. -/

/-- The parts. -/
def all : List Named :=
  [⟨["cr"], some carriageReturn⟩,
    ⟨["lf"], some lineFeed⟩,
    ⟨["zwj"], some joiner⟩,
    ⟨["cn", "control"], some control⟩,
    ⟨["ex", "extend"], some extend⟩,
    ⟨["sm", "spacingmark"], some spacingMark⟩,
    ⟨["pp", "prepend"], some prepend⟩,
    ⟨["ri", "regionalindicator"], some Emoji.regionalIndicator⟩,
    ⟨["l"], some leading⟩,
    ⟨["v"], some vowel⟩,
    ⟨["t"], some trailing⟩,
    ⟨["lv"], some openSyllable⟩,
    ⟨["lvt"], some closedSyllable⟩,
    ⟨["eb", "ebase"], none⟩,
    ⟨["ebg", "ebasegaz"], none⟩,
    ⟨["em", "emodifier"], none⟩,
    ⟨["gaz", "glueafterzwj"], none⟩,
    ⟨["xx", "other"], none⟩]

end LineLexer.Pattern.Property.GraphemeBreak
