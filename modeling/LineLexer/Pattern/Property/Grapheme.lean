/-
  LineLexer.Pattern.Property.Grapheme
  ───────────────────────────────────
  **WHAT MAKES UP ONE SIGN.**

  Characters that stand for themselves, that go with the one before, or that are
  not seen, in Unicode 16.
-/
import LineLexer.Pattern.Property.Category
import LineLexer.Text.DefaultIgnorable
import LineLexer.Text.GraphemeExtend

namespace LineLexer.Pattern.Property.Grapheme

/-- Signs that join consonants. -/
def link : CharSet where
  ranges :=
    [(0x94D, 0x94D), (0x9CD, 0x9CD), (0xA4D, 0xA4D), (0xACD, 0xACD), (0xB4D, 0xB4D),
      (0xBCD, 0xBCD), (0xC4D, 0xC4D), (0xCCD, 0xCCD), (0xD3B, 0xD3C), (0xD4D, 0xD4D),
      (0xDCA, 0xDCA), (0xE3A, 0xE3A), (0xEBA, 0xEBA), (0xF84, 0xF84), (0x1039, 0x103A),
      (0x1714, 0x1715), (0x1734, 0x1734), (0x17D2, 0x17D2), (0x1A60, 0x1A60), (0x1B44, 0x1B44),
      (0x1BAA, 0x1BAB), (0x1BF2, 0x1BF3), (0x2D7F, 0x2D7F), (0xA806, 0xA806), (0xA82C, 0xA82C),
      (0xA8C4, 0xA8C4), (0xA953, 0xA953), (0xA9C0, 0xA9C0), (0xAAF6, 0xAAF6), (0xABED, 0xABED),
      (0x10A3F, 0x10A3F), (0x11046, 0x11046), (0x11070, 0x11070), (0x1107F, 0x1107F),
      (0x110B9, 0x110B9), (0x11133, 0x11134), (0x111C0, 0x111C0), (0x11235, 0x11235),
      (0x112EA, 0x112EA), (0x1134D, 0x1134D), (0x113CE, 0x113D0), (0x11442, 0x11442),
      (0x114C2, 0x114C2), (0x115BF, 0x115BF), (0x1163F, 0x1163F), (0x116B6, 0x116B6),
      (0x1172B, 0x1172B), (0x11839, 0x11839), (0x1193D, 0x1193E), (0x119E0, 0x119E0),
      (0x11A34, 0x11A34), (0x11A47, 0x11A47), (0x11A99, 0x11A99), (0x11C3F, 0x11C3F),
      (0x11D44, 0x11D45), (0x11D97, 0x11D97), (0x11F41, 0x11F42), (0x1612F, 0x1612F)]

/-- What goes with the character before and is no mark that takes no place. -/
def otherExtend : CharSet where
  ranges :=
    [(0x9BE, 0x9BE), (0x9D7, 0x9D7), (0xB3E, 0xB3E), (0xB57, 0xB57), (0xBBE, 0xBBE),
      (0xBD7, 0xBD7), (0xCC0, 0xCC0), (0xCC2, 0xCC2), (0xCC7, 0xCC8), (0xCCA, 0xCCB),
      (0xCD5, 0xCD6), (0xD3E, 0xD3E), (0xD57, 0xD57), (0xDCF, 0xDCF), (0xDDF, 0xDDF),
      (0x1715, 0x1715), (0x1734, 0x1734), (0x1B35, 0x1B35), (0x1B3B, 0x1B3B), (0x1B3D, 0x1B3D),
      (0x1B43, 0x1B44), (0x1BAA, 0x1BAA), (0x1BF2, 0x1BF3), (0x200C, 0x200C), (0x302E, 0x302F),
      (0xA953, 0xA953), (0xA9C0, 0xA9C0), (0xFF9E, 0xFF9F), (0x111C0, 0x111C0),
      (0x11235, 0x11235), (0x1133E, 0x1133E), (0x1134D, 0x1134D), (0x11357, 0x11357),
      (0x113B8, 0x113B8), (0x113C2, 0x113C2), (0x113C5, 0x113C5), (0x113C7, 0x113C9),
      (0x113CF, 0x113CF), (0x114B0, 0x114B0), (0x114BD, 0x114BD), (0x115AF, 0x115AF),
      (0x116B6, 0x116B6), (0x11930, 0x11930), (0x1193D, 0x1193D), (0x11F41, 0x11F41),
      (0x16FF0, 0x16FF1), (0x1D165, 0x1D166), (0x1D16D, 0x1D172), (0xE0020, 0xE007F)]

/-- What goes with the character before. -/
def extend : CharSet :=
  Category.known GraphemeExtend.ranges

/-- What stands for itself. -/
def base : CharSet :=
  (extend ∪ Category.other ∪ Category.sets [.lineSeparator, .paragraphSeparator]).complement

/-- Signs for another shape of the character before. -/
def variationSelector : CharSet where
  ranges :=
    [(0x180B, 0x180D), (0x180F, 0x180F), (0xFE00, 0xFE0F), (0xE0100, 0xE01EF)]

/-- What is not seen and would be, by its category. -/
def otherIgnorable : CharSet where
  ranges :=
    [(0x34F, 0x34F), (0x115F, 0x1160), (0x17B4, 0x17B5), (0x2065, 0x2065), (0x3164, 0x3164),
      (0xFFA0, 0xFFA0), (0xFFF0, 0xFFF8), (0xE0000, 0xE0000), (0xE0002, 0xE001F),
      (0xE0080, 0xE00FF), (0xE01F0, 0xE0FFF)]

/-- What is not seen. -/
def ignorable : CharSet :=
  ⟨DefaultIgnorable.ranges⟩

/-- Signs that stand before the characters they go with. -/
def prependedMark : CharSet where
  ranges :=
    [(0x600, 0x605), (0x6DD, 0x6DD), (0x70F, 0x70F), (0x890, 0x891), (0x8E2, 0x8E2),
      (0x110BD, 0x110BD), (0x110CD, 0x110CD)]

/-- Marks that are used like letters. -/
def modifierMark : CharSet where
  ranges :=
    [(0x654, 0x655), (0x658, 0x658), (0x6DC, 0x6DC), (0x6E3, 0x6E3), (0x6E7, 0x6E8),
      (0x8CA, 0x8CB), (0x8CD, 0x8CF), (0x8D3, 0x8D3), (0x8F3, 0x8F3)]

/-- Numbers that no character will ever have. -/
def noncharacter : CharSet where
  ranges :=
    [(0xFDD0, 0xFDEF), (0xFFFE, 0xFFFF), (0x1FFFE, 0x1FFFF), (0x2FFFE, 0x2FFFF),
      (0x3FFFE, 0x3FFFF), (0x4FFFE, 0x4FFFF), (0x5FFFE, 0x5FFFF), (0x6FFFE, 0x6FFFF),
      (0x7FFFE, 0x7FFFF), (0x8FFFE, 0x8FFFF), (0x9FFFE, 0x9FFFF), (0xAFFFE, 0xAFFFF),
      (0xBFFFE, 0xBFFFF), (0xCFFFE, 0xCFFFF), (0xDFFFE, 0xDFFFF), (0xEFFFE, 0xEFFFF),
      (0xFFFFE, 0xFFFFF), (0x10FFFE, 0x10FFFF)]

/-! ## By their names. -/

/-- The properties with their names. -/
def all : List Named :=
  [⟨["grlink", "graphemelink"], some link⟩,
    ⟨["ogrext", "othergraphemeextend"], some otherExtend⟩,
    ⟨["grext", "graphemeextend"], some extend⟩,
    ⟨["grbase", "graphemebase"], some base⟩,
    ⟨["vs", "variationselector"], some variationSelector⟩,
    ⟨["odi", "otherdefaultignorablecodepoint"], some otherIgnorable⟩,
    ⟨["di", "defaultignorablecodepoint"], some ignorable⟩,
    ⟨["pcm", "prependedconcatenationmark"], some prependedMark⟩,
    ⟨["mcm", "modifiercombiningmark"], some modifierMark⟩,
    ⟨["nchar", "noncharactercodepoint"], some noncharacter⟩]

end LineLexer.Pattern.Property.Grapheme
