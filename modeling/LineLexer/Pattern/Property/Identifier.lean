/-
  LineLexer.Pattern.Property.Identifier
  ─────────────────────────────────────
  **NAMES.**

  What a name in a program can begin with and go on with, in Unicode 16.  The
  sets whose names begin with an X stay the same when compatible characters are
  exchanged for each other.
-/
import LineLexer.Pattern.Property.Category
import LineLexer.Pattern.Property.Punctuation

namespace LineLexer.Pattern.Property.Identifier

/-- What can begin a name for the sake of older names. -/
def otherStart : CharSet where
  ranges :=
    [(0x1885, 0x1886), (0x2118, 0x2118), (0x212E, 0x212E), (0x309B, 0x309C)]

/-- What can follow for the sake of older names. -/
def otherContinue : CharSet where
  ranges :=
    [(0xB7, 0xB7), (0x387, 0x387), (0x1369, 0x1371), (0x19DA, 0x19DA), (0x200C, 0x200D),
      (0x30FB, 0x30FB), (0xFF65, 0xFF65)]

/-- Signs of mathematics that can begin a name. -/
def mathStart : CharSet where
  ranges :=
    [(0x2202, 0x2202), (0x2207, 0x2207), (0x221E, 0x221E), (0x1D6C1, 0x1D6C1), (0x1D6DB, 0x1D6DB),
      (0x1D6FB, 0x1D6FB), (0x1D715, 0x1D715), (0x1D735, 0x1D735), (0x1D74F, 0x1D74F),
      (0x1D76F, 0x1D76F), (0x1D789, 0x1D789), (0x1D7A9, 0x1D7A9), (0x1D7C3, 0x1D7C3)]

/-- Signs of mathematics that can follow. -/
def mathContinue : CharSet where
  ranges :=
    [(0xB2, 0xB3), (0xB9, 0xB9), (0x2070, 0x2070), (0x2074, 0x207E), (0x2080, 0x208E),
      (0x2202, 0x2202), (0x2207, 0x2207), (0x221E, 0x221E), (0x1D6C1, 0x1D6C1),
      (0x1D6DB, 0x1D6DB), (0x1D6FB, 0x1D6FB), (0x1D715, 0x1D715), (0x1D735, 0x1D735),
      (0x1D74F, 0x1D74F), (0x1D76F, 0x1D76F), (0x1D789, 0x1D789), (0x1D7A9, 0x1D7A9),
      (0x1D7C3, 0x1D7C3)]

/-- What no name may have. -/
def reserved : CharSet :=
  Punctuation.patternSyntax ∪ Punctuation.patternBlank

/-- What a name can begin with. -/
def start : CharSet :=
  (Category.letter ∪ Category.set .letterNumber ∪ otherStart) \ reserved

/-- What a name can go on with. -/
def continue_ : CharSet :=
  (start ∪ Category.sets [.nonspacingMark, .spacingMark, .decimalNumber, .connectorPunctuation] ∪
    otherContinue) \ reserved

/-- What falls apart into something that no name can have. -/
def unstable : CharSet where
  ranges :=
    [(0x37A, 0x37A), (0x309B, 0x309C), (0xFC5E, 0xFC63), (0xFDFA, 0xFDFB), (0xFE70, 0xFE70),
      (0xFE72, 0xFE72), (0xFE74, 0xFE74), (0xFE76, 0xFE76), (0xFE78, 0xFE78), (0xFE7A, 0xFE7A),
      (0xFE7C, 0xFE7C), (0xFE7E, 0xFE7E)]

/-- What falls apart into something that no name can begin with. -/
def unstableStart : CharSet where
  ranges :=
    [(0xE33, 0xE33), (0xEB3, 0xEB3), (0xFF9E, 0xFF9F)]

/-- What a name can begin with, however it is composed. -/
def stableStart : CharSet :=
  start \ (unstable ∪ unstableStart)

/-- What a name can go on with, however it is composed. -/
def stableContinue : CharSet :=
  continue_ \ unstable

/-! ## By their names. -/

/-- The properties with their names. -/
def all : List Named :=
  [⟨["oids", "otheridstart"], some otherStart⟩,
    ⟨["oidc", "otheridcontinue"], some otherContinue⟩,
    ⟨["idcompatmathstart"], some mathStart⟩,
    ⟨["idcompatmathcontinue"], some mathContinue⟩,
    ⟨["ids", "idstart"], some start⟩,
    ⟨["idc", "idcontinue"], some continue_⟩,
    ⟨["xids", "xidstart"], some stableStart⟩,
    ⟨["xidc", "xidcontinue"], some stableContinue⟩]

end LineLexer.Pattern.Property.Identifier
