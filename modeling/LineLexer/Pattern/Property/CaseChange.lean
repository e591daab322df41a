/-
  LineLexer.Pattern.Property.CaseChange
  ─────────────────────────────────────
  **WHAT A CHANGE OF CASE CHANGES.**

  A letter changes when it is written small, large, or large at the front of a
  word, or when its case is folded.  For most letters the table of simple case
  folding tells; beside them there are a few that become several letters, and
  the Cherokee letters, which are folded to the capital ones.  All this is as
  in Unicode 16.
-/
import LineLexer.Pattern.CaseFold
import LineLexer.Pattern.Property.WordBreak

namespace LineLexer.Pattern.Property.CaseChange

/-- The Cherokee capital letters that have small ones. -/
def cherokee : CharSet where
  ranges := [(0x13A0, 0x13F5)]

/-- The Georgian letters, which no word begins with a capital one of. -/
def georgian : CharSet where
  ranges := [(0x10D0, 0x10FA), (0x10FD, 0x10FF)]

/-- What changes when it is written small. -/
def lowercased : CharSet :=
  (CaseFold.sources ∩ (Letter.uppercase ∪ Category.set .titlecaseLetter)) ∪
    .single '\u0130' ∪ cherokee

/-- Small letters for which there is no single capital one. -/
def unpaired : CharSet where
  ranges :=
    [(0x131, 0x131), (0x149, 0x149), (0x1F0, 0x1F0), (0x587, 0x587), (0x1E96, 0x1E9A),
      (0x1F50, 0x1F50), (0x1F52, 0x1F52), (0x1F54, 0x1F54), (0x1F56, 0x1F56), (0x1FB2, 0x1FB2),
      (0x1FB4, 0x1FB4), (0x1FB6, 0x1FB7), (0x1FC2, 0x1FC2), (0x1FC4, 0x1FC4), (0x1FC6, 0x1FC7),
      (0x1FD2, 0x1FD2), (0x1FD6, 0x1FD7), (0x1FE2, 0x1FE2), (0x1FE4, 0x1FE4), (0x1FE6, 0x1FE7),
      (0x1FF2, 0x1FF2), (0x1FF4, 0x1FF4), (0x1FF6, 0x1FF7), (0xFB00, 0xFB04), (0xFB13, 0xFB17)]

/-- What changes when it is written large. -/
def uppercased : CharSet :=
  ((CaseFold.sources ∪ CaseFold.targets) ∩ (Letter.lowercase ∪ Category.set .titlecaseLetter)) ∪
    unpaired

/-- Capital digraphs, which begin a word with their first part large only. -/
def digraphs : CharSet where
  ranges :=
    [(0x1C4, 0x1C4), (0x1C7, 0x1C7), (0x1CA, 0x1CA), (0x1F1, 0x1F1)]

/-- What changes when it is written at the front of a word. -/
def titlecased : CharSet :=
  (uppercased \ (Category.set .titlecaseLetter ∪ georgian)) ∪ digraphs

/-- What one of these changes. -/
def casemapped : CharSet :=
  lowercased ∪ uppercased ∪ titlecased

/-- What becomes several letters when its case is folded. -/
def expanded : CharSet where
  ranges :=
    [(0xDF, 0xDF), (0x130, 0x130), (0x149, 0x149), (0x587, 0x587), (0x1E9A, 0x1E9A),
      (0x1F80, 0x1F87), (0x1F90, 0x1F97), (0x1FA0, 0x1FA7), (0x1FB2, 0x1FB4), (0x1FB7, 0x1FB7),
      (0x1FC2, 0x1FC4), (0x1FC7, 0x1FC7), (0x1FF2, 0x1FF4), (0x1FF7, 0x1FF7), (0xFB00, 0xFB04),
      (0xFB06, 0xFB06), (0xFB13, 0xFB17)]

/-- What is folded to something that it is another form of. -/
def decomposed : CharSet where
  ranges :=
    [(0x1FBE, 0x1FBE), (0x1FD3, 0x1FD3), (0x1FE3, 0x1FE3)]

/-- What changes when its case is folded. -/
def casefolded : CharSet :=
  (CaseFold.sources ∪ expanded) \ decomposed

/-- What a change of case leaves alone. -/
def ignored : CharSet :=
  Category.sets [.nonspacingMark, .enclosingMark, .format, .modifierLetter, .modifierSymbol] ∪
    WordBreak.midLetter ∪ WordBreak.midNumberLetter ∪ WordBreak.singleQuote

/-! ## By their names. -/

/-- The properties with their names. -/
def all : List Named :=
  [⟨["cwl", "changeswhenlowercased"], some lowercased⟩,
    ⟨["cwu", "changeswhenuppercased"], some uppercased⟩,
    ⟨["cwt", "changeswhentitlecased"], some titlecased⟩,
    ⟨["cwcm", "changeswhencasemapped"], some casemapped⟩,
    ⟨["cwcf", "changeswhencasefolded"], some casefolded⟩,
    ⟨["ci", "caseignorable"], some ignored⟩]

end LineLexer.Pattern.Property.CaseChange
