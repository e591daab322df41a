/-
  LineLexer.Pattern.NamedClass
  ────────────────────────────
  **CLASSES WITH A NAME.**

  Some classes of characters have a name that a pattern can call them by:
  `[:alpha:]` and its like, which are in ASCII only, and `\d`, `\s` and `\w`,
  which are in ASCII only where the flag `u` is off.
-/
import LineLexer.Pattern.Property.Letter
import LineLexer.Pattern.Property.Punctuation

namespace LineLexer.Pattern.CharSet

/-- The characters in some ranges, which are in order. -/
def ascending (rs : List (Char × Char)) : CharSet :=
  ⟨rs.map (fun (first, last) => (first.toNat, last.toNat))⟩

/-- A class of ASCII characters. -/
def ofAscii : AsciiClass → CharSet
  | .alnum => ascending [('0', '9'), ('A', 'Z'), ('a', 'z')]
  | .alpha => ascending [('A', 'Z'), ('a', 'z')]
  | .ascii => range '\x00' '\x7f'
  | .blank => ascending [('\t', '\t'), (' ', ' ')]
  | .cntrl => ascending [('\x00', '\x1f'), ('\x7f', '\x7f')]
  | .digit => range '0' '9'
  | .graph => range '!' '~'
  | .lower => range 'a' 'z'
  | .print => range ' ' '~'
  | .punct => ascending [('!', '/'), (':', '@'), ('[', '\x60'), ('\x7b', '~')]
  | .space => ascending [('\t', '\r'), (' ', ' ')]
  | .upper => range 'A' 'Z'
  | .word => ascending [('0', '9'), ('A', 'Z'), ('_', '_'), ('a', 'z')]
  | .xdigit => ascending [('0', '9'), ('A', 'F'), ('a', 'f')]

/-- A class with a name of one letter, in ASCII only or not. -/
def ofShorthand (unicode : Bool) : Shorthand → CharSet
  | .digit => if unicode then Property.Category.set .decimalNumber else ofAscii .digit
  | .space => if unicode then Property.Punctuation.whiteSpace else ofAscii .space
  | .word => if unicode then Property.Letter.word else ofAscii .word

end LineLexer.Pattern.CharSet
