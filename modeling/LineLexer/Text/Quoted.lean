/-
  LineLexer.Text.Quoted
  ─────────────────────
  **TEXT IN QUOTATION MARKS.**

  Log records and error messages show a lexeme between quotation marks, so
  that its end can be seen, and so that every character of it can be told
  from every other one:

      "        is written  \"
      \        is written  \\
      NUL      is written  \0
      TAB      is written  \t
      LF       is written  \n
      CR       is written  \r

  A character that would not show by itself is written as \u and, in braces,
  its number in hexadecimal: one that shows nothing at all, one that may be
  ignored, and one that clings to the character before it.  All others stand
  for themselves, the apostrophe among them.
-/
import LineLexer.Text.DefaultIgnorable
import LineLexer.Text.GraphemeExtend
import LineLexer.Text.Unprintable
import LineLexer.Text.Utf8

namespace LineLexer.Quoted

/-- Whether a character clings to the one before it.  The halfwidth forms of
the two sound marks, U+FF9E and U+FF9F, take a place of their own. -/
def isClinging (c : Char) : Bool :=
  GraphemeExtend.has c && c != '\uff9e' && c != '\uff9f'

/-- Whether a character would not show by itself. -/
def isHidden (c : Char) : Bool :=
  isClinging c || DefaultIgnorable.has c || Unprintable.has c

/-- How one character is written between quotation marks. -/
def escape (c : Char) : Text :=
  match c with
  | '"' => ['\\', '"']
  | '\\' => ['\\', '\\']
  | '\x00' => ['\\', '0']
  | '\t' => ['\\', 't']
  | '\n' => ['\\', 'n']
  | '\r' => ['\\', 'r']
  | c =>
      if isHidden c then
        -- the braces around the number are U+007B and U+007D
        ['\\', 'u', '\x7b'] ++ Nat.toDigits 16 c.toNat ++ ['\x7d']
      else [c]

/-- A text between quotation marks. -/
def encode (t : Text) : Text :=
  '"' :: t.flatMap escape ++ ['"']

end LineLexer.Quoted
