/-
  LineLexer.Category
  ──────────────────
  **THE SYNTACTIC CATEGORIES OF TOKENS.**

  A *fixed* category stands for one literal: the operators and punctuation
  marks, and the six keywords.  Four categories are *open*:

      ident    — a word that is no keyword
      numeral  — a run of digits
      eof      — the end of the source; it has no lexeme
      error    — one character that belongs to no other token

  The order of the constructors is part of the interface: tables and rule
  lists are sorted by it (`Category.rank`).  `literal?_injective` says that
  no literal belongs to two categories.
-/
import LineLexer.Text.Utf8

namespace LineLexer

/-- What kind of token a lexeme is. -/
inductive Category where
  | eq
  | gtEq
  | ltEq
  | gt
  | lt
  | arrow
  | maps
  | plus
  | minus
  | star
  | slash
  | assign
  | lPar
  | rPar
  | semi
  | comma
  | ifWord
  | elseWord
  | elifWord
  | whileWord
  | forWord
  | typeWord
  | ident
  | numeral
  | eof
  | error
  deriving Repr, DecidableEq

namespace Category

/-! ## §1. Order and names. -/

/-- Every category, in order. -/
def all : List Category :=
  [eq, gtEq, ltEq, gt, lt, arrow, maps, plus, minus, star, slash, assign,
    lPar, rPar, semi, comma, ifWord, elseWord, elifWord, whileWord, forWord,
    typeWord, ident, numeral, eof, error]

/-- The place of a category in the order. -/
def rank (c : Category) : Nat :=
  all.idxOf c

instance : Ord Category where
  compare a b := compare a.rank b.rank

/-- The name under which a parser knows the category. -/
def name : Category → String
  | eq => "EQ"
  | gtEq => "GTEQ"
  | ltEq => "LTEQ"
  | gt => "GT"
  | lt => "LT"
  | arrow => "ARROW"
  | maps => "MAPS"
  | plus => "PLUS"
  | minus => "MINUS"
  | star => "STAR"
  | slash => "SLASH"
  | assign => "ASSIGN"
  | lPar => "LPAR"
  | rPar => "RPAR"
  | semi => "SEMI"
  | comma => "COMMA"
  | ifWord => "IF"
  | elseWord => "ELSE"
  | elifWord => "ELIF"
  | whileWord => "WHILE"
  | forWord => "FOR"
  | typeWord => "TYPE"
  | ident => "IDENT"
  | numeral => "NUMERAL"
  | eof => "EOF"
  | error => "ERROR"

/-- The name of the category in log records. -/
def label : Category → String
  | eq => "Eq"
  | gtEq => "GtEq"
  | ltEq => "LtEq"
  | gt => "Gt"
  | lt => "Lt"
  | arrow => "Arrow"
  | maps => "Maps"
  | plus => "Plus"
  | minus => "Minus"
  | star => "Star"
  | slash => "Slash"
  | assign => "Assign"
  | lPar => "LPar"
  | rPar => "RPar"
  | semi => "Semi"
  | comma => "Comma"
  | ifWord => "If"
  | elseWord => "Else"
  | elifWord => "Elif"
  | whileWord => "While"
  | forWord => "For"
  | typeWord => "Type"
  | ident => "Ident"
  | numeral => "Numeral"
  | eof => "EOF"
  | error => "Error"

instance : ToString Category where
  toString := name

/-- The category of the given name. -/
def ofName? (s : String) : Option Category :=
  all.find? (·.name == s)

/-! ## §2. Literals. -/

/-- The literal of a fixed category. -/
def literal? : Category → Option Text
  | eq => some ['=', '=']
  | gtEq => some ['>', '=']
  | ltEq => some ['<', '=']
  | gt => some ['>']
  | lt => some ['<']
  | arrow => some ['-', '>']
  | maps => some ['=', '>']
  | plus => some ['+']
  | minus => some ['-']
  | star => some ['*']
  | slash => some ['/']
  | assign => some ['=']
  | lPar => some ['(']
  | rPar => some [')']
  | semi => some [';']
  | comma => some [',']
  | ifWord => some ['i', 'f']
  | elseWord => some ['e', 'l', 's', 'e']
  | elifWord => some ['e', 'l', 'i', 'f']
  | whileWord => some ['w', 'h', 'i', 'l', 'e']
  | forWord => some ['f', 'o', 'r']
  | typeWord => some ['t', 'y', 'p', 'e']
  | ident | numeral | eof | error => none

/-- Whether the category stands for one literal. -/
def isFixed (c : Category) : Bool :=
  c.literal?.isSome

/-- Whether the category's literal is a word. -/
def isKeyword (c : Category) : Bool :=
  match c.literal? with
  | some (first :: _) => first.isAlpha
  | _ => false

/-- The fixed categories, in order. -/
def fixed : List Category :=
  all.filter isFixed

/-! ## §3. Facts about the order and the literals. -/

theorem mem_all (c : Category) : c ∈ all := by
  cases c <;> decide

theorem rank_injective {a b : Category} (h : a.rank = b.rank) : a = b := by
  have hall : all.all (fun a => all.all (fun b => a.rank ≠ b.rank || a = b)) = true := by
    decide
  have := List.all_eq_true.1 (List.all_eq_true.1 hall a (mem_all a)) b (mem_all b)
  simpa [h] using this

theorem mem_fixed {c : Category} : c ∈ fixed ↔ c.isFixed := by
  simp [fixed, mem_all]

/-- No literal belongs to two categories. -/
theorem literal?_injective {a b : Category} {l : Text}
    (ha : a.literal? = some l) (hb : b.literal? = some l) : a = b := by
  have hall : all.all (fun a => all.all (fun b =>
      a.literal? ≠ b.literal? || a.literal? = none || a = b)) = true := by decide
  have := List.all_eq_true.1 (List.all_eq_true.1 hall a (mem_all a)) b (mem_all b)
  simpa [ha, hb] using this

/-- No literal is empty. -/
theorem literal?_ne_nil (c : Category) : c.literal? ≠ some [] := by
  cases c <;> decide

end Category

end LineLexer
