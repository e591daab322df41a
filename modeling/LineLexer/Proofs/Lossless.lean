/-
  LineLexer.Proofs.Lossless
  ─────────────────────────
  **A DUMP CAN BE READ BACK.**

  The line of an operator or of a keyword leaves the lexeme out, and that of
  any other token holds its lexeme raw, whatever characters that is made of.
  Nothing is lost for all that: a category that leaves its lexeme out has one
  literal, no lexeme breaks its line in two, and the line of the end closes
  the dump.

      Token.ofLine?    — the content of a token, from its line
      Dump.read        — the contents in a dump up to the end, and the lines
                         that are left behind it
      read_linesOf     — what was written is read back, whatever follows it
      dump_lossless    — so a dump stands for the contents of its tokens, and
                         no dump goes on where another one ends
-/
import LineLexer.Proofs.Dumping

namespace LineLexer

/-! ## §1. Reading a line. -/

namespace Category

theorem ofName?_name (k : Category) : ofName? k.name = some k := by
  cases k <;> rfl

/-- Names are made of capital letters. -/
theorem isUpper_of_mem_name (k : Category) : ∀ c ∈ k.name.toList, c.isUpper := by
  have hall : all.all (fun k => k.name.toList.all Char.isUpper) = true := by decide
  exact List.all_eq_true.1 (List.all_eq_true.1 hall k (mem_all k))

/-- So each of them is one word. -/
theorem ne_space_of_mem_name (k : Category) : ∀ c ∈ k.name.toList, (c != ' ') = true := by
  intro c hc
  rw [bne_iff_ne]
  rintro rfl
  exact absurd (k.isUpper_of_mem_name ' ' hc) (by decide)

theorem lineFeed_notMem_name (k : Category) : '\n' ∉ k.name.toList := by
  intro hc
  exact absurd (k.isUpper_of_mem_name '\n' hc) (by decide)

end Category

namespace Token

/-- The content of the token that has this line: the category of its first
word, and either the text in parentheses or the literal of the category. -/
def ofLine? (line : Text) : Option (Category × Option Text) :=
  match Category.ofName? (String.ofList (line.takeWhile (· != ' '))) with
  | none => none
  | some k =>
      match line.dropWhile (· != ' ') with
      | ' ' :: '(' :: l => some (k, some l.dropLast)
      | _ => some (k, k.literal?)

/-- The same for the bytes of a line that ends with a line feed. -/
def ofLineBytes? (bytes : List UInt8) : Option (Category × Option Text) :=
  (Utf8.decode bytes).bind fun line => ofLine? line.dropLast

/-- The token has a lexeme, which is spelt as its category asks for. -/
def IsSpelt (t : Token) : Prop :=
  ∃ l, t.lexeme? = some l ∧ IsLexeme t.category l

/-- A category by itself stands for its literal. -/
theorem ofLine?_name (k : Category) : ofLine? k.name.toList = some (k, k.literal?) := by
  have hname := k.ne_space_of_mem_name
  have htake : k.name.toList.takeWhile (· != ' ') = k.name.toList :=
    List.takeWhile_eq_self_iff.2 hname
  have hdrop : k.name.toList.dropWhile (· != ' ') = [] := List.dropWhile_eq_nil_iff.2 hname
  simp only [ofLine?, htake, hdrop, String.ofList_toList, Category.ofName?_name]

/-- What stands behind it in parentheses is a lexeme. -/
theorem ofLine?_lexeme (k : Category) (l : Text) :
    ofLine? (k.name.toList ++ [' ', '('] ++ l ++ [')']) = some (k, some l) := by
  have hname := k.ne_space_of_mem_name
  let behind := ' ' :: '(' :: (l ++ [')'])
  have hline : k.name.toList ++ [' ', '('] ++ l ++ [')'] = k.name.toList ++ behind := by
    simp [behind]
  -- the name ends where the first blank stands
  have hstop : Stops (· != ' ') behind := stops_cons.2 (by decide)
  have htake := takeWhile_append_of_stops hname hstop
  have hdrop : (k.name.toList ++ behind).dropWhile (· != ' ') = behind := by
    rw [List.dropWhile_append_of_pos hname]
    rfl
  rw [hline]
  simp only [ofLine?, htake, hdrop, String.ofList_toList, Category.ofName?_name]
  simp [behind]

/-- **A line holds the content of its token**, even where it leaves the lexeme
out. -/
theorem ofLine?_line {t : Token} (h : t.IsSpelt) : ofLine? t.line = some t.content := by
  obtain ⟨k, l?, span⟩ := t
  obtain ⟨l, hl, hlexeme⟩ := h
  obtain rfl : l? = some l := hl
  cases hlexeme with
  | fixed hlit =>
      -- the lexeme is left out, and is the literal
      have hline : line ⟨k, some l, span⟩ = k.name.toList := by
        cases k with
        | ident => cases hlit
        | numeral => cases hlit
        | error => cases hlit
        | _ => rfl
      rw [hline, ofLine?_name, show k.literal? = some l from hlit]
      rfl
  | ident => exact ofLine?_lexeme .ident l
  | numeral => exact ofLine?_lexeme .numeral l
  | error => exact ofLine?_lexeme .error _

example : Token.ofLine? "GTEQ".toList = some (.gtEq, some ['>', '=']) := by
  decide

/-- No lexeme breaks its line. -/
theorem IsSpelt.lineFeed_notMem {t : Token} (h : t.IsSpelt) :
    ∀ l ∈ t.lexeme?, '\n' ∉ l := by
  intro l hl hmem
  obtain ⟨l', hl', hlexeme⟩ := h
  rw [hl'] at hl
  cases hl
  have hstart := hlexeme.not_triviaStart '\n' hmem
  exact absurd hstart (by decide)

/-- What the line of a token needs to be read back: that it is one line, and
holds the content. -/
structure IsLegible (t : Token) : Prop where
  /-- The line is not broken in two. -/
  lineFeed_notMem : '\n' ∉ t.line
  /-- It holds the content of the token. -/
  ofLine? : ofLine? t.line = some t.content

theorem IsSpelt.isLegible {t : Token} (h : t.IsSpelt) : t.IsLegible := by
  refine ⟨?_, ofLine?_line h⟩
  have hname := t.category.lineFeed_notMem_name
  have hlexeme := h.lineFeed_notMem
  obtain ⟨l, hl, -⟩ := h
  specialize hlexeme l hl
  unfold line
  split <;> simp_all

theorem isLegible_endOf (file : String) (offset : Nat) : (endOf file offset).IsLegible :=
  ⟨Category.lineFeed_notMem_name .eof, ofLine?_name .eof⟩

section Legible

variable {t : Token} (h : t.IsLegible)
include h

/-- The bytes of a line end with the line feed, and hold no other one. -/
theorem IsLegible.exists_lineBytes :
    ∃ bytes, Feed.lineFeed ∉ bytes ∧ t.lineBytes = bytes ++ [Feed.lineFeed] := by
  refine ⟨Utf8.encode t.line, fun hmem => ?_, Utf8.encode_append _ _⟩
  exact h.lineFeed_notMem (Lines.lineFeed_mem_encode.1 hmem)

theorem IsLegible.ofLineBytes? : ofLineBytes? t.lineBytes = some t.content := by
  unfold Token.ofLineBytes? lineBytes
  rw [Utf8.decode_encode, Option.bind_some, List.dropLast_concat, h.ofLine?]

end Legible

end Token

/-! ## §2. Reading a dump. -/

namespace Dump

/-- The contents of the tokens that have these lines, up to the end of their
source, and the lines behind that.  Lines that do not come to an end are no
dump. -/
def readLines : List (List UInt8) → Option (List (Category × Option Text) × List (List UInt8))
  | [] => none
  | line :: lines =>
      match Token.ofLineBytes? line with
      | none => none
      | some c =>
          if c.1 = .eof then some ([c], lines)
          else (readLines lines).map fun (cs, rest) => (c :: cs, rest)

/-- The contents in a dump, and the lines behind it. -/
def read (bytes : List UInt8) : Option (List (Category × Option Text) × List (List UInt8)) :=
  readLines (Lines.cut Feed.lineFeed bytes)

/-- Lines are read up to the end of their source. -/
theorem readLines_append {us : List Token} (hus : ∀ u ∈ us, u.IsSpelt) (file : String)
    (offset : Nat) (rest : List (List UInt8)) :
    readLines ((us ++ [Token.endOf file offset]).map Token.lineBytes ++ rest)
      = some ((us ++ [Token.endOf file offset]).map Token.content, rest) := by
  induction us with
  | nil =>
      have hend := (Token.isLegible_endOf file offset).ofLineBytes?
      simp only [List.nil_append, List.map_cons, List.map_nil, List.cons_append, readLines, hend]
      rfl
  | cons u us ih =>
      obtain ⟨hu, hus⟩ := List.forall_mem_cons.1 hus
      have hne : u.content.1 ≠ .eof := by
        obtain ⟨l, -, hl⟩ := hu
        exact hl.ne_eof
      simp only [List.cons_append, List.map_cons, readLines, hu.isLegible.ofLineBytes?, if_neg hne,
        ih hus, Option.map_some]

end Dump

section Reading

variable {us : List Token} (hus : ∀ u ∈ us, u.IsSpelt) (file : String) (offset : Nat)
include hus

/-- **Every token has a line of its own**, which the line feed ends. -/
theorem cut_linesOf (rest : List UInt8) :
    Lines.cut Feed.lineFeed (Token.linesOf (us ++ [Token.endOf file offset]) ++ rest)
      = (us ++ [Token.endOf file offset]).map Token.lineBytes ++ Lines.cut Feed.lineFeed rest := by
  unfold Token.linesOf
  rw [List.flatMap_def]
  apply Lines.cut_flatten_append
  intro line hline
  obtain ⟨t, ht, rfl⟩ := List.mem_map.1 hline
  apply Token.IsLegible.exists_lineBytes
  rcases List.mem_append.1 ht with ht | ht
  · exact (hus t ht).isLegible
  · rw [List.mem_singleton.1 ht]
    exact Token.isLegible_endOf file offset

/-- **What was written is read back**, whatever follows it. -/
theorem read_linesOf (rest : List UInt8) :
    Dump.read (Token.linesOf (us ++ [Token.endOf file offset]) ++ rest)
      = some ((us ++ [Token.endOf file offset]).map Token.content,
          Lines.cut Feed.lineFeed rest) := by
  unfold Dump.read
  rw [cut_linesOf hus, Dump.readLines_append hus]

end Reading

/-- **No dump goes on where another one ends**: what one dump begins with, if it
is a dump of its own, has the same contents. -/
theorem content_of_linesOf_append {us vs : List Token} (hus : ∀ u ∈ us, u.IsSpelt)
    (hvs : ∀ v ∈ vs, v.IsSpelt) {file file' : String} {offset offset' : Nat} {rest : List UInt8}
    (h : Token.linesOf (us ++ [Token.endOf file offset]) ++ rest
      = Token.linesOf (vs ++ [Token.endOf file' offset'])) :
    (us ++ [Token.endOf file offset]).map Token.content
      = (vs ++ [Token.endOf file' offset']).map Token.content := by
  have hfront := read_linesOf hus file offset rest
  have hwhole := read_linesOf hvs file' offset' []
  rw [List.append_nil] at hwhole
  rw [h, hwhole] at hfront
  exact (Prod.mk.inj (Option.some.inj hfront)).1.symm

/-! ## §3. Texts. -/

/-- The tokens of a text have lexemes, but for the last one. -/
theorem exists_isSpelt {source : Text} {file? : Option String} {ts : List Token}
    (h : tokenize source file? = .ok ts) :
    ∃ us file offset, ts = us ++ [Token.endOf file offset] ∧ ∀ u ∈ us, u.IsSpelt := by
  obtain ⟨d, rfl, hd, rfl⟩ := exists_proper_of_tokenize h
  exact ⟨_, _, _, rfl, hd.isLexeme_of_mem_tokens _ 0⟩

/-- **A dump stands for the contents of its tokens.**  It has one line for each
of them, and its reader gives them back with the lexemes that the lines leave
out.  So the dumps of two texts are the same just if the contents of their
tokens are, and no dump goes on where another one ends. -/
theorem dump_lossless (source : Text) (file? : Option String) :
    let dump := (Scanner.ofText source file?).dump none
    ∃ ts : List Token,
      tokenize source file? = .ok ts
        ∧ dump.ending = .complete (Token.countErrors ts)
        ∧ (∀ t ∈ ts, ∀ l ∈ t.lexeme?, '\n' ∉ l)
        ∧ Lines.cut Feed.lineFeed dump.written
            = ts.map (fun t => Utf8.encode t.line ++ [Feed.lineFeed])
        ∧ Dump.read dump.written = some (ts.map Token.content, [])
        ∧ ∀ (source' : Text) (file'? : Option String) (ts' : List Token),
            tokenize source' file'? = .ok ts' →
              let dump' := (Scanner.ofText source' file'?).dump none
              (dump.written = dump'.written ↔ ts.map Token.content = ts'.map Token.content)
                ∧ (dump.written <+: dump'.written → dump.written = dump'.written) := by
  intro dump
  obtain ⟨ts, hts⟩ := exists_tokenize source file?
  obtain ⟨us, file, offset, rfl, hus⟩ := exists_isSpelt hts
  have hdump : dump = ⟨Token.linesOf (us ++ [Token.endOf file offset]), _, _⟩ :=
    Scanner.dump_ofText hts
  refine ⟨_, hts, by rw [hdump], ?_, ?_, ?_, ?_⟩
  · intro t ht
    rcases List.mem_append.1 ht with ht | ht
    · exact (hus t ht).lineFeed_notMem
    · rw [List.mem_singleton.1 ht]
      exact nofun
  · have hcut := cut_linesOf hus file offset []
    rw [List.append_nil, show Lines.cut Feed.lineFeed [] = [] from rfl, List.append_nil] at hcut
    rw [hdump, hcut]
    apply List.map_congr_left
    intro t _
    exact Utf8.encode_append _ _
  · have hwhole := read_linesOf hus file offset []
    rw [List.append_nil] at hwhole
    rw [hdump, hwhole]
    rfl
  · intro source' file'? ts' hts' dump'
    obtain ⟨vs, file', offset', rfl, hvs⟩ := exists_isSpelt hts'
    have hdump' : dump' = ⟨Token.linesOf (vs ++ [Token.endOf file' offset']), _, _⟩ :=
      Scanner.dump_ofText hts'
    rw [hdump, hdump']
    refine ⟨⟨fun h => ?_, fun h => (Token.linesOf_of_content h).1⟩, ?_⟩
    · exact content_of_linesOf_append hus hvs ((List.append_nil _).trans h)
    · rintro ⟨rest, h⟩
      exact (Token.linesOf_of_content (content_of_linesOf_append hus hvs h)).1

end LineLexer
