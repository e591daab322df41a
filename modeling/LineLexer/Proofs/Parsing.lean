/-
  LineLexer.Proofs.Parsing
  ────────────────────────
  **WHAT IS RELIED ON OF A PARSER FOR THE COMMAND LINE.**

  The program declares its flags and leaves it to a parser to read arguments
  by that declaration.  What it relies on is what is documented of such a
  parser, and that goes argument by argument: what one more argument comes to,
  behind those that were read before.

      ParserLaws        — what is relied on
      parse_concat_iff  — one more argument is taken behind the others
      lawful_parse      — so the parser that the program is run with keeps to
                          the laws
-/
import Mathlib.Data.List.TakeWhile
import Mathlib.Tactic.SplitIfs
import LineLexer.CommandLine.Parser

namespace LineLexer.CommandLine

/-! ## §1. What is relied on. -/

/-- Whether an argument before the escape is an input: a hyphen alone, or a text
that does not begin with one. -/
def isInput (argument : Text) : Bool :=
  argument = ['-'] || argument.head? ≠ some '-'

/-- What one more input does: it has to be the only one, and not empty. -/
def Options.Places (o : Options) (a : Text) (o' : Options) : Prop :=
  o.input? = none ∧ a ≠ [] ∧ o' = { o with input? := some a }

/-- What is documented of a parser that reads arguments by the declaration of the
flags: what one more argument comes to, behind arguments without an escape in
the first place. -/
structure ParserLaws {ε : Type} (parse : List Text → Except ε Options) : Prop where
  /-- Without arguments no flag is raised, and there is no input. -/
  nil : parse [] = .ok {}
  /-- The long name of a flag raises it, and it can be given once. -/
  long : ∀ {arguments : List Text} {flag : Flag} {o : Options}, escape ∉ arguments →
    (parse (arguments ++ ['-' :: '-' :: flag.long]) = .ok o
      ↔ ∃ p, parse arguments = .ok p ∧ p.has flag = false ∧ o = p.keep flag)
  /-- Its short name stands for the long one. -/
  short : ∀ {arguments : List Text} {flag : Flag} {c : Char} {o : Options},
    escape ∉ arguments → flag.short? = some c →
      (parse (arguments ++ [['-', c]]) = .ok o
        ↔ parse (arguments ++ ['-' :: '-' :: flag.long]) = .ok o)
  /-- Short flags can be put together behind one hyphen. -/
  cluster : ∀ {arguments : List Text} {c d : Char} {t : Text} {o : Options},
    escape ∉ arguments → c ≠ '-' → d ≠ '-' →
      (parse (arguments ++ ['-' :: c :: d :: t]) = .ok o
        ↔ parse (arguments ++ [['-', c]] ++ ['-' :: d :: t]) = .ok o)
  /-- No other short flag is accepted: one for help stops the program. -/
  short_declared : ∀ {arguments : List Text} {c : Char} {t : Text} {o : Options},
    escape ∉ arguments → c ≠ '-' → parse (arguments ++ ['-' :: c :: t]) = .ok o →
      ∀ d ∈ c :: t, ∃ flag : Flag, flag.short? = some d
  /-- No other long flag is, and names cannot be abbreviated. -/
  long_declared : ∀ {arguments : List Text} {name : Text} {o : Options},
    escape ∉ arguments → name ≠ [] → '=' ∉ name →
      parse (arguments ++ ['-' :: '-' :: name]) = .ok o → ∃ flag : Flag, flag.long = name
  /-- A flag takes no value. -/
  no_value : ∀ {arguments : List Text} {name value : Text} {o : Options},
    escape ∉ arguments → parse (arguments ++ ['-' :: '-' :: (name ++ '=' :: value)]) ≠ .ok o
  /-- Any other argument is an input. -/
  input : ∀ {arguments : List Text} {a : Text} {o : Options},
    escape ∉ arguments → isInput a →
      (parse (arguments ++ [a]) = .ok o ↔ ∃ p, parse arguments = .ok p ∧ p.Places a o)
  /-- The escape asks for nothing. -/
  ends : ∀ {arguments : List Text} {o : Options}, escape ∉ arguments →
    (parse (arguments ++ [escape]) = .ok o ↔ parse arguments = .ok o)
  /-- Behind it, every argument is an input. -/
  behind : ∀ {arguments : List Text} {a : Text} {o : Options}, escape ∈ arguments →
    (parse (arguments ++ [a]) = .ok o ↔ ∃ p, parse arguments = .ok p ∧ p.Places a o)

/-! ## §2. One argument. -/

/-- What comes of one step and another behind it. -/
theorem bind_eq_ok_iff {α β ε : Type} {x : Except ε α} {f : α → Except ε β} {b : β} :
    x >>= f = .ok b ↔ ∃ a, x = .ok a ∧ f a = .ok b := by
  cases x with
  | error e => simp [bind, Except.bind]
  | ok a => simp [bind, Except.bind]

/-- What comes of one step behind several. -/
theorem foldlM_concat_eq_ok_iff {α β ε : Type} {f : β → α → Except ε β} {xs : List α} {x : α}
    {b b' : β} :
    (xs ++ [x]).foldlM f b = .ok b' ↔ ∃ c, xs.foldlM f b = .ok c ∧ f c x = .ok b' := by
  rw [List.foldlM_append, bind_eq_ok_iff]
  simp

theorem Flag.long_ne_escape (flag : Flag) : ('-' :: '-' :: flag.long) ≠ escape := by
  cases flag <;> decide

/-- No flag has a hyphen as its short name. -/
theorem Flag.ne_hyphen_of_short? {flag : Flag} {c : Char} (h : flag.short? = some c) :
    c ≠ '-' := by
  cases flag with
  | denyErrors => cases h
  | verbose =>
      cases h
      decide

namespace Switch

theorem ofShort?_of_short? {flag : Flag} {c : Char} (h : flag.short? = some c) :
    ofShort? c = some (.raise flag) := by
  cases flag with
  | denyErrors => cases h
  | verbose =>
      cases h
      decide

theorem long_of_ofLong? {name : Text} {flag : Flag} (h : ofLong? name = some (.raise flag)) :
    flag.long = name := by
  unfold ofLong? at h
  split_ifs at h
  · cases h
  · cases h
  · obtain ⟨g, hfind, heq⟩ := Option.map_eq_some_iff.1 h
    cases heq
    simpa using List.find?_some hfind

theorem short?_of_ofShort? {c : Char} {flag : Flag} (h : ofShort? c = some (.raise flag)) :
    flag.short? = some c := by
  unfold ofShort? at h
  split_ifs at h
  · cases h
  · cases h
  · obtain ⟨g, hfind, heq⟩ := Option.map_eq_some_iff.1 h
    cases heq
    simpa using List.find?_some hfind

end Switch

namespace Argument

theorem ofText_short {c : Char} (hc : c ≠ '-') (t : Text) :
    ofText ('-' :: c :: t) = .short (c :: t) := by
  unfold ofText
  split
  next heq => exact absurd (List.cons.inj (List.cons.inj heq).2).1 hc
  next heq =>
    cases heq
    rfl
  next hno => exact absurd rfl (hno c t)

theorem ofText_of_isInput {a : Text} (h : isInput a) : ofText a = .input a := by
  unfold ofText
  split
  next t => exact absurd h (by simp [isInput])
  next c t hc => exact absurd h (by simp [isInput])
  next => rfl

end Argument

namespace Options

variable {o o' : Options} {a : Text}

theorem settled_eq_ok_iff : o.settled = .ok o' ↔ o.input? ≠ some [] ∧ o' = o := by
  unfold settled
  split
  next h => simp [h]
  next h => simp [h, eq_comm]

theorem guard_eq_ok_iff {held : Bool} {stop : Stop} :
    (if held then .error stop else .ok o : Except Stop Options) = .ok o'
      ↔ held = false ∧ o' = o := by
  cases held with
  | true => simp
  | false => simp [eq_comm]

/-- **What a switch comes to** where it does not stop the program. -/
theorem apply_eq_ok_iff {switch : Switch} :
    o.apply switch = .ok o' ↔ ∃ flag : Flag, switch = .raise flag
      ∧ o.input? ≠ some [] ∧ o.has flag = false ∧ o' = o.keep flag := by
  unfold apply
  rw [bind_eq_ok_iff]
  constructor
  · intro h
    obtain ⟨p, hsettled, happly⟩ := h
    obtain ⟨hin, rfl⟩ := settled_eq_ok_iff.1 hsettled
    cases switch with
    | raise flag => exact ⟨flag, rfl, hin, guard_eq_ok_iff.1 happly⟩
    | help => cases happly
    | version => cases happly
  · intro h
    obtain ⟨flag, rfl, hin, hraise⟩ := h
    exact ⟨o, settled_eq_ok_iff.2 ⟨hin, rfl⟩, guard_eq_ok_iff.2 hraise⟩

/-- Each of several short flags is one of the program. -/
theorem exists_of_applyShort {t : Text} (h : o.applyShort t = .ok o') :
    ∀ c ∈ t, ∃ flag : Flag, flag.short? = some c := by
  induction t generalizing o with
  | nil => exact List.forall_mem_nil _
  | cons c t ih =>
      unfold applyShort at h
      split at h
      next switch hswitch =>
        -- a switch that asks for an answer stops the program
        obtain ⟨p, happly, hmore⟩ := bind_eq_ok_iff.1 h
        obtain ⟨flag, rfl, -⟩ := apply_eq_ok_iff.1 happly
        exact List.forall_mem_cons.2 ⟨⟨flag, Switch.short?_of_ofShort? hswitch⟩, ih hmore⟩
      next => cases h

theorem take_long (flag : Flag) : o.take ('-' :: '-' :: flag.long) = o.apply (.raise flag) := by
  cases flag <;> rfl

theorem take_short {c : Char} (hc : c ≠ '-') (t : Text) :
    o.take ('-' :: c :: t) = o.applyShort (c :: t) := by
  unfold take
  rw [Argument.ofText_short hc]

/-- Short flags behind one hyphen are taken one after the other. -/
theorem take_cluster {c d : Char} (hc : c ≠ '-') (hd : d ≠ '-') (t : Text) :
    o.take ('-' :: c :: d :: t) = o.take ['-', c] >>= (·.take ('-' :: d :: t)) := by
  simp only [take_short hc, take_short hd]
  rw [applyShort, applyShort]
  cases Switch.ofShort? c with
  | none => rfl
  | some switch =>
      simp only [bind_assoc]
      rfl

theorem take_of_isInput (h : isInput a) : o.take a = o.place a := by
  unfold take
  rw [Argument.ofText_of_isInput h]

theorem place_eq_ok_iff :
    o.place a = .ok o' ↔ o.input? = none ∧ o' = { o with input? := some a } := by
  unfold place
  cases hin : o.input? with
  | none => simp [eq_comm]
  | some path => simp

/-- A long name is that of a flag, and nothing stands behind it. -/
theorem exists_of_take_long {t : Text} (h : o.take ('-' :: '-' :: t) = .ok o') :
    '=' ∉ t ∧ ∃ flag : Flag, flag.long = t := by
  unfold take Argument.ofText at h
  cases hswitch : Switch.ofLong? (t.takeWhile (· != '=')) with
  | none =>
      simp only [hswitch] at h
      cases h
  | some switch =>
      cases hvalue : t.dropWhile (· != '=') with
      | cons c value =>
          -- whatever the switch is, it takes no value
          simp only [hswitch, hvalue] at h
          cases h
      | nil =>
          -- without an equals sign, all of the text is the name
          have hno : ∀ c ∈ t, (c != '=') = true := List.dropWhile_eq_nil_iff.1 hvalue
          rw [List.takeWhile_eq_self_iff.2 hno] at hswitch
          simp only [List.takeWhile_eq_self_iff.2 hno, hswitch, hvalue] at h
          obtain ⟨flag, rfl, -⟩ := apply_eq_ok_iff.1 h
          refine ⟨fun hmem => ?_, flag, Switch.long_of_ofLong? hswitch⟩
          simpa using hno '=' hmem

/-! ## §3. One more argument. -/

/-- Arguments before the escape are taken one by one. -/
theorem takeAll_append {arguments : List Text} (h : escape ∉ arguments) (more : List Text) :
    o.takeAll (arguments ++ more) = arguments.foldlM take o >>= (·.takeAll more) := by
  -- over the arguments before it, from any options
  induction arguments generalizing o with
  | nil => rfl
  | cons a arguments ih =>
      rw [List.mem_cons, not_or] at h
      rw [List.cons_append, takeAll, if_neg (Ne.symm h.1), List.foldlM_cons, bind_assoc]
      congr 1
      funext p
      exact ih h.2

end Options

section Concat

variable {arguments : List Text} {a : Text} {o : Options}

/-- Without an escape, the arguments are all taken before it. -/
theorem parse_iff_of_notMem (h : escape ∉ arguments) :
    parse arguments = .ok o
      ↔ arguments.foldlM Options.take {} = .ok o ∧ o.input? ≠ some [] := by
  have htakeAll := Options.takeAll_append (o := {}) h []
  rw [List.append_nil] at htakeAll
  unfold parse
  rw [htakeAll, bind_eq_ok_iff]
  simp only [Options.takeAll, Options.settled_eq_ok_iff]
  constructor
  · intro hparse
    obtain ⟨p, hp, hin, rfl⟩ := hparse
    exact ⟨hp, hin⟩
  · intro htaken
    exact ⟨o, htaken.1, htaken.2, rfl⟩

/-- **One more argument** is taken behind the others. -/
theorem parse_concat_iff (h : escape ∉ arguments) (ha : a ≠ escape) :
    parse (arguments ++ [a]) = .ok o
      ↔ ∃ p, arguments.foldlM Options.take {} = .ok p ∧ p.take a = .ok o
        ∧ o.input? ≠ some [] := by
  have hno : escape ∉ arguments ++ [a] := by simp [h, Ne.symm ha]
  rw [parse_iff_of_notMem hno, foldlM_concat_eq_ok_iff]
  simp only [exists_and_right, and_assoc.symm]

/-- Behind the escape, arguments are placed one by one. -/
theorem parse_append_escape_iff (h : escape ∉ arguments) (paths : List Text) :
    parse (arguments ++ escape :: paths) = .ok o
      ↔ ∃ p, arguments.foldlM Options.take {} = .ok p
        ∧ paths.foldlM Options.place p = .ok o ∧ o.input? ≠ some [] := by
  unfold parse
  rw [Options.takeAll_append h, bind_eq_ok_iff]
  simp only [Options.takeAll, if_pos, bind_eq_ok_iff, Options.settled_eq_ok_iff]
  constructor
  · intro hparse
    obtain ⟨p, hp, q, hq, hin, rfl⟩ := hparse
    exact ⟨p, hp, hq, hin⟩
  · intro htaken
    obtain ⟨p, hp, hq, hin⟩ := htaken
    exact ⟨p, hp, o, hq, hin, rfl⟩

/-- Placing an argument that is not empty in the end. -/
theorem place_and_iff {p : Options} :
    p.place a = .ok o ∧ o.input? ≠ some [] ↔ p.Places a o := by
  rw [Options.place_eq_ok_iff]
  constructor
  · intro h
    obtain ⟨⟨hnone, rfl⟩, hin⟩ := h
    exact ⟨hnone, fun ha => hin (congrArg some ha), rfl⟩
  · intro h
    obtain ⟨hnone, ha, rfl⟩ := h
    exact ⟨⟨hnone, rfl⟩, fun hin => ha (Option.some.inj hin)⟩

end Concat

/-! ## §4. The laws. -/

section Laws

variable {arguments : List Text} {a : Text} {o : Options}

theorem parse_long_iff {flag : Flag} (h : escape ∉ arguments) :
    parse (arguments ++ ['-' :: '-' :: flag.long]) = .ok o
      ↔ ∃ p, parse arguments = .ok p ∧ p.has flag = false ∧ o = p.keep flag := by
  rw [parse_concat_iff h flag.long_ne_escape]
  simp only [parse_iff_of_notMem h, Options.take_long, Options.apply_eq_ok_iff]
  constructor
  · intro htaken
    obtain ⟨p, hp, ⟨g, hg, hin, hfree, rfl⟩, -⟩ := htaken
    cases hg
    exact ⟨p, ⟨hp, hin⟩, hfree, rfl⟩
  · intro hparse
    obtain ⟨p, ⟨hp, hin⟩, hfree, rfl⟩ := hparse
    -- the input is still what it was
    exact ⟨p, hp, ⟨flag, rfl, hin, hfree, rfl⟩, by rwa [Options.input?_keep]⟩

theorem parse_short_iff {flag : Flag} {c : Char} (h : escape ∉ arguments)
    (hc : flag.short? = some c) :
    parse (arguments ++ [['-', c]]) = .ok o
      ↔ parse (arguments ++ ['-' :: '-' :: flag.long]) = .ok o := by
  have hhyphen := Flag.ne_hyphen_of_short? hc
  have hshort : ['-', c] ≠ escape := by simp [escape, hhyphen]
  have htake : ∀ p : Options, p.take ['-', c] = p.take ('-' :: '-' :: flag.long) := by
    intro p
    rw [Options.take_long, Options.take_short hhyphen]
    simp only [Options.applyShort, Switch.ofShort?_of_short? hc]
    exact bind_pure _
  rw [parse_concat_iff h hshort, parse_concat_iff h flag.long_ne_escape]
  simp only [htake]

theorem parse_cluster_iff {c d : Char} {t : Text} (h : escape ∉ arguments) (hc : c ≠ '-')
    (hd : d ≠ '-') :
    parse (arguments ++ ['-' :: c :: d :: t]) = .ok o
      ↔ parse (arguments ++ [['-', c]] ++ ['-' :: d :: t]) = .ok o := by
  have hcluster : ('-' :: c :: d :: t) ≠ escape := by simp [escape]
  have hfirst : ['-', c] ≠ escape := by simp [escape, hc]
  have hothers : ('-' :: d :: t) ≠ escape := by simp [escape, hd]
  have hno : escape ∉ arguments ++ [['-', c]] := by simp [h, Ne.symm hfirst]
  rw [parse_concat_iff h hcluster, parse_concat_iff hno hothers]
  simp only [Options.take_cluster hc hd, bind_eq_ok_iff, foldlM_concat_eq_ok_iff]
  constructor
  · intro htaken
    obtain ⟨p, hp, ⟨q, hq, ho⟩, hin⟩ := htaken
    exact ⟨q, ⟨p, hp, hq⟩, ho, hin⟩
  · intro htaken
    obtain ⟨q, ⟨p, hp, hq⟩, ho, hin⟩ := htaken
    exact ⟨p, hp, ⟨q, hq, ho⟩, hin⟩

theorem parse_input_iff (h : escape ∉ arguments) (hinput : isInput a) :
    parse (arguments ++ [a]) = .ok o ↔ ∃ p, parse arguments = .ok p ∧ p.Places a o := by
  have ha : a ≠ escape := by
    intro he
    rw [he] at hinput
    exact absurd hinput (by decide)
  rw [parse_concat_iff h ha]
  simp only [parse_iff_of_notMem h, Options.take_of_isInput hinput, place_and_iff]
  constructor
  · intro htaken
    obtain ⟨p, hp, hplaces⟩ := htaken
    exact ⟨p, ⟨hp, by simp [hplaces.1]⟩, hplaces⟩
  · intro hparse
    obtain ⟨p, hp, hplaces⟩ := hparse
    exact ⟨p, hp.1, hplaces⟩

theorem parse_escape_iff (h : escape ∉ arguments) :
    parse (arguments ++ [escape]) = .ok o ↔ parse arguments = .ok o := by
  rw [parse_append_escape_iff h [], parse_iff_of_notMem h]
  constructor
  · intro htaken
    obtain ⟨p, hp, ho, hin⟩ := htaken
    cases ho
    exact ⟨hp, hin⟩
  · intro htaken
    exact ⟨o, htaken.1, rfl, htaken.2⟩

theorem parse_behind_iff (h : escape ∈ arguments) :
    parse (arguments ++ [a]) = .ok o ↔ ∃ p, parse arguments = .ok p ∧ p.Places a o := by
  obtain ⟨before, paths, rfl, hno⟩ := List.eq_append_cons_of_mem h
  rw [List.append_assoc, List.cons_append, parse_append_escape_iff hno]
  simp only [parse_append_escape_iff hno, foldlM_concat_eq_ok_iff]
  constructor
  · intro htaken
    obtain ⟨p, hp, ⟨q, hq, hplace⟩, hin⟩ := htaken
    have hplaces := place_and_iff.1 ⟨hplace, hin⟩
    exact ⟨q, ⟨p, hp, hq, by simp [hplaces.1]⟩, hplaces⟩
  · intro hparse
    obtain ⟨q, ⟨p, hp, hq, -⟩, hplaces⟩ := hparse
    obtain ⟨hplace, hin⟩ := place_and_iff.2 hplaces
    exact ⟨p, hp, ⟨q, hq, hplace⟩, hin⟩

end Laws

/-- **The parser keeps to the laws.** -/
theorem lawful_parse : ParserLaws parse where
  nil := rfl
  long := parse_long_iff
  short := parse_short_iff
  cluster := parse_cluster_iff
  short_declared := by
    intro arguments c t o hno hc h
    have ha : ('-' :: c :: t) ≠ escape := by simp [escape, hc]
    obtain ⟨p, -, htake, -⟩ := (parse_concat_iff hno ha).1 h
    rw [Options.take_short hc] at htake
    exact Options.exists_of_applyShort htake
  long_declared := by
    intro arguments name o hno hne hvalue h
    have ha : ('-' :: '-' :: name) ≠ escape := by simp [escape, hne]
    obtain ⟨p, -, htake, -⟩ := (parse_concat_iff hno ha).1 h
    exact (Options.exists_of_take_long htake).2
  no_value := by
    intro arguments name value o hno h
    have ha : ('-' :: '-' :: (name ++ '=' :: value)) ≠ escape := by simp [escape]
    obtain ⟨p, -, htake, -⟩ := (parse_concat_iff hno ha).1 h
    exact (Options.exists_of_take_long htake).1 (by simp)
  input := parse_input_iff
  ends := parse_escape_iff
  behind := parse_behind_iff

end LineLexer.CommandLine
