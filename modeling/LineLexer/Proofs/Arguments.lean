/-
  LineLexer.Proofs.Arguments
  ──────────────────────────
  **WHAT A COMMAND LINE COMES TO, GIVEN WHAT ONE MORE ARGUMENT DOES.**

  A parser is relied on argument by argument, and what was read before decides
  whether one more argument fits.  Which command lines are accepted, and what
  they ask for, can nevertheless be said without any order: by how often each
  flag is raised, and by the inputs (`Demand`).

      take_iff           — all that one more argument can do
      demand_concat_flag, demand_concat_input, demand_concat_behind
                         — what it adds to what is asked for
      parse_iff          — so what all the arguments come to
      parse_grammar      — they can be put into any order, and the escape lets
                           any text through as the input
-/
import Mathlib.Data.List.Induction
import Mathlib.Data.List.TakeWhile
import LineLexer.Proofs.Parsing

namespace LineLexer.CommandLine

/-! ## §1. What a command line asks for. -/

/-- How a flag is spelt. -/
def Flag.spellings (flag : Flag) : List Text :=
  ('-' :: '-' :: flag.long) :: (flag.short?.map (fun c => ['-', c])).toList

/-- The arguments before the escape. -/
def beforeEscape (arguments : List Text) : List Text :=
  arguments.takeWhile (· ≠ escape)

/-- The arguments behind the escape. -/
def behindEscape (arguments : List Text) : List Text :=
  (arguments.dropWhile (· ≠ escape)).drop 1

/-- Whether an argument may stand before the escape. -/
def IsKnown (argument : Text) : Prop :=
  isInput argument ∨ ∃ flag : Flag, argument ∈ flag.spellings

/-- What arguments ask for, whatever their order. -/
structure Demand where
  /-- How often each flag is raised. -/
  raised : Flag → Nat
  /-- The inputs. -/
  inputs : List Text

/-- The demand can be met. -/
structure Demand.IsSound (d : Demand) : Prop where
  /-- No flag is raised twice. -/
  once : ∀ flag, d.raised flag ≤ 1
  /-- There is at most one input. -/
  length_le : d.inputs.length ≤ 1
  /-- It is not empty. -/
  nil_notMem : [] ∉ d.inputs

/-- The options that meet the demand. -/
def Demand.options (d : Demand) : Options where
  input? := d.inputs.head?
  denyErrors := 0 < d.raised .denyErrors
  verbose := 0 < d.raised .verbose

/-- What a command line asks for.  Behind the escape, everything is an input. -/
def demand (arguments : List Text) : Demand where
  raised flag := (beforeEscape arguments).countP (· ∈ flag.spellings)
  inputs := (beforeEscape arguments).filter isInput ++ behindEscape arguments

/-- The command line can be carried out. -/
structure IsWellFormed (arguments : List Text) : Prop where
  /-- Before the escape stand inputs and flags. -/
  known : ∀ a ∈ beforeEscape arguments, IsKnown a
  /-- What it asks for can be met. -/
  sound : (demand arguments).IsSound

/-! ## §2. One more argument. -/

namespace Flag

theorem long_mem_spellings (flag : Flag) : ('-' :: '-' :: flag.long) ∈ flag.spellings :=
  List.mem_cons_self

theorem short_mem_spellings {flag : Flag} {c : Char} (h : flag.short? = some c) :
    ['-', c] ∈ flag.spellings := by
  simp [spellings, h]

/-- A spelling is the long name, or the short one if there is one. -/
theorem eq_of_mem_spellings {flag : Flag} {a : Text} (h : a ∈ flag.spellings) :
    a = '-' :: '-' :: flag.long ∨ ∃ c, flag.short? = some c ∧ a = ['-', c] := by
  unfold spellings at h
  rcases List.mem_cons.1 h with rfl | h
  · exact .inl rfl
  · obtain ⟨c, hc, rfl⟩ := Option.map_eq_some_iff.1 (Option.mem_toList.1 h)
    exact .inr ⟨c, hc, rfl⟩

/-- No flag is spelt as another one. -/
theorem eq_of_mem_spellings_of_mem_spellings {f g : Flag} {a : Text} (hf : a ∈ f.spellings)
    (hg : a ∈ g.spellings) : f = g := by
  have hall : ∀ f g : Flag, f.spellings.all (fun a => a ∈ g.spellings → f = g) = true := by
    intro f g
    cases f <;> cases g <;> decide
  simpa [hg] using List.all_eq_true.1 (hall f g) a hf

/-- Only one flag has a short name. -/
theorem eq_verbose_of_short? {flag : Flag} {c : Char} (h : flag.short? = some c) :
    flag = .verbose := by
  cases flag with
  | denyErrors => cases h
  | verbose => rfl

end Flag

theorem isInput_eq_false_of_mem_spellings {flag : Flag} {a : Text} (h : a ∈ flag.spellings) :
    isInput a = false := by
  have hall : flag.spellings.all (fun a => !isInput a) = true := by
    cases flag <;> decide
  simpa using List.all_eq_true.1 hall a h

theorem ne_escape_of_mem_spellings {flag : Flag} {a : Text} (h : a ∈ flag.spellings) :
    a ≠ escape := by
  have hall : flag.spellings.all (fun a => a ≠ escape) = true := by
    cases flag <;> decide
  simpa using List.all_eq_true.1 hall a h

theorem ne_escape_of_isInput {a : Text} (h : isInput a) : a ≠ escape := by
  intro he
  rw [he] at h
  exact absurd h (by decide)

theorem notMem_concat {arguments : List Text} {a : Text} (h : escape ∉ arguments)
    (ha : a ≠ escape) : escape ∉ arguments ++ [a] := by
  rw [List.mem_append, List.mem_singleton]
  intro hmem
  rcases hmem with hmem | heq
  · exact h hmem
  · exact ha heq.symm

/-- **The forms of an argument**: behind two hyphens, behind one, or an input. -/
theorem argument_cases (a : Text) :
    (∃ name, a = '-' :: '-' :: name)
      ∨ (∃ c t, c ≠ '-' ∧ a = '-' :: c :: t) ∨ isInput a := by
  cases a with
  | nil => exact .inr (.inr rfl)
  | cons c t =>
      by_cases hc : c = '-'
      · subst hc
        cases t with
        | nil => exact .inr (.inr rfl)
        | cons d t =>
            by_cases hd : d = '-'
            · exact .inl ⟨t, hd ▸ rfl⟩
            · exact .inr (.inl ⟨d, t, hd, rfl⟩)
      · exact .inr (.inr (by simp [isInput, hc]))

/-- What an argument before the escape can do. -/
inductive Options.Takes (o : Options) (a : Text) : Options → Prop where
  /-- It raises a flag that was not raised before. -/
  | flag {flag : Flag} (ha : a ∈ flag.spellings) (hfree : o.has flag = false) :
      Takes o a (o.keep flag)
  /-- It is the first input. -/
  | input {o' : Options} (ha : isInput a) (hplace : o.Places a o') : Takes o a o'

namespace ParserLaws

variable {ε : Type} {parse : List Text → Except ε Options} (hlaws : ParserLaws parse)
  {arguments : List Text} {a : Text} {o : Options}
include hlaws

/-- Every spelling of a flag raises it. -/
theorem spelling_iff (hno : escape ∉ arguments) {flag : Flag} (ha : a ∈ flag.spellings) :
    parse (arguments ++ [a]) = .ok o
      ↔ ∃ p, parse arguments = .ok p ∧ p.has flag = false ∧ o = p.keep flag := by
  rcases Flag.eq_of_mem_spellings ha with rfl | ⟨c, hc, rfl⟩
  · exact hlaws.long hno
  · exact (hlaws.short hno hc).trans (hlaws.long hno)

/-- Of short flags that were put together, the first one could be raised. -/
theorem exists_of_short {c : Char} {t : Text} (hno : escape ∉ arguments) (hc : c ≠ '-')
    (h : parse (arguments ++ ['-' :: c :: t]) = .ok o) :
    ∃ (flag : Flag) (p : Options),
      flag.short? = some c ∧ parse arguments = .ok p ∧ p.has flag = false := by
  -- over the flags behind it, which are read as an argument of their own
  induction t generalizing arguments c with
  | nil =>
      obtain ⟨flag, hflag⟩ := hlaws.short_declared hno hc h c List.mem_cons_self
      obtain ⟨p, hp, hfree, -⟩ := (hlaws.spelling_iff hno (Flag.short_mem_spellings hflag)).1 h
      exact ⟨flag, p, hflag, hp, hfree⟩
  | cons d t ih =>
      have hdeclared := hlaws.short_declared hno hc h
      obtain ⟨flag, hflag⟩ := hdeclared c List.mem_cons_self
      obtain ⟨flag', hflag'⟩ := hdeclared d (List.mem_cons_of_mem _ List.mem_cons_self)
      have hd := Flag.ne_hyphen_of_short? hflag'
      have hshort := Flag.short_mem_spellings hflag
      have hno' := notMem_concat hno (ne_escape_of_mem_spellings hshort)
      obtain ⟨-, p', -, hp', -⟩ := ih hno' hd ((hlaws.cluster hno hc hd).1 h)
      obtain ⟨p, hp, hfree, -⟩ := (hlaws.spelling_iff hno hshort).1 hp'
      exact ⟨flag, p, hflag, hp, hfree⟩

/-- As only one flag has a short name, nothing can be put behind it. -/
theorem eq_nil_of_short {c : Char} {t : Text} (hno : escape ∉ arguments) (hc : c ≠ '-')
    (h : parse (arguments ++ ['-' :: c :: t]) = .ok o) : t = [] := by
  cases t with
  | nil => rfl
  | cons d t =>
      have hdeclared := hlaws.short_declared hno hc h
      obtain ⟨flag, hflag⟩ := hdeclared c List.mem_cons_self
      obtain ⟨flag', hflag'⟩ := hdeclared d (List.mem_cons_of_mem _ List.mem_cons_self)
      have hd := Flag.ne_hyphen_of_short? hflag'
      have hshort := Flag.short_mem_spellings hflag
      have hno' := notMem_concat hno (ne_escape_of_mem_spellings hshort)
      obtain ⟨flag, p', hflag'', hp', hfree⟩ :=
        hlaws.exists_of_short hno' hd ((hlaws.cluster hno hc hd).1 h)
      -- it would be raised a second time
      cases Flag.eq_verbose_of_short? hflag
      cases Flag.eq_verbose_of_short? hflag''
      obtain ⟨p, -, -, rfl⟩ := (hlaws.spelling_iff hno hshort).1 hp'
      rw [Options.has_keep] at hfree
      simp at hfree

/-- What fits before the escape is an input, or spells a flag. -/
theorem isKnown_of_parse (hno : escape ∉ arguments) (ha : a ≠ escape)
    (h : parse (arguments ++ [a]) = .ok o) : IsKnown a := by
  rcases argument_cases a with ⟨name, rfl⟩ | ⟨c, t, hc, rfl⟩ | hinput
  · by_cases hvalue : '=' ∈ name
    · obtain ⟨name, value, rfl⟩ := List.append_of_mem hvalue
      exact absurd h (hlaws.no_value hno)
    · have hne : name ≠ [] := fun hnil => ha (by rw [hnil]; rfl)
      obtain ⟨flag, rfl⟩ := hlaws.long_declared hno hne hvalue h
      exact .inr ⟨flag, flag.long_mem_spellings⟩
  · obtain ⟨flag, hflag⟩ := hlaws.short_declared hno hc h c List.mem_cons_self
    rw [hlaws.eq_nil_of_short hno hc h]
    exact .inr ⟨flag, Flag.short_mem_spellings hflag⟩
  · exact .inl hinput

/-- **All that one more argument can do** before the escape. -/
theorem take_iff (hno : escape ∉ arguments) (ha : a ≠ escape) :
    parse (arguments ++ [a]) = .ok o ↔ ∃ p, parse arguments = .ok p ∧ p.Takes a o := by
  constructor
  · intro h
    rcases hlaws.isKnown_of_parse hno ha h with hinput | ⟨flag, hflag⟩
    · obtain ⟨p, hp, hplace⟩ := (hlaws.input hno hinput).1 h
      exact ⟨p, hp, .input hinput hplace⟩
    · obtain ⟨p, hp, hfree, rfl⟩ := (hlaws.spelling_iff hno hflag).1 h
      exact ⟨p, hp, .flag hflag hfree⟩
  · intro h
    obtain ⟨p, hp, htakes⟩ := h
    cases htakes with
    | flag hflag hfree => exact (hlaws.spelling_iff hno hflag).2 ⟨p, hp, hfree, rfl⟩
    | input hinput hplace => exact (hlaws.input hno hinput).2 ⟨p, hp, hplace⟩

end ParserLaws

/-! ## §3. What it adds to what is asked for. -/

section Parts

variable {a : Text} {arguments : List Text}

theorem ne_escape_of_notMem (h : escape ∉ arguments) :
    ∀ a ∈ arguments, decide (a ≠ escape) = true := by
  intro a ha
  exact decide_eq_true fun he => h (he ▸ ha)

theorem parts_of_notMem (h : escape ∉ arguments) :
    beforeEscape arguments = arguments ∧ behindEscape arguments = [] := by
  unfold beforeEscape behindEscape
  have hall := ne_escape_of_notMem h
  rw [List.takeWhile_eq_self_iff.2 hall, List.dropWhile_eq_nil_iff.2 hall]
  exact ⟨rfl, rfl⟩

theorem parts_append (h : escape ∉ arguments) (paths : List Text) :
    beforeEscape (arguments ++ escape :: paths) = arguments
      ∧ behindEscape (arguments ++ escape :: paths) = paths := by
  unfold beforeEscape behindEscape
  have hall := ne_escape_of_notMem h
  rw [List.takeWhile_append_of_pos hall, List.dropWhile_append_of_pos hall]
  simp

/-- The escape ends the arguments before it, and adds none behind it. -/
theorem parts_concat_escape (h : escape ∉ arguments) :
    beforeEscape (arguments ++ [escape]) = beforeEscape arguments
      ∧ behindEscape (arguments ++ [escape]) = behindEscape arguments := by
  obtain ⟨hbefore, hbehind⟩ := parts_append h []
  obtain ⟨hbefore', hbehind'⟩ := parts_of_notMem h
  exact ⟨hbefore.trans hbefore'.symm, hbehind.trans hbehind'.symm⟩

/-- An argument behind the escape is one more there. -/
theorem parts_concat_behind (h : escape ∈ arguments) :
    beforeEscape (arguments ++ [a]) = beforeEscape arguments
      ∧ behindEscape (arguments ++ [a]) = behindEscape arguments ++ [a] := by
  obtain ⟨before, paths, rfl, hno⟩ := List.eq_append_cons_of_mem h
  obtain ⟨hbefore, hbehind⟩ := parts_append hno paths
  obtain ⟨hbefore', hbehind'⟩ := parts_append hno (paths ++ [a])
  rw [List.append_assoc, List.cons_append, hbefore, hbehind, hbefore', hbehind']
  exact ⟨rfl, rfl⟩

/-- An argument before the escape is one more there. -/
theorem parts_concat (h : escape ∉ arguments) (ha : a ≠ escape) :
    beforeEscape (arguments ++ [a]) = beforeEscape arguments ++ [a]
      ∧ behindEscape (arguments ++ [a]) = behindEscape arguments := by
  have hno := notMem_concat h ha
  obtain ⟨hbefore, hbehind⟩ := parts_of_notMem h
  obtain ⟨hbefore', hbehind'⟩ := parts_of_notMem hno
  exact ⟨hbefore'.trans (by rw [hbefore]), hbehind'.trans hbehind.symm⟩

end Parts

namespace Demand

/-- The demand with a flag raised once more. -/
def withFlag (d : Demand) (flag : Flag) : Demand where
  raised g := d.raised g + if g = flag then 1 else 0
  inputs := d.inputs

/-- The demand with one more input. -/
def withInput (d : Demand) (a : Text) : Demand where
  raised := d.raised
  inputs := d.inputs ++ [a]

theorem has_options (d : Demand) (flag : Flag) :
    d.options.has flag = decide (0 < d.raised flag) := by
  cases flag <;> rfl

/-- It can be met if the flag was not raised before. -/
theorem isSound_withFlag_iff {d : Demand} {flag : Flag} :
    (d.withFlag flag).IsSound ↔ d.IsSound ∧ d.options.has flag = false := by
  rw [has_options, decide_eq_false_iff_not]
  constructor
  · intro h
    have honce : ∀ g, d.raised g + (if g = flag then 1 else 0) ≤ 1 := h.once
    refine ⟨⟨fun g => Nat.le_trans (Nat.le_add_right _ _) (honce g), h.length_le, h.nil_notMem⟩, ?_⟩
    have hflag := honce flag
    rw [if_pos rfl] at hflag
    omega
  · intro h
    obtain ⟨hsound, hfree⟩ := h
    refine ⟨fun g => ?_, hsound.length_le, hsound.nil_notMem⟩
    show d.raised g + (if g = flag then 1 else 0) ≤ 1
    have honce := hsound.once g
    split
    next hg =>
      subst hg
      omega
    next => omega

theorem options_withFlag (d : Demand) (flag : Flag) :
    (d.withFlag flag).options = d.options.keep flag := by
  cases flag <;> simp [withFlag, options, Options.keep]

/-- It can be met if there was no input before. -/
theorem isSound_withInput_iff {d : Demand} {a : Text} :
    (d.withInput a).IsSound ↔ d.IsSound ∧ d.options.input? = none ∧ a ≠ [] := by
  have hnone : d.options.input? = none ↔ d.inputs = [] := List.head?_eq_none_iff
  rw [hnone]
  constructor
  · intro h
    have hlength : (d.inputs ++ [a]).length ≤ 1 := h.length_le
    have hnil : [] ∉ d.inputs ++ [a] := h.nil_notMem
    rw [List.length_append, List.length_singleton] at hlength
    have hinputs : d.inputs = [] := List.length_eq_zero_iff.1 (by omega)
    rw [List.mem_append, List.mem_singleton, not_or] at hnil
    exact ⟨⟨h.once, by omega, hnil.1⟩, hinputs, fun ha => hnil.2 ha.symm⟩
  · intro h
    obtain ⟨hsound, hinputs, ha⟩ := h
    refine ⟨hsound.once, ?_, ?_⟩
    · simp [withInput, hinputs]
    · simpa [withInput, hinputs] using Ne.symm ha

theorem options_withInput {d : Demand} (h : d.options.input? = none) (a : Text) :
    (d.withInput a).options = { d.options with input? := some a } := by
  have hinputs : d.inputs = [] := List.head?_eq_none_iff.1 h
  simp [withInput, options, hinputs]

end Demand

section Concat

variable {arguments : List Text} {a : Text}

theorem demand_concat_escape (h : escape ∉ arguments) :
    demand (arguments ++ [escape]) = demand arguments := by
  obtain ⟨hbefore, hbehind⟩ := parts_concat_escape h
  unfold demand
  rw [hbefore, hbehind]

theorem demand_concat_behind (h : escape ∈ arguments) :
    demand (arguments ++ [a]) = (demand arguments).withInput a := by
  obtain ⟨hbefore, hbehind⟩ := parts_concat_behind (a := a) h
  unfold demand Demand.withInput
  rw [hbefore, hbehind, List.append_assoc]

theorem demand_concat_input (h : escape ∉ arguments) (ha : isInput a) :
    demand (arguments ++ [a]) = (demand arguments).withInput a := by
  obtain ⟨hbefore, hbehind⟩ := parts_concat h (ne_escape_of_isInput ha)
  have hnone := (parts_of_notMem h).2
  have hflag : ∀ flag : Flag, a ∉ flag.spellings := by
    intro flag hmem
    rw [isInput_eq_false_of_mem_spellings hmem] at ha
    cases ha
  unfold demand Demand.withInput
  rw [hbefore, hbehind, hnone]
  simp [ha, hflag]

theorem demand_concat_flag (h : escape ∉ arguments) {flag : Flag} (ha : a ∈ flag.spellings) :
    demand (arguments ++ [a]) = (demand arguments).withFlag flag := by
  obtain ⟨hbefore, hbehind⟩ := parts_concat h (ne_escape_of_mem_spellings ha)
  have hinput := isInput_eq_false_of_mem_spellings ha
  have hspells : ∀ g : Flag, a ∈ g.spellings ↔ g = flag := fun g =>
    ⟨fun hmem => Flag.eq_of_mem_spellings_of_mem_spellings hmem ha, fun hg => hg ▸ ha⟩
  unfold demand Demand.withFlag
  rw [hbefore, hbehind]
  simp [List.countP_singleton, hinput, hspells]

end Concat

/-! ## §4. All arguments. -/

/-- The command line is accepted and comes to these options, by what it asks for
in all. -/
def Accepts (arguments : List Text) (o : Options) : Prop :=
  IsWellFormed arguments ∧ o = (demand arguments).options

namespace Accepts

variable {arguments : List Text} {a : Text} {o : Options}

theorem nil_iff : Accepts [] o ↔ o = {} := by
  have hsound : (demand []).IsSound := ⟨fun _ => Nat.zero_le 1, Nat.zero_le 1, List.not_mem_nil⟩
  exact and_iff_right ⟨List.forall_mem_nil _, hsound⟩

theorem concat_escape_iff (h : escape ∉ arguments) :
    Accepts (arguments ++ [escape]) o ↔ Accepts arguments o := by
  have hbefore := (parts_concat_escape h).1
  have hdemand := demand_concat_escape h
  unfold Accepts
  constructor
  · intro ⟨hwell, ho⟩
    exact ⟨⟨hbefore ▸ hwell.known, hdemand ▸ hwell.sound⟩, hdemand ▸ ho⟩
  · intro ⟨hwell, ho⟩
    exact ⟨⟨hbefore.symm ▸ hwell.known, hdemand.symm ▸ hwell.sound⟩, hdemand.symm ▸ ho⟩

/-- One more input is accepted if it is the first one, and not empty. -/
theorem input_iff {arguments' : List Text}
    (hknown : (∀ b ∈ beforeEscape arguments', IsKnown b)
      ↔ ∀ b ∈ beforeEscape arguments, IsKnown b)
    (hdemand : demand arguments' = (demand arguments).withInput a) :
    Accepts arguments' o ↔ ∃ p, Accepts arguments p ∧ p.Places a o := by
  constructor
  · intro ⟨hwell, ho⟩
    have hsound := hwell.sound
    rw [hdemand] at hsound ho
    obtain ⟨hsound, hnone, hne⟩ := Demand.isSound_withInput_iff.1 hsound
    rw [Demand.options_withInput hnone] at ho
    exact ⟨_, ⟨⟨hknown.1 hwell.known, hsound⟩, rfl⟩, hnone, hne, ho⟩
  · intro h
    obtain ⟨p, ⟨hwell, rfl⟩, hnone, hne, rfl⟩ := h
    refine ⟨⟨hknown.2 hwell.known, ?_⟩, ?_⟩
    · rw [hdemand]
      exact Demand.isSound_withInput_iff.2 ⟨hwell.sound, hnone, hne⟩
    · rw [hdemand, Demand.options_withInput hnone]

theorem concat_behind_iff (h : escape ∈ arguments) :
    Accepts (arguments ++ [a]) o ↔ ∃ p, Accepts arguments p ∧ p.Places a o := by
  have hbefore := (parts_concat_behind (a := a) h).1
  exact input_iff (by rw [hbefore]) (demand_concat_behind h)

theorem known_concat (h : escape ∉ arguments) (ha : a ≠ escape) :
    (∀ b ∈ beforeEscape (arguments ++ [a]), IsKnown b)
      ↔ (∀ b ∈ beforeEscape arguments, IsKnown b) ∧ IsKnown a := by
  rw [(parts_concat h ha).1, List.forall_mem_append, List.forall_mem_singleton]

theorem concat_input_iff (h : escape ∉ arguments) (ha : isInput a) :
    Accepts (arguments ++ [a]) o ↔ ∃ p, Accepts arguments p ∧ p.Places a o := by
  refine input_iff ((known_concat h (ne_escape_of_isInput ha)).trans ?_)
    (demand_concat_input h ha)
  exact and_iff_left (.inl ha)

/-- One more flag is accepted if it was not raised before. -/
theorem concat_flag_iff (h : escape ∉ arguments) {flag : Flag} (ha : a ∈ flag.spellings) :
    Accepts (arguments ++ [a]) o
      ↔ ∃ p, Accepts arguments p ∧ p.has flag = false ∧ o = p.keep flag := by
  have hknown := known_concat h (ne_escape_of_mem_spellings ha)
  have hdemand := demand_concat_flag h ha
  constructor
  · intro ⟨hwell, ho⟩
    have hsound := hwell.sound
    rw [hdemand] at hsound ho
    obtain ⟨hsound, hfree⟩ := Demand.isSound_withFlag_iff.1 hsound
    rw [Demand.options_withFlag] at ho
    exact ⟨_, ⟨⟨(hknown.1 hwell.known).1, hsound⟩, rfl⟩, hfree, ho⟩
  · intro h
    obtain ⟨p, ⟨hwell, rfl⟩, hfree, rfl⟩ := h
    refine ⟨⟨hknown.2 ⟨hwell.known, .inr ⟨flag, ha⟩⟩, ?_⟩, ?_⟩
    · rw [hdemand]
      exact Demand.isSound_withFlag_iff.2 ⟨hwell.sound, hfree⟩
    · rw [hdemand, Demand.options_withFlag]

/-- **All that one more argument adds** before the escape. -/
theorem concat_iff (h : escape ∉ arguments) (ha : a ≠ escape) :
    Accepts (arguments ++ [a]) o ↔ ∃ p, Accepts arguments p ∧ p.Takes a o := by
  constructor
  · intro haccepts
    obtain ⟨-, hlast⟩ := (known_concat h ha).1 haccepts.1.known
    rcases hlast with hinput | ⟨flag, hflag⟩
    · obtain ⟨p, hp, hplace⟩ := (concat_input_iff h hinput).1 haccepts
      exact ⟨p, hp, .input hinput hplace⟩
    · obtain ⟨p, hp, hfree, rfl⟩ := (concat_flag_iff h hflag).1 haccepts
      exact ⟨p, hp, .flag hflag hfree⟩
  · intro ⟨p, hp, htakes⟩
    cases htakes with
    | flag hflag hfree => exact (concat_flag_iff h hflag).2 ⟨p, hp, hfree, rfl⟩
    | input hinput hplace => exact (concat_input_iff h hinput).2 ⟨p, hp, hplace⟩

end Accepts

/-- **What all the arguments come to**: a command line is accepted exactly if it
is well-formed, and comes to what it asks for. -/
theorem ParserLaws.parse_iff {ε : Type} {parse : List Text → Except ε Options}
    (hlaws : ParserLaws parse) {arguments : List Text} {o : Options} :
    parse arguments = .ok o ↔ Accepts arguments o := by
  -- one more argument does the same to what is parsed and to what is asked for
  induction arguments using List.reverseRecOn generalizing o with
  | nil =>
      rw [hlaws.nil, Accepts.nil_iff, Except.ok.injEq]
      exact eq_comm
  | append_singleton arguments a ih =>
      by_cases hbehind : escape ∈ arguments
      · rw [hlaws.behind hbehind, Accepts.concat_behind_iff hbehind]
        simp only [ih]
      · by_cases ha : a = escape
        · rw [ha, hlaws.ends hbehind, Accepts.concat_escape_iff hbehind]
          exact ih
        · rw [hlaws.take_iff hbehind ha, Accepts.concat_iff hbehind ha]
          simp only [ih]

/-! ## §5. Whole command lines. -/

/-- A list of one member or none has no other order. -/
theorem eq_of_perm_of_length_le {paths paths' : List Text} (h : paths.Perm paths')
    (hle : paths.length ≤ 1) : paths = paths' := by
  match paths, hle with
  | [], _ => exact h.nil_eq
  | [path], _ => exact h.singleton_eq

/-- **The order of arguments does not matter** where there is no escape. -/
theorem Accepts.perm {arguments arguments' : List Text} {o : Options}
    (hperm : arguments.Perm arguments') (hno : escape ∉ arguments)
    (h : Accepts arguments o) : Accepts arguments' o := by
  have hno' : escape ∉ arguments' := fun hmem => hno (hperm.mem_iff.2 hmem)
  obtain ⟨hbefore, hbehind⟩ := parts_of_notMem hno
  obtain ⟨hbefore', hbehind'⟩ := parts_of_notMem hno'
  obtain ⟨hwell, rfl⟩ := h
  have hdemand : demand arguments = demand arguments' := by
    have hle := hwell.sound.length_le
    unfold demand at hle ⊢
    rw [hbefore, hbehind, List.append_nil] at hle
    rw [hbefore, hbehind, hbefore', hbehind', List.append_nil, List.append_nil,
      eq_of_perm_of_length_le (hperm.filter isInput) hle]
    congr 1
    funext flag
    exact hperm.countP_eq _
  refine ⟨⟨?_, hdemand ▸ hwell.sound⟩, congrArg _ hdemand⟩
  intro a ha
  rw [hbefore'] at ha
  apply hwell.known
  rw [hbefore]
  exact hperm.mem_iff.2 ha

/-- **Behind the escape any text is the input**, whatever it looks like. -/
theorem Accepts.of_escape {flags : List Text} {path : Text} (hpath : path ≠ [])
    (hflags : ∀ a ∈ flags, ∃ flag : Flag, a ∈ flag.spellings)
    (honce : ∀ flag : Flag, flags.countP (· ∈ flag.spellings) ≤ 1) :
    Accepts (flags ++ [escape, path])
      ⟨some path, flags.any (· ∈ Flag.denyErrors.spellings),
        flags.any (· ∈ Flag.verbose.spellings)⟩ := by
  have hno : escape ∉ flags := by
    intro hmem
    obtain ⟨flag, hflag⟩ := hflags escape hmem
    exact ne_escape_of_mem_spellings hflag rfl
  have hfilter : flags.filter isInput = [] := by
    rw [List.filter_eq_nil_iff]
    intro a ha
    obtain ⟨flag, hflag⟩ := hflags a ha
    rw [isInput_eq_false_of_mem_spellings hflag]
    exact Bool.false_ne_true
  obtain ⟨hbefore, hbehind⟩ := parts_append hno [path]
  have hdemand : demand (flags ++ [escape, path])
      = ⟨fun flag => flags.countP (· ∈ flag.spellings), [path]⟩ := by
    unfold demand
    rw [hbefore, hbehind, hfilter]
    rfl
  have hany : ∀ flag : Flag, flags.any (· ∈ flag.spellings)
      = decide (0 < flags.countP (· ∈ flag.spellings)) := by
    intro flag
    rw [Bool.eq_iff_iff, List.any_eq_true, decide_eq_true_iff, List.countP_pos_iff]
  unfold Accepts
  rw [hdemand, hany, hany]
  refine ⟨⟨?_, hdemand ▸ ⟨honce, Nat.le_refl 1, ?_⟩⟩, rfl⟩
  · intro a ha
    rw [hbefore] at ha
    exact .inr (hflags a ha)
  · rw [List.mem_singleton]
    exact hpath.symm

/-- **Which command lines are accepted.**  Whether a command line is accepted,
and what it comes to, is told by how often each flag is raised before the escape
and by the inputs; these are the arguments before the escape that are no flags,
and all that stand behind it.  So without an escape the arguments can be put into
any order; and flags with an escape and any text behind them are read back as
those flags and that text. -/
theorem parse_grammar {ε : Type} {parse : List Text → Except ε Options}
    (hlaws : ParserLaws parse) :
    (∀ (arguments : List Text) (o : Options),
        parse arguments = .ok o ↔ IsWellFormed arguments ∧ o = (demand arguments).options)
      ∧ (∀ (arguments arguments' : List Text) (o : Options), arguments.Perm arguments' →
        escape ∉ arguments → parse arguments = .ok o → parse arguments' = .ok o)
      ∧ ∀ (flags : List Text) (path : Text), path ≠ [] →
        (∀ a ∈ flags, ∃ flag : Flag, a ∈ flag.spellings) →
        (∀ flag : Flag, flags.countP (· ∈ flag.spellings) ≤ 1) →
        parse (flags ++ [escape, path])
          = .ok ⟨some path, flags.any (· ∈ Flag.denyErrors.spellings),
              flags.any (· ∈ Flag.verbose.spellings)⟩ := by
  refine ⟨?_, ?_, ?_⟩
  · exact fun arguments o => hlaws.parse_iff
  · exact fun arguments arguments' o hperm hno h =>
      hlaws.parse_iff.2 (.perm hperm hno (hlaws.parse_iff.1 h))
  · exact fun flags path hpath hflags honce =>
      hlaws.parse_iff.2 (.of_escape hpath hflags honce)

/-- A flag behind the escape is an input. -/
theorem parse_escaped_flag :
    ParserLaws parse
      ∧ parse ["-v".toList, escape, "--deny-errors".toList]
        = .ok ⟨some "--deny-errors".toList, false, true⟩ := by
  have hflags : ∀ a ∈ ["-v".toList], ∃ flag : Flag, a ∈ flag.spellings := by
    intro a ha
    exact ⟨.verbose, List.mem_singleton.1 ha ▸ by decide⟩
  have honce : ∀ flag : Flag, ["-v".toList].countP (· ∈ flag.spellings) ≤ 1 :=
    fun flag => List.countP_le_length
  exact ⟨lawful_parse,
    (parse_grammar lawful_parse).2.2 ["-v".toList] "--deny-errors".toList (by decide) hflags honce⟩

end LineLexer.CommandLine
