/-
  LineLexer.Proofs.Settings
  ─────────────────────────
  **WHAT A LOGGER MAKES OF A SETTING.**

  The program leaves it to a logger which records are shown.  What it relies
  on is what is documented: a setting that is written out of directives is
  understood, and the directives decide.  The logger that the program is run
  with reads such a setting back, since the text of a directive has neither
  commas nor slashes nor white space:

      LoggerLaws              — what is relied on
      LoggerLaws.of_name      — so the name of a threshold sets it for all
      ofSetting_of_isSetting  — a setting is read back as its directives
      lawful_ofSetting        — so that logger keeps to the laws
-/
import Mathlib.Data.List.Basic
import LineLexer.Program.Standard

namespace LineLexer

open Log (Directive Filter IsSetting Level Record Threshold)

/-! ## §1. What is relied on. -/

namespace Program

/-- What is documented of a logger and its settings. -/
structure LoggerLaws (logger : Text → Logger) : Prop where
  /-- Nothing is said about a setting that is written out of directives. -/
  notices : ∀ {setting : Text} {items : List (Text × Directive)},
    IsSetting setting items → (logger setting).notices = []
  /-- Its directives decide by part and level which records are shown; if there
  are none, errors are. -/
  shows : ∀ {setting : Text} {items : List (Text × Directive)},
    IsSetting setting items → ∀ r : Record,
      (logger setting).shows r
        = (Log.thresholdBy (Directive.orErrors (items.map (·.2))) r.part).shows r.level

/-- **The name of a threshold sets it for all parts**, and nothing is said about
it. -/
theorem LoggerLaws.of_name {logger : Text → Logger} (hlog : LoggerLaws logger) {name : Text}
    {threshold : Threshold} (h : Threshold.ofName? name = some threshold) :
    (∀ r : Record, (logger name).shows r = threshold.shows r.level)
      ∧ (logger name).notices = [] := by
  have hsetting := IsSetting.of_name h
  refine ⟨fun r => ?_, hlog.notices hsetting⟩
  rw [hlog.shows hsetting]
  exact congrArg (Threshold.shows · r.level) (Log.thresholdBy_all threshold r.part)

end Program

/-! ## §2. Texts without white space. -/

/-- Nothing is trimmed off a text without white space. -/
theorem WhiteSpace.trim_of_forall {t : Text} (h : ∀ c ∈ t, has c = false) : trim t = t := by
  have hdrop : ∀ {u : Text}, (∀ c ∈ u, has c = false) → u.dropWhile has = u := by
    intro u hu
    cases u with
    | nil => rfl
    | cons c u => exact List.dropWhile_cons_of_neg (by simp [hu c List.mem_cons_self])
  unfold trim
  rw [hdrop h, hdrop (fun c hc => h c (List.mem_reverse.1 hc)), List.reverse_reverse]

/-- No letter is white space. -/
theorem WhiteSpace.has_of_isAlpha {c : Char} (h : c.isAlpha) : has c = false := by
  have hletter : 65 ≤ c.toNat ∧ c.toNat ≤ 90 ∨ 97 ≤ c.toNat ∧ c.toNat ≤ 122 := by
    unfold Char.isAlpha Char.isUpper Char.isLower at h
    simpa [UInt32.le_iff_toNat_le] using h
  rw [← Bool.not_eq_true, has, Ranges.Table.has_iff]
  simp only [table, ranges, List.mem_cons, List.not_mem_nil, exists_eq_or_imp, or_false,
    exists_eq_left]
  omega

namespace Log

/-- A character is a letter if it is one in small letters. -/
theorem isAlpha_of_toLower {c : Char} (h : c.toLower.isAlpha) : c.isAlpha := by
  unfold Char.toLower at h
  split at h
  next hc =>
    have hupper : c.isUpper = true := decide_eq_true hc
    exact Bool.or_eq_true_iff.2 (.inl hupper)
  next => exact h

/-- The name of a threshold consists of letters. -/
theorem Threshold.isAlpha_of_ofName? {name : Text} {threshold : Threshold}
    (h : ofName? name = some threshold) : name ≠ [] ∧ ∀ c ∈ name, c.isAlpha := by
  have hlower : (String.ofList name).toLower.toList = name.map Char.toLower := by
    show (String.map Char.toLower (String.ofList name)).toList = _
    rw [String.toList_map, String.toList_ofList]
  unfold ofName? at h
  generalize (String.ofList name).toLower = lower at h hlower
  have hletters : lower.toList ≠ [] ∧ lower.toList.all Char.isAlpha := by
    split at h
    all_goals first | decide | cases h
  rw [hlower] at hletters
  constructor
  · rintro rfl
    exact hletters.1 rfl
  · intro c hc
    exact isAlpha_of_toLower (List.all_eq_true.1 hletters.2 _ (List.mem_map_of_mem hc))

/-! ## §3. Directives are read back. -/

/-- The text of a directive is not empty, and neither commas nor slashes nor white
space are in it. -/
theorem Directive.Writes.isPlain {t : Text} {d : Directive} (h : Directive.Writes t d) :
    t ≠ [] ∧ ∀ c ∈ t, c ≠ ',' ∧ c ≠ '/' ∧ WhiteSpace.has c = false := by
  have hname : ∀ {name : Text} {threshold : Threshold}, Threshold.ofName? name = some threshold →
      ∀ c ∈ name, c ≠ ',' ∧ c ≠ '/' ∧ WhiteSpace.has c = false := by
    intro name threshold hname c hc
    have halpha := (Threshold.isAlpha_of_ofName? hname).2 c hc
    refine ⟨?_, ?_, WhiteSpace.has_of_isAlpha halpha⟩
    · rintro rfl
      exact absurd halpha (by decide)
    · rintro rfl
      exact absurd halpha (by decide)
  have hpart : ∀ {name : Text}, IsPlain name →
      ∀ c ∈ name, c ≠ ',' ∧ c ≠ '/' ∧ WhiteSpace.has c = false := by
    intro name hplain c hc
    obtain ⟨hcomma, -, hslash⟩ := hplain.separators c hc
    exact ⟨hcomma, hslash, hplain.blanks c hc⟩
  cases h with
  | level h => exact ⟨(Threshold.isAlpha_of_ofName? h).1, hname h⟩
  | part hplain _ => exact ⟨hplain.ne_nil, hpart hplain⟩
  | partLevel hplain h =>
      refine ⟨by simp, fun c hc => ?_⟩
      rw [List.mem_append, List.mem_cons] at hc
      rcases hc with hc | rfl | hc
      · exact hpart hplain c hc
      · decide
      · exact hname h c hc

theorem splitOn_of_name {name : Text} {threshold : Threshold}
    (h : Threshold.ofName? name = some threshold) : name.splitOn '=' = [name] := by
  apply List.splitOn_eq_singleton
  intro hmem
  exact absurd ((Threshold.isAlpha_of_ofName? h).2 '=' hmem) (by decide)

/-- **The text of a directive is read back.** -/
theorem Directive.Writes.ofText_eq {t : Text} {d : Directive} (h : Directive.Writes t d) :
    Directive.ofText t = .ok d := by
  unfold Directive.ofText
  cases h with
  | level h =>
      rw [splitOn_of_name h]
      simp only [h]
  | part hplain hno =>
      have hsplit : t.splitOn '=' = [t] :=
        List.splitOn_eq_singleton fun hmem => (hplain.separators '=' hmem).2.1 rfl
      rw [hsplit]
      simp only [hno]
  | @partLevel name level threshold hplain h =>
      have hjoin : name ++ '=' :: level = ['='].intercalate [name, level] := by simp
      have hsplit : (name ++ '=' :: level).splitOn '=' = [name, level] := by
        rw [hjoin]
        refine List.splitOn_intercalate '=' (fun l hl hmem => ?_) (List.cons_ne_nil _ _)
        rcases List.mem_pair.1 hl with rfl | rfl
        · exact (hplain.separators '=' hmem).2.1 rfl
        · exact absurd ((Threshold.isAlpha_of_ofName? h).2 '=' hmem) (by decide)
      obtain ⟨hne, hletters⟩ := Threshold.isAlpha_of_ofName? h
      have htrim : WhiteSpace.trim level = level :=
        WhiteSpace.trim_of_forall fun c hc => WhiteSpace.has_of_isAlpha (hletters c hc)
      obtain ⟨c, letters, rfl⟩ := List.exists_cons_of_ne_nil hne
      rw [hsplit]
      simp only [htrim, h]

/-- What is put together has nothing but the separator and the parts. -/
theorem mem_of_mem_intercalate {c sep : Char} {parts : List Text}
    (h : c ∈ [sep].intercalate parts) : c = sep ∨ ∃ part ∈ parts, c ∈ part := by
  induction parts with
  | nil => cases h
  | cons part parts ih =>
      cases parts with
      | nil =>
          rw [List.intercalate_singleton] at h
          exact .inr ⟨part, List.mem_cons_self, h⟩
      | cons part' parts =>
          rw [List.intercalate_cons_cons, List.mem_append, List.mem_append] at h
          rcases h with (h | h) | h
          · exact .inr ⟨part, List.mem_cons_self, h⟩
          · exact .inl (List.mem_singleton.1 h)
          · exact (ih h).imp_right fun ⟨p, hp, hc⟩ => ⟨p, List.mem_cons_of_mem _ hp, hc⟩

/-- The directives of a setting are read one after the other. -/
theorem foldl_ofText {items : List (Text × Directive)}
    (h : ∀ item ∈ items, Directive.Writes item.1 item.2) (ds : List Directive) :
    (items.map (·.1)).foldl (fun (ds, cs) part =>
      match Directive.ofText part with
      | .ok d => (ds ++ [d], cs)
      | .error c => (ds, cs ++ [c])) (ds, ([] : List Complaint))
      = (ds ++ items.map (·.2), []) := by
  induction items generalizing ds with
  | nil => simp
  | cons item items ih =>
      obtain ⟨hfirst, hrest⟩ := List.forall_mem_cons.1 h
      simp only [List.map_cons, List.foldl_cons, hfirst.ofText_eq]
      rw [ih hrest, List.append_assoc]
      rfl

theorem directivesOf_of_isSetting {setting : Text} {items : List (Text × Directive)}
    (h : IsSetting setting items) : directivesOf setting = (items.map (·.2), []) := by
  have hclean : ∀ part ∈ items.map (·.1),
      part ≠ [] ∧ ∀ c ∈ part, c ≠ ',' ∧ c ≠ '/' ∧ WhiteSpace.has c = false := by
    intro part hpart
    obtain ⟨item, hitem, rfl⟩ := List.mem_map.1 hpart
    exact (h.writes item hitem).isPlain
  have hparts : ((setting.splitOn ',').map WhiteSpace.trim).filter (!·.isEmpty)
      = items.map (·.1) := by
    rw [h.text]
    by_cases hnil : items.map (·.1) = []
    · rw [hnil]
      rfl
    · rw [List.splitOn_intercalate ',' (fun part hpart hmem =>
        ((hclean part hpart).2 ',' hmem).1 rfl) hnil]
      have htrim : (items.map (·.1)).map WhiteSpace.trim = items.map (·.1) := by
        rw [List.map_congr_left fun part hpart =>
          WhiteSpace.trim_of_forall fun c hc => ((hclean part hpart).2 c hc).2.2]
        exact List.map_id' _
      rw [htrim, List.filter_eq_self]
      intro part hpart
      simpa using (hclean part hpart).1
  unfold directivesOf
  rw [hparts]
  exact foldl_ofText h.writes []

/-- **A setting that is written out of directives is read back as these**, and
nothing is wrong with it. -/
theorem ofSetting_of_isSetting {setting : Text} {items : List (Text × Directive)}
    (h : IsSetting setting items) :
    Filter.ofSetting setting = (⟨Directive.orErrors (items.map (·.2)), none⟩, []) := by
  have hslash : '/' ∉ setting := by
    rw [h.text]
    intro hmem
    rcases mem_of_mem_intercalate hmem with heq | ⟨part, hpart, hmem⟩
    · exact absurd heq (by decide)
    · obtain ⟨item, hitem, rfl⟩ := List.mem_map.1 hpart
      exact ((h.writes item hitem).isPlain.2 '/' hmem).2.1 rfl
  unfold Filter.ofSetting
  rw [List.splitOn_eq_singleton hslash]
  simp [directivesOf_of_isSetting h, patternOf]

end Log

/-- **The logger that the program is run with keeps to what is documented.** -/
theorem Program.lawful_ofSetting : LoggerLaws Logger.ofSetting where
  notices := by
    intro setting items h
    unfold Logger.ofSetting
    rw [Log.ofSetting_of_isSetting h]
    rfl
  shows := by
    intro setting items h r
    unfold Logger.ofSetting
    rw [Log.ofSetting_of_isSetting h]
    exact Log.Filter.shows_of_directives _ r

end LineLexer
