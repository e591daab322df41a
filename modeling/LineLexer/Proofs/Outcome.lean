/-
  LineLexer.Proofs.Outcome
  ────────────────────────
  **WHAT THE PROGRAM LEAVES BEHIND.**

  A run can come to grief in several places: the input cannot be opened, it is
  a directory, one of its lines is not UTF-8, or it is rejected after all of
  it was written.  What was written before stands.  All this is decided by
  what the input is, and by one flag:

      Input, Provides      — what there is to be dumped, and what surroundings
                             make of it
      dumpSource_of_lines  — what dumping a source comes to
      exists_source        — every input that can be opened is such a source
      Outcome.Fits         — what status, output and log say of an input
      run_outcome          — so they follow from the input
-/
import LineLexer.Proofs.Dumping
import LineLexer.Proofs.Settings
import LineLexer.Proofs.Steps

namespace LineLexer

open Log (IsSetting Record Threshold)

/-! ## §1. What a scanner reports. -/

/-- The record comes from the program around the scanner. -/
def Log.Record.isOutside : Record → Bool
  | tokenized _ | rejected _ => true
  | _ => false

namespace Scanner

variable {s u : Scanner} {records : List Record} {lines : List Text} {ts : List Token}

theorem Run.not_isOutside (h : s.Run records lines ts u) :
    ∀ r ∈ records, r.isOutside = false := by
  induction h with
  | nil => exact List.forall_mem_nil _
  | cons hstep _ ih =>
      refine List.forall_mem_append.2 ⟨?_, ih⟩
      cases hstep with
      | piece => exact List.forall_mem_nil _
      | _ => exact List.forall_mem_singleton.2 rfl

/-- What a scanner has reported when its source has been walked. -/
def account (feed : Feed) (file? : Option String) : List Record :=
  (ofFeed feed file?).opening :: (ofFeed feed file?).drain.records

/-- **A scanner reports neither how long it took nor a rejection.** -/
theorem not_isOutside_of_mem_account {feed : Feed} {file? : Option String} {r : Record}
    (h : r ∈ account feed file?) : r.isOutside = false := by
  obtain ⟨rs, last, -, -, -, hdrain⟩ := drain_eq_ask (ofFeed feed file?)
  obtain ⟨lines, hrun⟩ := ask_run (isPlaced_ofFeed feed file?) (rs.length + 1)
  rw [← hdrain] at hrun
  rcases List.mem_cons.1 h with rfl | h
  · rfl
  · exact hrun.not_isOutside _ h

theorem rejected_notMem_account (feed : Feed) (file? : Option String) (n : Nat) :
    .rejected n ∉ account feed file? :=
  fun h => Bool.noConfusion (not_isOutside_of_mem_account h)

end Scanner

namespace Program

/-! ## §2. Dumping a source. -/

/-- A failure is reported in words. -/
theorem report_ne_empty (f : Failure) : f.report ≠ "" := by
  unfold Failure.report
  rw [List.map_cons, String.join_cons]
  intro h
  have := congrArg String.toList h
  simp at this

/-- A failed read, and the failure behind it. -/
def readFailure (cause : ReadFailure) (file : String) (offset : Nat) : Failure :=
  ⟨"scanning stopped", [Error.message ⟨.sourceRead cause, ⟨offset, file⟩⟩, cause.message]⟩

/-- **What dumping a source comes to**: the tokens of the text that can be read
of it are written, and if its end is reached, their errors are counted. -/
theorem dumpSource_of_lines {feed : Feed} {t : Text} (hlines : feed.lines = Lines.cut '\n' t)
    {ts : List Token} (hts : tokenize t none = .ok ts) (denyErrors : Bool) (elapsed : String)
    (file? : Option String) :
    let lines := Token.linesOf (Token.withoutEnd ts)
    let errors := Token.countErrors ts
    let records := Scanner.account feed file?
    dumpSource denyErrors elapsed feed file? =
      match feed.failure? with
      | none =>
          let records := records ++ [.tokenized elapsed]
          if rejects denyErrors errors then
            ⟨1, lines ++ Token.endLine, [], records ++ [.rejected errors], ""⟩
          else ⟨0, lines ++ Token.endLine, [], records, ""⟩
      | some cause =>
          ⟨1, lines, [], records,
            (readFailure cause (file?.getD Scanner.defaultFile) (Utf8.size t)).report⟩ := by
  intro lines errors records
  simp only [dumpSource, Scanner.dump_of_lines hlines hts file?]
  cases feed.failure? with
  | none =>
      simp only [Reply.closing, Reply.lineBytes, DumpEnd.ofLast, Token.lineBytes_endOf]
      rfl
  | some cause =>
      have hreport : DumpEnd.failure? (.readFailed ⟨.sourceRead cause,
          ⟨Utf8.size t, file?.getD Scanner.defaultFile⟩⟩)
          = some (readFailure cause (file?.getD Scanner.defaultFile) (Utf8.size t)) := rfl
      simp only [Reply.closing, Reply.lineBytes, DumpEnd.ofLast, List.append_nil, hreport,
        Option.map_some, Option.getD_some]
      rfl

/-! ## §3. Inputs. -/

/-- What there is to be dumped. -/
inductive Input where
  /-- Something that cannot be opened. -/
  | unopened (cause : ReadFailure)
  /-- A directory, or anything else of which not even the first read comes to
  something. -/
  | directory
  /-- These bytes. -/
  | bytes (bs : List UInt8)
  deriving Repr, DecidableEq

namespace Input

/-- The input can be opened, and read to its end. -/
def IsRead : Input → Prop
  | bytes bs => Utf8.IsWellFormed bs
  | _ => False

/-- The bytes before the first line that is not UTF-8. -/
def soundBytes : Input → List UInt8
  | bytes bs => (Lines.sound bs).flatten
  | _ => []

/-- All the bytes of an input that is read are sound. -/
theorem IsRead.eq_soundBytes {input : Input} (h : input.IsRead) {bs : List UInt8}
    (hbytes : input = .bytes bs) : bs = input.soundBytes := by
  subst hbytes
  show bs = (Lines.sound bs).flatten
  rw [Lines.sound_of_isWellFormed h, Lines.flatten_cut]

theorem IsRead.exists_bytes {input : Input} (h : input.IsRead) :
    ¬ ∀ bs, input ≠ .bytes bs := by
  intro hne
  cases input with
  | bytes bs => exact hne bs rfl
  | _ => exact h

instance : DecidablePred IsRead
  | bytes bs => inferInstanceAs (Decidable (Utf8.IsWellFormed bs))
  | unopened _ | directory => inferInstanceAs (Decidable False)

end Input

/-- What is read: what a path leads to, or standard input. -/
def Surroundings.source (env : Surroundings) : Option Path → Except ReadFailure Feed
  | none => .ok env.stdin
  | some path => env.openPath path

/-- What is read provides the input, whatever the reads come to in detail. -/
inductive Provides : Except ReadFailure Feed → Input → Prop where
  /-- It cannot be opened, for any reason. -/
  | unopened (cause : ReadFailure) : Provides (.error cause) (.unopened cause)
  /-- The first read fails. -/
  | directory {cause : ReadFailure} (hcause : cause.kind ≠ .interrupted) (rest : Feed) :
      Provides (.ok (.failure cause :: rest)) .directory
  /-- The reads deliver the bytes, in any portions. -/
  | bytes {feed : Feed} (hclean : feed.IsClean) : Provides (.ok feed) (.bytes feed.bytes)

/-- The feed delivers the input, as far as that can be read. -/
structure Delivers (feed : Feed) (input : Input) (t : Text) : Prop where
  /-- The sound bytes are those of the text. -/
  sound : input.soundBytes = Utf8.encode t
  /-- Its lines can be read. -/
  lines : feed.lines = Lines.cut '\n' t
  /-- Then comes the end of the input, or a read fails. -/
  failure : feed.failure? = none ↔ input.IsRead

/-- Bytes are delivered in any reads. -/
theorem Delivers.of_clean {feed : Feed} (h : feed.IsClean) :
    ∃ t, Delivers feed (.bytes feed.bytes) t := by
  obtain ⟨t, hsound, hlines⟩ := Feed.exists_sound_text_of_clean h
  refine ⟨t, hsound, hlines, ?_⟩
  rw [Feed.failure?_of_clean h]
  show _ ↔ Utf8.IsWellFormed feed.bytes
  simp

/-- Where the first read fails, nothing is delivered. -/
theorem Delivers.of_failure {cause : ReadFailure} (hcause : cause.kind ≠ .interrupted)
    (rest : Feed) : Delivers (.failure cause :: rest) .directory [] := by
  have hread : Feed.nextLine (.failure cause :: rest) = (.failed cause, rest) := by
    rw [Feed.nextLine, Feed.collect, if_neg hcause]
  obtain ⟨hlines, hfailure⟩ := Feed.lines_of_failed hread
  refine ⟨rfl, hlines, ?_⟩
  rw [hfailure]
  constructor
  · intro h
    cases h
  · exact False.elim

section Source

variable {o : CommandLine.Options} {env : Surroundings}

/-- What can be opened is dumped, under some name. -/
theorem perform_of_ok {feed : Feed} (h : env.source o.input? = .ok feed) :
    ∃ file?, perform o env = dumpSource o.denyErrors env.elapsed feed file? := by
  unfold Surroundings.source at h
  unfold perform
  cases hin : o.input? with
  | none =>
      rw [hin] at h
      rw [← Except.ok.inj h]
      exact ⟨none, rfl⟩
  | some path =>
      simp only [hin] at h
      simp only [h]
      exact ⟨_, rfl⟩

/-- What cannot be opened is reported. -/
theorem perform_of_error {cause : ReadFailure} (h : env.source o.input? = .error cause) :
    ∃ report, report ≠ "" ∧ perform o env = ⟨1, [], [], [], report⟩ := by
  unfold Surroundings.source at h
  unfold perform
  cases hin : o.input? with
  | none =>
      rw [hin] at h
      cases h
  | some path =>
      simp only [hin] at h
      simp only [h]
      exact ⟨_, report_ne_empty _, rfl⟩

/-- **Every input that can be opened is a source that is dumped.** -/
theorem exists_source {input : Input} (hinput : Provides (env.source o.input?) input) :
    (∃ cause report, input = .unopened cause ∧ report ≠ ""
        ∧ perform o env = ⟨1, [], [], [], report⟩)
      ∨ ∃ feed file? t, Delivers feed input t
        ∧ perform o env = dumpSource o.denyErrors env.elapsed feed file? := by
  generalize hsource : env.source o.input? = source at hinput
  cases hinput with
  | unopened cause =>
      obtain ⟨report, hreport, hperform⟩ := perform_of_error hsource
      exact .inl ⟨cause, report, rfl, hreport, hperform⟩
  | directory hcause rest =>
      obtain ⟨file?, hperform⟩ := perform_of_ok hsource
      exact .inr ⟨_, file?, [], Delivers.of_failure hcause rest, hperform⟩
  | bytes hclean =>
      obtain ⟨file?, hperform⟩ := perform_of_ok hsource
      obtain ⟨t, ht⟩ := Delivers.of_clean hclean
      exact .inr ⟨_, file?, t, ht, hperform⟩

end Source

/-! ## §4. Outcomes. -/

/-- What is written to standard error beside the entries of the log. -/
def Outcome.unlogged (out : Outcome) : Text :=
  ErrorOutput.text (out.errorOutput.filter fun
    | .entry _ => false
    | .other _ => true)

theorem Outcome.unlogged_eq (out : Outcome) :
    out.unlogged = out.notices ++ out.stderr.toList := by
  have hlog : (out.log.map (fun r => ErrorOutput.Piece.entry r.entry)).filter (fun
      | .entry _ => false
      | .other _ => true) = [] := by
    simp [List.filter_eq_nil_iff]
  unfold unlogged errorOutput
  rw [List.filter_append, List.filter_cons_of_pos rfl, hlog]
  simp [ErrorOutput.text, ErrorOutput.Piece.text]

/-- The outcome fits an input whose sound lines have these tokens, when these
records were issued. -/
structure Outcome.Fits (denyErrors : Bool) (input : Input) (ts : List Token)
    (issued : List Record) (out : Outcome) : Prop where
  /-- The program fails if the input is not read, or is rejected. -/
  status : out.status = 1
    ↔ ¬ input.IsRead ∨ denyErrors = true ∧ ∃ t ∈ ts, t.category = .error
  /-- There is no other failure. -/
  status_le : out.status ≤ 1
  /-- The lines of the tokens are written; that of the end, if the input is
  read. -/
  stdout : out.stdout = Token.linesOf (Token.withoutEnd ts)
    ++ (if input.IsRead then Token.endLine else [])
  /-- Nothing is written if there are no bytes. -/
  stdout_of_not_bytes : (∀ bs, input ≠ .bytes bs) → out.stdout = []
  /-- A failure is reported if the input is not read. -/
  stderr : out.stderr ≠ "" ↔ ¬ input.IsRead
  /-- A rejection is issued if the input is read, and has errors that are not
  allowed; it tells how many. -/
  rejected : ∀ n, .rejected n ∈ issued
    ↔ input.IsRead ∧ denyErrors = true ∧ n = Token.countErrors ts ∧ 0 < n

theorem rejects_eq_true_iff {denyErrors : Bool} {ts : List Token} :
    rejects denyErrors (Token.countErrors ts) = true
      ↔ denyErrors = true ∧ ∃ t ∈ ts, t.category = .error := by
  simp [rejects, Token.countErrors, List.countP_pos_iff]

/-- Where there are no bytes, there are no lines. -/
theorem linesOf_of_sound_nil {input : Input} {t : Text} {ts : List Token}
    (hsound : input.soundBytes = Utf8.encode t) (hts : tokenize t none = .ok ts)
    (hbytes : ∀ bs, input ≠ .bytes bs) : Token.linesOf (Token.withoutEnd ts) = [] := by
  have hnil : t = [] := by
    apply Utf8.encode_injective
    rw [← hsound]
    cases input with
    | bytes bs => exact absurd rfl (hbytes bs)
    | _ => rfl
  have hproper : (Decomposition.trivia []).IsProper [] := .nil []
  rw [hnil, show ([] : Text) = (Decomposition.trivia []).text from rfl,
    tokenize_of_proper hproper] at hts
  rw [← Except.ok.inj hts]
  rfl

section

variable {denyErrors : Bool} {input : Input} {t : Text} {ts : List Token} {records : List Record}

/-- An input that is read leaves all its lines, and a rejection if there are
errors that are not allowed. -/
theorem fits_of_rejected (hread : input.IsRead)
    (hrejects : rejects denyErrors (Token.countErrors ts) = true)
    (hrecords : ∀ n, .rejected n ∉ records) :
    Outcome.Fits denyErrors input ts (records ++ [.rejected (Token.countErrors ts)])
      ⟨1, Token.linesOf (Token.withoutEnd ts) ++ Token.endLine, [],
        records ++ [.rejected (Token.countErrors ts)], ""⟩ where
  status := ⟨fun _ => .inr (rejects_eq_true_iff.1 hrejects), fun _ => rfl⟩
  status_le := Nat.le_refl 1
  stdout := by rw [if_pos hread]
  stdout_of_not_bytes := fun h => absurd h hread.exists_bytes
  stderr := ⟨fun h => absurd rfl h, fun h => absurd hread h⟩
  rejected := by
    intro n
    have hpos : denyErrors = true ∧ 0 < Token.countErrors ts := by simpa [rejects] using hrejects
    simp only [List.mem_append, hrecords, List.mem_singleton, false_or, Record.rejected.injEq]
    exact ⟨fun h => ⟨hread, hpos.1, h, h ▸ hpos.2⟩, fun h => h.2.2.1⟩

/-- It leaves nothing more if there are none. -/
theorem fits_of_accepted (hread : input.IsRead)
    (hrejects : rejects denyErrors (Token.countErrors ts) = false)
    (hrecords : ∀ n, .rejected n ∉ records) :
    Outcome.Fits denyErrors input ts records
      ⟨0, Token.linesOf (Token.withoutEnd ts) ++ Token.endLine, [], records, ""⟩ where
  status := by
    refine ⟨nofun, fun h => ?_⟩
    rw [rejects_eq_true_iff.2 (h.resolve_left (not_not.2 hread))] at hrejects
    cases hrejects
  status_le := Nat.zero_le 1
  stdout := by rw [if_pos hread]
  stdout_of_not_bytes := fun h => absurd h hread.exists_bytes
  stderr := ⟨fun h => absurd rfl h, fun h => absurd hread h⟩
  rejected := by
    refine fun n => ⟨fun h => absurd h (hrecords n), fun ⟨_, hdeny, hn, hpos⟩ => ?_⟩
    simp only [rejects, hdeny, Bool.true_and, decide_eq_false_iff_not] at hrejects
    exact absurd (hn ▸ hpos) hrejects

/-- An input that is not read to its end leaves the lines before that, and a
report. -/
theorem fits_of_unread (hread : ¬ input.IsRead) (hsound : input.soundBytes = Utf8.encode t)
    (hts : tokenize t none = .ok ts) (hrecords : ∀ n, .rejected n ∉ records) {report : String}
    (hreport : report ≠ "") :
    Outcome.Fits denyErrors input ts records
      ⟨1, Token.linesOf (Token.withoutEnd ts), [], records, report⟩ where
  status := ⟨fun _ => .inl hread, fun _ => rfl⟩
  status_le := Nat.le_refl 1
  stdout := by rw [if_neg hread, List.append_nil]
  stdout_of_not_bytes := linesOf_of_sound_nil hsound hts
  stderr := ⟨fun _ => hread, fun _ => hreport⟩
  rejected := fun n => ⟨fun h => absurd h (hrecords n), fun h => absurd h.1 hread⟩

/-- **What is left of an input that is delivered.** -/
theorem fits_of_delivers {feed : Feed} (h : Delivers feed input t)
    (hts : tokenize t none = .ok ts) (elapsed : String) (file? : Option String) :
    let out := dumpSource denyErrors elapsed feed file?
    out.Fits denyErrors input ts out.log := by
  intro out
  have hout : out = _ := dumpSource_of_lines h.lines hts denyErrors elapsed file?
  have hrecords := Scanner.rejected_notMem_account feed file?
  rw [hout]
  cases hfailure : feed.failure? with
  | none =>
      have hread := h.failure.1 hfailure
      have hrecords' : ∀ n, .rejected n ∉ Scanner.account feed file? ++ [.tokenized elapsed] := by
        intro n hn
        rcases List.mem_append.1 hn with hn | hn
        · exact hrecords n hn
        · cases List.mem_singleton.1 hn
      cases hrejects : rejects denyErrors (Token.countErrors ts) with
      | true => exact fits_of_rejected hread hrejects hrecords'
      | false => exact fits_of_accepted hread hrejects hrecords'
  | some cause =>
      have hread : ¬ input.IsRead := by
        intro hread
        rw [h.failure.2 hread] at hfailure
        cases hfailure
      exact fits_of_unread hread h.sound hts hrecords (report_ne_empty _)

/-- It does not matter what is shown of the log. -/
theorem Outcome.Fits.shown {out : Outcome} (h : out.Fits denyErrors input ts records)
    (notices : Text) (log : List Record) :
    Outcome.Fits denyErrors input ts records { out with notices, log } :=
  { h with }

end

/-- Whatever is performed fits the input that is provided. -/
theorem exists_fits {o : CommandLine.Options} {env : Surroundings} {input : Input}
    (hinput : Provides (env.source o.input?) input) :
    let out := perform o env
    ∃ t ts, input.soundBytes = Utf8.encode t ∧ tokenize t none = .ok ts
      ∧ out.Fits o.denyErrors input ts out.log := by
  intro out
  rcases exists_source hinput with ⟨cause, report, rfl, hreport, hout⟩ | ⟨feed, file?, t, ht, hout⟩
  · -- what cannot be opened is not read, and holds nothing
    obtain ⟨ts, hts⟩ := exists_tokenize [] none
    have hread : ¬ (Input.unopened cause).IsRead := id
    have hsound : (Input.unopened cause).soundBytes = Utf8.encode [] := rfl
    have hlines := linesOf_of_sound_nil hsound hts nofun
    have hfits : Outcome.Fits o.denyErrors (.unopened cause) ts [] ⟨1, _, [], [], report⟩ :=
      fits_of_unread hread hsound hts (fun _ => List.not_mem_nil) hreport
    rw [hlines] at hfits
    have hperformed : out.Fits o.denyErrors (.unopened cause) ts out.log := by
      rwa [show out = _ from hout]
    exact ⟨[], ts, hsound, hts, hperformed⟩
  · obtain ⟨ts, hts⟩ := exists_tokenize t none
    have hperformed : out.Fits o.denyErrors input ts out.log := by
      rw [show out = _ from hout]
      exact fits_of_delivers ht hts env.elapsed file?
    exact ⟨t, ts, ht.sound, hts, hperformed⟩

section Run

variable {lib : Library} {arguments : List Text} {o : CommandLine.Options}
  (hparse : lib.parse arguments = .ok o)
include hparse

/-- A run does what the options ask for, and shows what the logger in force lets
through. -/
theorem run_of_parse (env : Surroundings) :
    run lib arguments env =
      let logger := lib.logger (settingInForce env.setting? o.verbose)
      { perform o env with
        notices := logger.notices
        log := (perform o env).log.filter logger.shows } := by
  unfold run
  rw [hparse]

/-- So it fits its input, too. -/
theorem exists_fits_run {env : Surroundings} {input : Input}
    (hinput : Provides (env.source o.input?) input) :
    ∃ t ts, input.soundBytes = Utf8.encode t ∧ tokenize t none = .ok ts
      ∧ (run lib arguments env).Fits o.denyErrors input ts (perform o env).log := by
  obtain ⟨t, ts, hsound, hts, hfits⟩ := exists_fits hinput
  refine ⟨t, ts, hsound, hts, ?_⟩
  rw [run_of_parse hparse]
  exact hfits.shown _ _

/-- Beside the log, it writes what the logger has to say and then the report. -/
theorem unlogged_run (env : Surroundings) :
    (run lib arguments env).unlogged
      = (lib.logger (settingInForce env.setting? o.verbose)).notices
        ++ (perform o env).stderr.toList := by
  rw [Outcome.unlogged_eq, run_of_parse hparse]

end Run

/-- The setting that the command line asks for names a threshold. -/
theorem ofName?_settingInForce (verbose : Bool) :
    Threshold.ofName? (settingInForce none verbose)
      = some (.upTo (if verbose then .debug else .warn)) := by
  cases verbose with
  | true => decide +kernel
  | false => decide +kernel

/-- A logger has nothing to say if no setting was made from outside, or one that
is written out of directives. -/
theorem LoggerLaws.notices_inForce {logger : Text → Logger} (hlog : LoggerLaws logger)
    {setting? : Option Text} (h : ∀ setting ∈ setting?, ∃ items, IsSetting setting items)
    (verbose : Bool) : (logger (settingInForce setting? verbose)).notices = [] := by
  cases setting? with
  | none => exact (hlog.of_name (ofName?_settingInForce verbose)).2
  | some setting =>
      obtain ⟨items, hitems⟩ := h setting rfl
      exact hlog.notices hitems

/-- **What the program leaves behind.**  If its command line can be carried
out, status, output and report are those of its input, whatever that is and
however it is read: the lines of the tokens of the text that can be read, and
that of the end if there is nothing else; a failure if there is, or if it holds
errors that are not allowed, which are then counted in the log.  Of the log,
that is shown which the logger in force lets through.  Beside it standard error
holds the report, and before that what the logger has to say about the setting
from outside; that is nothing if there is none, or one that is written out of
directives. -/
theorem run_outcome {lib : Library} (hlog : LoggerLaws lib.logger) {arguments : List Text}
    {o : CommandLine.Options} (hparse : lib.parse arguments = .ok o) {env : Surroundings}
    {input : Input} (hinput : Provides (env.source o.input?) input) :
    let logger := lib.logger (settingInForce env.setting? o.verbose)
    let issued := (perform o env).log
    let out := run lib arguments env
    ∃ (text : Text) (ts : List Token),
      input.soundBytes = Utf8.encode text
        ∧ (∀ bs, input = .bytes bs → input.IsRead → bs = Utf8.encode text)
        ∧ tokenize text none = .ok ts
        ∧ out.Fits o.denyErrors input ts issued
        ∧ out.log = issued.filter logger.shows
        ∧ out.unlogged = logger.notices ++ out.stderr.toList
        ∧ ((∀ setting ∈ env.setting?, ∃ items, IsSetting setting items) →
          logger.notices = []) := by
  intro logger issued out
  have hunlogged : out.unlogged = logger.notices ++ (perform o env).stderr.toList :=
    unlogged_run hparse env
  have hout : out = { perform o env with
      notices := logger.notices
      log := issued.filter logger.shows } := run_of_parse hparse env
  obtain ⟨t, ts, hsound, hts, hfits⟩ := exists_fits_run hparse hinput
  refine ⟨t, ts, hsound, ?_, hts, hfits, by rw [hout], by rw [hunlogged, hout], ?_⟩
  · intro bs hbytes hread
    rw [← hsound]
    exact hread.eq_soundBytes hbytes
  · exact fun h => hlog.notices_inForce h o.verbose

/-- Every path leads to a file with a line, and a byte behind it that begins no
character. -/
def spoiltFile : Surroundings where
  stdin := []
  openPath := fun _ => .ok [.data [120], .data [10, 255]]
  setting? := none
  elapsed := "1ms"

theorem run_spoilt_file :
    let arguments := ["--deny-errors".toList, ['m']]
    let o : CommandLine.Options := ⟨some ['m'], true, false⟩
    let out := run .standard arguments spoiltFile
    LoggerLaws Library.standard.logger ∧ Library.standard.parse arguments = .ok o
      ∧ Provides (spoiltFile.source o.input?) (.bytes [120, 10, 255])
      ∧ out.status = 1
      ∧ out.stdout = Utf8.encode "IDENT (x)\n".toList
      ∧ out.stderr ≠ "" ∧ out.unlogged = out.stderr.toList := by
  intro arguments o out
  have hlog : LoggerLaws Library.standard.logger := lawful_ofSetting
  have hparse : Library.standard.parse arguments = .ok o := rfl
  have hinput : Provides (spoiltFile.source o.input?) (.bytes [120, 10, 255]) := by
    have hclean : Feed.IsClean [.data [120], .data [10, 255]] := by decide
    exact .bytes hclean
  have hread : ¬ (Input.bytes [120, 10, 255]).IsRead := by decide
  obtain ⟨t, ts, hsound, -, hts, hfits, -, hunlogged, hnotices⟩ := run_outcome hlog hparse hinput
  have htext : t = ['x', '\n'] := by
    apply Utf8.encode_injective
    rw [← hsound]
    decide
  subst htext
  have hlexeme : IsLexeme .ident ['x'] :=
    .ident (by decide) fun k _ => by cases k <;> decide
  have htokens : tokenize ['x', '\n'] none
      = .ok [⟨.ident, some ['x'], .within "shell" 0 1⟩, .endOf "shell" 2] :=
    tokenize_of_proper (Decomposition.isProper_line hlexeme) none
  rw [htokens] at hts
  cases hts
  refine ⟨hlog, hparse, hinput, hfits.status.2 (.inl hread), ?_, hfits.stderr.2 hread, ?_⟩
  · rw [hfits.stdout, if_neg hread]
    rfl
  · -- no setting was made
    have hnone : ∀ setting ∈ spoiltFile.setting?, ∃ items, IsSetting setting items :=
      fun setting hmem => absurd hmem (Option.not_mem_none setting)
    rw [hunlogged, hnotices hnone]
    rfl

/-- A directive with two equals signs is warned about. -/
theorem notices_of_surplus_equals :
    (Library.standard.logger "scanner=debug=info".toList).notices ≠ [] := by
  have hcomplaints : (Log.Filter.ofSetting "scanner=debug=info".toList).2
      = [.surplusEquals "scanner=debug=info".toList] := by decide +kernel
  have hnotices : ∀ setting, (Library.standard.logger setting).notices
      = (Log.Filter.ofSetting setting).2.flatMap (fun c => (c.warning ++ "\n").toList) :=
    fun _ => rfl
  rw [hnotices, hcomplaints]
  simp

/-- Nothing is read, under a setting that is no list of directives. -/
def oddlySet : Surroundings where
  stdin := []
  openPath := fun _ => .ok []
  setting? := some "scanner=debug=info".toList
  elapsed := "1ms"

/-- **A setting that cannot be understood is warned about**, even if nothing
fails: standard error then holds more than the log. -/
theorem unlogged_of_surplus_equals :
    ¬ ∀ (arguments : List Text) (o : CommandLine.Options) (env : Surroundings) (input : Input),
      Library.standard.parse arguments = .ok o → Provides (env.source o.input?) input →
        ((run .standard arguments env).unlogged ≠ [] ↔ ¬ input.IsRead) := by
  intro h
  have hparse : Library.standard.parse [] = .ok {} := rfl
  have hclean : Feed.IsClean [] := nofun
  have hiff := h [] {} oddlySet (.bytes []) hparse (.bytes hclean)
  -- there is nothing to read, and all of it is UTF-8
  refine hiff.1 ?_ .nil
  rw [unlogged_run hparse]
  exact List.append_ne_nil_of_left_ne_nil notices_of_surplus_equals _

end Program

end LineLexer
