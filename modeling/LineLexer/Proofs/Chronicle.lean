/-
  LineLexer.Proofs.Chronicle
  ──────────────────────────
  **THE RECORDS TELL WHAT HAS HAPPENED.**

  A scanner makes a record when it begins, when it has read a line, when it
  has matched a lexeme, and when its source has ended or failed.  These are
  made in different places, and told apart from the tokens that are handed
  out.  Taken together they are a chronicle of the run:

      Chronicle            — the records of lines and tokens, in the order in
                             which they came
      Chronicle.readings   — those of lines are the lines, one behind the other
      Chronicle.tokenRecords
                           — the others are the tokens
      Chronicle.inside     — each token stands in the line that was read last
      HasReported.step     — every step goes on with the chronicle
      session_chronicle    — so the records of a session are one, behind the
                             record of its beginning and before that of its end
-/
import LineLexer.Proofs.Tally

namespace LineLexer

open Log (Record)

/-! ## §1. Records of lines and tokens. -/

/-- Whether the record tells that a line was read. -/
def Log.Record.isReading : Record → Bool
  | lineRead _ _ _ => true
  | _ => false

/-- The records of lines that begin at the offset. -/
def lineRecords (file : String) : Nat → List Text → List Record
  | _, [] => []
  | offset, line :: lines =>
      .lineRead (Utf8.size line) file offset :: lineRecords file (offset + Utf8.size line) lines

/-- The record of a token.  The category decides with which rule it was
matched. -/
def Token.record (t : Token) : Record :=
  .matched t.category (t.lexeme?.getD []) t.category.rule t.span.start.offset t.span.stop.offset

/-- Lines that were read, one behind the other, and tokens that were given,
each of them on the line that was read last; with their records. -/
inductive Chronicle (file : String) : List Text → List Token → List Record → Prop where
  /-- Nothing has happened yet. -/
  | nil : Chronicle file [] [] []
  /-- One more line was read, which holds something. -/
  | line {lines : List Text} {ts : List Token} {records : List Record} {line : Text}
      (h : Chronicle file lines ts records) (hne : line ≠ []) :
      Chronicle file (lines ++ [line]) ts
        (records ++ [.lineRead (Utf8.size line) file (Utf8.size lines.flatten)])
  /-- One more token was given. -/
  | token {lines : List Text} {ts : List Token} {records : List Record} {line : Text} {t : Token}
      (h : Chronicle file (lines ++ [line]) ts records)
      (hstart : Utf8.size lines.flatten ≤ t.span.start.offset)
      (hstop : t.span.stop.offset ≤ Utf8.size lines.flatten + Utf8.size line) :
      Chronicle file (lines ++ [line]) (ts ++ [t]) (records ++ [t.record])

theorem lineRecords_append (file : String) (lines more : List Text) :
    ∀ offset, lineRecords file offset (lines ++ more)
      = lineRecords file offset lines
        ++ lineRecords file (offset + Utf8.size lines.flatten) more := by
  induction lines with
  | nil => exact fun _ => rfl
  | cons line lines ih =>
      intro offset
      show _ :: lineRecords file _ (lines ++ more) = _
      rw [ih, List.flatten_cons, Utf8.size_append, Nat.add_assoc]
      rfl

theorem split_of_concat {α : Type} {l before behind : List α} {a b : α}
    (h : l ++ [a] = before ++ b :: behind) :
    (l = before ∧ a = b) ∨ ∃ front, l = before ++ b :: front := by
  rcases List.append_eq_append_iff.1 h with ⟨mid, rfl, hmid⟩ | ⟨mid, rfl, hmid⟩
  · cases mid with
    | nil => exact .inl ⟨(List.append_nil _).symm, (List.cons.inj hmid).1⟩
    | cons c mid => simp at hmid
  · cases mid with
    | nil => exact .inl ⟨List.append_nil _, (List.cons.inj hmid).1.symm⟩
    | cons c mid =>
        rw [(List.cons.inj hmid).1]
        exact .inr ⟨mid, rfl⟩

namespace Chronicle

variable {file : String} {lines : List Text} {ts : List Token} {records : List Record}

/-- **The records of lines are the lines**, one behind the other. -/
theorem readings (h : Chronicle file lines ts records) :
    records.filter (·.isReading) = lineRecords file 0 lines ∧ ∀ line ∈ lines, line ≠ [] := by
  induction h with
  | nil => exact ⟨rfl, List.forall_mem_nil _⟩
  | line _ hne ih =>
      constructor
      · rw [List.filter_append, ih.1, lineRecords_append, Nat.zero_add]
        rfl
      · exact List.forall_mem_append.2 ⟨ih.2, List.forall_mem_singleton.2 hne⟩
  | token _ _ _ ih =>
      rw [List.filter_append, ih.1]
      exact ⟨List.append_nil _, ih.2⟩

/-- **All the other records are those of the tokens**, in their order. -/
theorem tokenRecords (h : Chronicle file lines ts records) :
    records.filter (fun r => !r.isReading) = ts.map Token.record := by
  induction h with
  | nil => rfl
  | line _ _ ih =>
      rw [List.filter_append, ih]
      exact List.append_nil _
  | token _ _ _ ih =>
      rw [List.filter_append, ih, List.map_append]
      rfl

/-- The record of the line that was read last. -/
theorem getLast?_readings {line : Text} (h : Chronicle file (lines ++ [line]) ts records) :
    (records.filter (·.isReading)).getLast?
      = some (.lineRead (Utf8.size line) file (Utf8.size lines.flatten)) := by
  rw [h.readings.1, lineRecords_append, Nat.zero_add]
  exact List.getLast?_concat

/-- **Each token stands in the line that was read last** before it. -/
theorem inside (h : Chronicle file lines ts records) {before behind : List Record}
    {k : Category} {l : Text} {rule : Rule} {start stop : Nat}
    (hsplit : records = before ++ .matched k l rule start stop :: behind) :
    ∃ size offset, (before.filter (·.isReading)).getLast? = some (.lineRead size file offset)
      ∧ offset ≤ start ∧ stop ≤ offset + size := by
  induction h generalizing behind with
  | nil => exact absurd hsplit.symm (by simp)
  | line _ _ ih =>
      rcases split_of_concat hsplit with ⟨-, hlast⟩ | ⟨front, hfront⟩
      · cases hlast
      · exact ih hfront
  | token h hstart hstop ih =>
      rcases split_of_concat hsplit with ⟨rfl, hlast⟩ | ⟨front, hfront⟩
      · cases hlast
        exact ⟨_, _, h.getLast?_readings, hstart, hstop⟩
      · exact ih hfront

end Chronicle

/-! ## §2. What a scanner has reported. -/

namespace Scanner

/-- The record with which a scanner stopped. -/
def lastRecord? (s : Scanner) : Option Record :=
  match s.phase with
  | .scanning => none
  | .finished => some (.ended s.file s.offset)
  | .failed _ cause => some (.readFailed s.file s.offset cause)

/-- The log is a chronicle of the lines and the tokens, and closed once the
scanner has stopped. -/
def HasReported (file : String) (lines : List Text) (ts : List Token) (log : List Record)
    (s : Scanner) : Prop :=
  ∃ body, Chronicle file lines ts body ∧ log = body ++ s.lastRecord?.toList

theorem lastRecord?_of_scanning {s : Scanner} (hs : s.phase = .scanning) :
    s.lastRecord? = none := by
  rw [lastRecord?, hs]

namespace HasReported

variable {feed : Feed} {file : String} {lines more : List Text} {ts ts' : List Token}
  {log records : List Record} {s u : Scanner}

/-- A scanner that has not stopped has reported lines and tokens only. -/
theorem chronicle (h : s.HasReported file lines ts log) (hs : s.phase = .scanning) :
    Chronicle file lines ts log := by
  obtain ⟨body, hbody, rfl⟩ := h
  rwa [lastRecord?_of_scanning hs, Option.toList_none, List.append_nil]

theorem of_scanning (h : Chronicle file lines ts log) (hs : s.phase = .scanning) :
    s.HasReported file lines ts log := by
  refine ⟨log, h, ?_⟩
  rw [lastRecord?_of_scanning hs, Option.toList_none, List.append_nil]

/-- **Every step goes on with the chronicle**, with the lines that it reads and
the tokens that it gives. -/
theorem step (h : s.HasReported file lines ts log) (ht : s.Tally feed file lines)
    (hstep : s.Step records more ts' u) :
    u.HasReported file (lines ++ more) (ts ++ ts') (log ++ records) := by
  cases hstep with
  | piece hs =>
      simp only [List.append_nil]
      exact .of_scanning (h.chronicle hs) hs
  | line hs _ hread =>
      rw [List.append_nil, ht.file, ht.total]
      exact .of_scanning ((h.chronicle hs).line (Feed.ne_nil_of_nextLine hread)) hs
  | finished hs =>
      rw [List.append_nil, List.append_nil]
      refine ⟨log, h.chronicle hs, ?_⟩
      rw [lastRecord?, phase_finish hs]
      rfl
  | failed hs =>
      rw [List.append_nil, List.append_nil]
      exact ⟨log, h.chronicle hs, rfl⟩
  | lexeme hs hne hstop hresult =>
      obtain ⟨before, text, hat⟩ := ht.cursor
      obtain ⟨k, l, rest, rfl, hl, htake⟩ := hat.exists_lexeme hne hstop
      obtain ⟨front, rfl, hstart⟩ := ht.exists_front hat hl.ne_nil
      rw [htake] at hresult ⊢
      rw [List.append_nil, ← Reply.token.inj hresult]
      refine .of_scanning ((h.chronicle hs).token ?_ ?_) hs
      · exact hstart ▸ Nat.le_add_right _ _
      · show s.offset + Utf8.size l ≤ _
        rw [← hstart, hat.offset, Utf8.size_append, ← Nat.add_assoc]
        exact Nat.le_add_right _ _

/-- **Every run goes on with the chronicle**, with the lines that it reads and
the tokens that it gives. -/
theorem run (h : s.HasReported file lines ts log) (ht : s.Tally feed file lines)
    (hrun : s.Run records more ts' u) :
    u.HasReported file (lines ++ more) (ts ++ ts') (log ++ records) := by
  induction hrun generalizing lines ts log with
  | nil => simpa using h
  | cons hstep _ ih =>
      have hmore := ih (h.step ht hstep) (ht.step hstep).1
      rwa [List.append_assoc, List.append_assoc, List.append_assoc] at hmore

end HasReported

/-- The observations of a session hold the records of the scanner, behind that
of its beginning. -/
theorem records_session (s : Scanner) (requests : List Request) :
    (session s requests).flatMap (·.records) = s.opening :: (s.serve requests).records := by
  have hobserved : ∀ requests (s : Scanner),
      (s.observations requests).flatMap (·.records) = (s.serve requests).records := by
    intro requests
    induction requests with
    | nil => exact fun _ => rfl
    | cons r rs ih =>
        intro s
        show (s.respond r).records ++ ((s.respond r).scanner.observations rs).flatMap _ = _
        rw [ih]
        rfl
  show [s.opening] ++ (s.observations requests).flatMap _ = _
  rw [hobserved]
  rfl

end Scanner

/-- **The records of a session tell what has happened in it.**  The first one
tells of the beginning.  Then there are those of lines and those of tokens:
the former are the lines that were read, each of which holds something, one
behind the other; the latter are the tokens that were given, with their
categories, lexemes and spans, and the rules that go with their categories;
and each token stands in the line that was read last before it.  If the source
has ended, or has failed, a last record tells of that, and where, which is
behind all the lines and where the cursor stands; nothing comes behind it. -/
theorem session_chronicle (feed : Feed) (file? : Option String) (requests : List Request) :
    let records := (session (.ofFeed feed file?) requests).flatMap (·.records)
    let served := (Scanner.ofFeed feed file?).serve requests
    let s := served.scanner
    let ts := (served.result.flatMap Answer.replies).filterMap Reply.matched?
    let file := file?.getD Scanner.defaultFile
    ∃ (lines : List Text) (body : List Record) (closing? : Option Record),
      s.HasRead feed lines
        ∧ records = .opened file :: (body ++ closing?.toList)
        ∧ body.filter (·.isReading) = lineRecords file 0 lines
        ∧ (∀ line ∈ lines, 0 < Utf8.size line)
        ∧ body.filter (fun r => !r.isReading) = ts.map Token.record
        ∧ (∀ t ∈ ts, t.StandsIn file lines.flatten)
        ∧ (∀ before behind k l rule start stop,
          body = before ++ .matched k l rule start stop :: behind →
            ∃ size offset,
              (before.filter (·.isReading)).getLast? = some (.lineRead size file offset)
                ∧ offset ≤ start ∧ stop ≤ offset + size)
        ∧ (s.phase = .scanning ∧ closing? = none
          ∨ s.offset = Utf8.size lines.flatten
            ∧ (s.phase = .finished ∧ closing? = some (.ended file s.offset)
              ∨ ∃ position cause, s.phase = .failed position cause
                ∧ closing? = some (.readFailed file s.offset cause))) := by
  intro records served s ts file
  obtain ⟨lines, hrun, htally, hway⟩ := Scanner.exists_tally_serve feed file? requests
  have hnothing : (Scanner.ofFeed feed file?).HasReported file [] [] [] := .of_scanning .nil rfl
  obtain ⟨body, hbody, hlog⟩ := hnothing.run (.ofFeed feed file?) hrun
  have hrecords : records = .opened file :: (body ++ s.lastRecord?.toList) := by
    rw [← hlog]
    exact Scanner.records_session _ requests
  refine ⟨lines, body, s.lastRecord?, htally.read, hrecords, hbody.readings.1, ?_,
    hbody.tokenRecords, hway.standsIn, ?_, ?_⟩
  · exact fun line hline => Utf8.size_pos_of_ne_nil (hbody.readings.2 line hline)
  · exact fun _ _ _ _ _ _ _ hsplit => hbody.inside hsplit
  · cases hphase : s.phase with
    | scanning => exact .inl ⟨rfl, Scanner.lastRecord?_of_scanning hphase⟩
    | finished =>
        refine .inr ⟨htally.offset_of_stopped (by rw [hphase]; nofun), .inl ⟨rfl, ?_⟩⟩
        rw [Scanner.lastRecord?, hphase, htally.file]
    | failed position cause =>
        refine .inr ⟨htally.offset_of_stopped (by rw [hphase]; nofun), .inr ⟨_, _, rfl, ?_⟩⟩
        rw [Scanner.lastRecord?, hphase, htally.file]

end LineLexer
