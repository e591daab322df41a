/-
  LineLexer.Proofs.Dumping
  ────────────────────────
  **A DUMP IS THE LINES OF THE TOKENS.**

  A dump writes while it scans: it asks for a token, counts it, writes its
  line, and goes on with the scanner behind it.  An output with room for
  everything does not disturb it, so it comes to what a walk gives:

      dump_of_drain        — the lines of what a walk gives, and its last reply
      linesOf_of_content   — neither the lines nor the count depend on places
      exists_sound_text_of_clean
                           — what can be read of a source is a text
      dump_of_lines        — so a source is dumped as the tokens of that text,
                             under any name
      dump_ofText          — and a text in memory as its tokens
-/
import LineLexer.Dump
import LineLexer.Proofs.BadLines
import LineLexer.Proofs.Rescan

namespace LineLexer

/-! ## §1. Lines, and how a dump ends. -/

namespace Token

/-- The lines of the tokens, one behind the other. -/
def linesOf (ts : List Token) : List UInt8 :=
  ts.flatMap lineBytes

/-- The line of the end of a source. -/
def endLine : List UInt8 :=
  Utf8.encode ['E', 'O', 'F', '\n']

theorem lineBytes_endOf (file : String) (offset : Nat) :
    (endOf file offset).lineBytes = endLine := by
  show Utf8.encode ("EOF".toList ++ ['\n']) = _
  simp [endLine]

/-- How many of the tokens are characters that belong to no token. -/
def countErrors (ts : List Token) : Nat :=
  ts.countP (fun t => t.category = .error)

/-- The tokens, the end of their source left out. -/
def withoutEnd (ts : List Token) : List Token :=
  ts.filter (fun t => !t.isEnd)

theorem countErrors_cons (t : Token) (ts : List Token) (errors : Nat) :
    (if t.category = .error then errors + 1 else errors) + countErrors ts
      = errors + countErrors (t :: ts) := by
  unfold countErrors
  rw [List.countP_cons]
  by_cases h : t.category = .error
  · simp only [h, if_true, decide_true]
    omega
  · simp [h]

/-- The end of a source is no character. -/
theorem ne_error_of_isEnd {t : Token} (h : t.isEnd) : t.category ≠ .error := by
  rw [beq_iff_eq.1 h]
  nofun

theorem linesOf_concat (ts : List Token) (t : Token) :
    linesOf (ts ++ [t]) = linesOf ts ++ t.lineBytes := by
  simp [linesOf]

theorem countErrors_concat {ts : List Token} {t : Token} (h : t.isEnd) :
    countErrors (ts ++ [t]) = countErrors ts := by
  simp [countErrors, List.countP_append, ne_error_of_isEnd h]

theorem countErrors_withoutEnd (ts : List Token) :
    countErrors (withoutEnd ts) = countErrors ts := by
  unfold countErrors withoutEnd
  rw [List.countP_filter]
  apply List.countP_congr
  intro t _
  cases hend : t.isEnd with
  | true => simp [ne_error_of_isEnd hend]
  | false => simp

end Token

/-- The line of a reply; a failure has none. -/
def Reply.lineBytes : Reply → List UInt8
  | token t => t.lineBytes
  | failure _ => []

/-- How a dump ends with the last reply, when so many characters were
counted. -/
def DumpEnd.ofLast (errors : Nat) : Reply → DumpEnd
  | .token _ => .complete errors
  | .failure e => .readFailed e

namespace Scanner

/-! ## §2. What a walk gives is dumped. -/

section Room

variable {s : Scanner} {room : Room}

/-- The last reply ends a dump, if there is room for its line. -/
theorem dump_go_of_isLast (h : s.next.result.isLast) (errors : Nat)
    (hfit : room.fit s.next.result.lineBytes = s.next.result.lineBytes) :
    dump.go errors room s
      = ⟨s.next.result.lineBytes, .ofLast errors s.next.result, s.next.records⟩ := by
  rw [dump.go]
  split
  next e he => rw [he]; rfl
  next t ht =>
    rw [ht] at h hfit ⊢
    have hend : t.isEnd = true := h
    have hline : room.fit t.lineBytes = t.lineBytes := hfit
    simp only [hline, ne_eq, not_true_eq_false, if_false, hend, if_true,
      Token.ne_error_of_isEnd hend]
    rfl

/-- Any other token is written, if there is room for its line, and the dump goes
on in what is left of that. -/
theorem dump_go_of_token {t : Token} (h : s.next.result = .token t) (hend : t.isEnd = false)
    (errors : Nat) (hfit : room.fit t.lineBytes = t.lineBytes) :
    dump.go errors room s =
      let rest := dump.go (if t.category = .error then errors + 1 else errors)
        (room.after t.lineBytes.length) s.next.scanner
      ⟨t.lineBytes ++ rest.written, rest.ending, s.next.records ++ rest.records⟩ := by
  rw [dump.go]
  split
  next e he => rw [h] at he; cases he
  next u hu =>
    rw [h] at hu
    cases hu
    simp [hfit, hend]

/-- Where there is no room for a line, the dump ends with as much of it as
fits. -/
theorem dump_go_of_full {t : Token} (h : s.next.result = .token t) (errors : Nat)
    (hfit : room.fit t.lineBytes ≠ t.lineBytes) :
    dump.go errors room s = ⟨room.fit t.lineBytes, .outputFull, s.next.records⟩ := by
  rw [dump.go]
  split
  next e he => rw [h] at he; cases he
  next u hu =>
    rw [h] at hu
    cases hu
    exact if_pos hfit

end Room

/-- **A dump is the lines of what a walk gives**, and ends with its last
reply. -/
theorem dump_of_drain {s : Scanner} {ts : List Token} {last : Reply}
    (h : s.drain.result = ts.map .token ++ [last]) (hts : ∀ t ∈ ts, t.isEnd = false) :
    s.dump none = ⟨Token.linesOf ts ++ last.lineBytes, .ofLast (Token.countErrors ts) last,
      s.drain.records⟩ := by
  have hgo : ∀ errors, dump.go errors none s = ⟨Token.linesOf ts ++ last.lineBytes,
      .ofLast (errors + Token.countErrors ts) last, s.drain.records⟩ := by
    induction ts generalizing s with
    | nil =>
        intro errors
        cases hnext : s.next.result.isLast with
        | true =>
            rw [drain_of_isLast hnext] at h ⊢
            rw [dump_go_of_isLast hnext errors rfl, (List.cons.inj h).1]
            rfl
        | false =>
            -- a walk that goes on gives more than one reply
            rw [drain_of_not_isLast hnext] at h
            exact absurd (List.cons.inj h).2 (drain_result_ne_nil _)
    | cons t ts ih =>
        intro errors
        obtain ⟨hend, hts⟩ := List.forall_mem_cons.1 hts
        cases hnext : s.next.result.isLast with
        | true =>
            rw [drain_of_isLast hnext] at h
            exact absurd (List.cons.inj h).2.symm (by simp)
        | false =>
            rw [drain_of_not_isLast hnext] at h ⊢
            obtain ⟨htoken, hrest⟩ := List.cons.inj h
            rw [dump_go_of_token htoken hend errors rfl]
            show Dump.mk _ _ _ = _
            rw [show Room.after t.lineBytes.length none = none from rfl, ih hrest hts,
              Token.countErrors_cons]
            show Dump.mk (t.lineBytes ++ (Token.linesOf ts ++ _)) _ _ = _
            rw [← List.append_assoc]
            rfl
  have hdump := hgo 0
  rwa [Nat.zero_add] at hdump

end Scanner

/-! ## §3. Places do not matter. -/

namespace Token

/-- The line of a token with this content. -/
def contentBytes (c : Category × Option Text) : List UInt8 :=
  lineBytes ⟨c.1, c.2, .within "" 0 0⟩

/-- **Neither the lines nor the count depend on the places of the tokens.** -/
theorem linesOf_of_content {ts us : List Token} (h : ts.map content = us.map content) :
    linesOf ts = linesOf us ∧ countErrors ts = countErrors us := by
  have hlines : ∀ ts : List Token, linesOf ts = (ts.map content).flatMap contentBytes := by
    intro ts
    rw [List.flatMap_map]
    rfl
  have hcount : ∀ ts : List Token,
      countErrors ts = (ts.map content).countP (fun c => c.1 = .error) := by
    intro ts
    rw [List.countP_map]
    rfl
  rw [hlines, hlines, hcount, hcount, h]
  exact ⟨rfl, rfl⟩

end Token

/-! ## §4. Sources. -/

namespace Feed

/-- **What can be read of a source is a text**: that of its sound lines. -/
theorem exists_sound_text_of_clean {feed : Feed} (h : feed.IsClean) :
    ∃ t : Text, (Lines.sound feed.bytes).flatten = Utf8.encode t
      ∧ feed.lines = Lines.cut '\n' t := by
  have hsilent : IsSilent [] := nofun
  by_cases hwell : Utf8.IsWellFormed feed.bytes
  · obtain ⟨t, ht⟩ := Utf8.isWellFormed_iff.1 hwell
    refine ⟨t, ?_, (lines_of_clean h ht).1⟩
    rw [Lines.sound_of_isWellFormed hwell, Lines.flatten_cut, ht]
  · obtain ⟨bad, later, hcut, -⟩ := Lines.exists_bad hwell
    obtain ⟨t, ht, hlines⟩ := exists_sound_text h hsilent hcut
    rw [List.append_nil] at hlines
    exact ⟨t, ht, hlines⟩

theorem failure?_of_clean {feed : Feed} (h : feed.IsClean) :
    feed.failure? = if Utf8.IsWellFormed feed.bytes then none else some .notUtf8 := by
  have hsilent : IsSilent [] := nofun
  have hfailure := (lines_of_served h hsilent).2
  rwa [List.append_nil] at hfailure

end Feed

open Decomposition in
/-- **A source is dumped as the tokens of the text that can be read of it**,
under whatever name; behind them come the end, or the failure that follows. -/
theorem Scanner.dump_of_lines {feed : Feed} {t : Text} (hlines : feed.lines = Lines.cut '\n' t)
    {ts : List Token} (hts : tokenize t none = .ok ts) (file? : Option String) :
    let closing := Reply.closing (file?.getD defaultFile) (Utf8.size t) feed.failure?
    (ofFeed feed file?).dump none =
      ⟨Token.linesOf (Token.withoutEnd ts) ++ closing.lineBytes,
        .ofLast (Token.countErrors ts) closing,
        (ofFeed feed file?).drain.records⟩ := by
  intro closing
  obtain ⟨ds, hds, hproper⟩ := exists_proper_each (Lines.cut '\n' t)
  obtain ⟨htext, hjoined⟩ := joined_of_lines hds hproper
  let us := (joined ds).tokens (file?.getD defaultFile) 0
  have hdrain : (ofFeed feed file?).drain.result = us.map .token ++ [closing] := by
    rw [drain_of_lines hproper (hlines.trans hds.symm) file?, htext]
  have hends : ∀ u ∈ us, u.isEnd = false := hjoined.isEnd_of_mem_tokens _ 0
  -- under another name, the same lexemes come out
  have hcontent : us.map Token.content = (Token.withoutEnd ts).map Token.content := by
    rw [← htext, tokenize_of_proper hjoined none] at hts
    rw [← Except.ok.inj hts, Token.withoutEnd, hjoined.filter_tokens_endOf, content_tokens,
      content_tokens]
  obtain ⟨hsame, hcount⟩ := Token.linesOf_of_content hcontent
  rw [dump_of_drain hdrain hends, hsame, hcount, Token.countErrors_withoutEnd]

open Decomposition in
/-- **A text in memory is dumped as its tokens**, the end included. -/
theorem Scanner.dump_ofText {source : Text} {file? : Option String} {ts : List Token}
    (hts : tokenize source file? = .ok ts) :
    (ofText source file?).dump none =
      ⟨Token.linesOf ts, .complete (Token.countErrors ts),
        (ofText source file?).drain.records⟩ := by
  obtain ⟨d, rfl, hd, rfl⟩ := exists_proper_of_tokenize hts
  -- the end is the last reply, and no character
  have hdrain := drain_ofText hd file?
  rw [List.map_append] at hdrain
  rw [dump_of_drain hdrain (hd.isEnd_of_mem_tokens _ 0), Token.linesOf_concat,
    Token.countErrors_concat rfl]
  rfl

end LineLexer
