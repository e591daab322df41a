/-
  LineLexer.Proofs.FullOutput
  ───────────────────────────
  **AN OUTPUT THAT RUNS FULL HOLDS THE BEGINNING OF THE DUMP.**

  A dump can break off for two reasons: a read fails, or its output has no
  room for a line.  It writes line by line while it scans, so whichever comes
  first is what is reported, and what was written until then stands:

      IsCut            — a dump compared with the one into an unlimited output
      dump_go_isCut    — the comparison holds from any place on
      dump_in_room     — so an output with enough room is as good as an
                         unlimited one, and any other one holds as many of its
                         first bytes as fit, and hides a failed read
-/
import Mathlib.Data.List.TakeDrop
import LineLexer.Proofs.Dumping

namespace LineLexer

/-! ## §1. Room for a line. -/

theorem Room.fit_some_eq_iff {room : Nat} {bytes : List UInt8} :
    Room.fit (some room) bytes = bytes ↔ bytes.length ≤ room :=
  List.take_eq_self_iff bytes

/-! ## §2. Two dumps of one source. -/

/-- How a dump into an output with so much room compares with the unlimited
one. -/
structure Dump.IsCut (room : Nat) (full cut : Dump) : Prop where
  /-- If all of it fits, there is no difference. -/
  eq_of_le : full.written.length ≤ room → cut = full
  /-- If it does not, as much as fits was written. -/
  written_of_lt : room < full.written.length → cut.written = full.written.take room
  /-- Nor is any other failure told. -/
  ending_of_lt : room < full.written.length → cut.ending = .outputFull
  /-- The scanner has reported no more than it does for the unlimited dump. -/
  records : cut.records <+: full.records

namespace Dump

/-- What was written is the beginning of the unlimited dump, in either case. -/
theorem IsCut.written {room : Nat} {full cut : Dump} (h : IsCut room full cut) :
    cut.written = full.written.take room := by
  by_cases hle : full.written.length ≤ room
  · rw [h.eq_of_le hle, List.take_of_length_le hle]
  · exact h.written_of_lt (Nat.lt_of_not_le hle)

/-- A dump that fits is not cut. -/
theorem IsCut.refl {room : Nat} {full : Dump} (hle : full.written.length ≤ room) :
    IsCut room full full where
  eq_of_le := fun _ => rfl
  written_of_lt := fun hlt => absurd hle (Nat.not_le_of_lt hlt)
  ending_of_lt := fun hlt => absurd hle (Nat.not_le_of_lt hlt)
  records := List.prefix_rfl

section Line

variable {room : Nat} {line : List UInt8} (records : List Log.Record)

/-- A dump is cut in the first line for which there is no room, whatever would
follow. -/
theorem IsCut.of_lt (hlt : room < line.length) (more : List UInt8) (ending : DumpEnd)
    (later : List Log.Record) :
    IsCut room ⟨line ++ more, ending, records ++ later⟩
      ⟨line.take room, .outputFull, records⟩ where
  eq_of_le := by
    intro hle
    rw [List.length_append] at hle
    omega
  written_of_lt := by
    intro _
    exact (List.take_append_of_le_length (Nat.le_of_lt hlt)).symm
  ending_of_lt := fun _ => rfl
  records := List.prefix_append records later

/-- A line for which there is room does not change the comparison of what
follows. -/
theorem IsCut.behind {full cut : Dump} (hroom : line.length ≤ room)
    (h : IsCut (room - line.length) full cut) :
    IsCut room ⟨line ++ full.written, full.ending, records ++ full.records⟩
      ⟨line ++ cut.written, cut.ending, records ++ cut.records⟩ where
  eq_of_le := by
    intro hle
    rw [List.length_append] at hle
    rw [h.eq_of_le (by omega)]
  written_of_lt := by
    intro hlt
    rw [List.length_append] at hlt
    show line ++ cut.written = (line ++ full.written).take room
    rw [h.written_of_lt (by omega), List.take_append, List.take_of_length_le hroom]
  ending_of_lt := by
    intro hlt
    rw [List.length_append] at hlt
    exact h.ending_of_lt (by omega)
  records := (List.prefix_append_right_inj records).2 h.records

end Line

end Dump

namespace Scanner

/-- A dump begins with the line of the next token, if there is one. -/
theorem exists_dump_go_of_token {s : Scanner} {t : Token} (h : s.next.result = .token t)
    (errors : Nat) :
    ∃ more ending later,
      dump.go errors none s = ⟨t.lineBytes ++ more, ending, s.next.records ++ later⟩ := by
  cases hend : t.isEnd with
  | true =>
      have hlast : s.next.result.isLast := by
        rw [h]
        exact hend
      refine ⟨[], .ofLast errors s.next.result, [], ?_⟩
      rw [dump_go_of_isLast hlast errors rfl, List.append_nil, List.append_nil, h]
      rfl
  | false => exact ⟨_, _, _, dump_go_of_token h hend errors rfl⟩

/-- **The comparison holds from any place on**, however many characters were
counted before. -/
theorem dump_go_isCut (s : Scanner) :
    ∀ errors room : Nat, (dump.go errors none s).IsCut room (dump.go errors (some room) s) := by
  -- by what the scanner has before it, which every token shortens
  induction hn : s.pending using Nat.strongRecOn generalizing s with
  | _ n ih =>
    intro errors room
    by_cases hfit : Room.fit (some room) s.next.result.lineBytes = s.next.result.lineBytes
    · have hroom := Room.fit_some_eq_iff.1 hfit
      cases hlast : s.next.result.isLast with
      | true =>
          rw [dump_go_of_isLast hlast errors rfl, dump_go_of_isLast hlast errors hfit]
          exact Dump.IsCut.refl hroom
      | false =>
          cases hreply : s.next.result with
          | failure e =>
              rw [hreply] at hlast
              cases hlast
          | token t =>
              have hless := hn ▸ pending_next_lt hlast
              rw [hreply] at hlast hfit hroom
              rw [dump_go_of_token hreply hlast errors rfl,
                dump_go_of_token hreply hlast errors hfit]
              exact (ih _ hless s.next.scanner rfl _ _).behind s.next.records hroom
    · -- only a token has a line that does not fit
      cases hreply : s.next.result with
      | failure e =>
          rw [hreply] at hfit
          exact absurd List.take_nil hfit
      | token t =>
          rw [hreply] at hfit
          obtain ⟨more, ending, later, hfull⟩ := exists_dump_go_of_token hreply errors
          rw [hfull, dump_go_of_full hreply errors hfit]
          refine Dump.IsCut.of_lt s.next.records ?_ more ending later
          exact Nat.lt_of_not_le fun hle => hfit (Room.fit_some_eq_iff.2 hle)

end Scanner

/-! ## §3. Sources. -/

/-- The token that was given, if it is one. -/
def Reply.token? : Reply → Option Token
  | token t => some t
  | failure _ => none

theorem Reply.isLast_closing (file : String) (offset : Nat) (failure? : Option ReadFailure) :
    (closing file offset failure?).isLast := by
  cases failure? <;> rfl

/-- Of the replies to a walk only the last one can be no token. -/
theorem Reply.filterMap_token? (ts : List Token) (last : Reply) :
    (ts.map Reply.token ++ [last]).filterMap Reply.token? = ts ++ last.token?.toList := by
  have hts : (ts.map Reply.token).filterMap Reply.token? = ts := by
    rw [List.filterMap_map]
    exact List.filterMap_some
  rw [List.filterMap_append, hts]
  cases last <;> rfl

namespace Token

variable (ts : List Token)

/-- The tokens that were given have the lines of the replies. -/
theorem linesOf_given (last : Reply) :
    linesOf (ts ++ last.token?.toList) = linesOf ts ++ last.lineBytes := by
  cases last with
  | token t => exact linesOf_concat ts t
  | failure e =>
      show linesOf (ts ++ []) = linesOf ts ++ []
      rw [List.append_nil, List.append_nil]

/-- The last reply is no character. -/
theorem countErrors_given {last : Reply} (h : last.isLast) :
    countErrors (ts ++ last.token?.toList) = countErrors ts := by
  cases last with
  | token t => exact countErrors_concat h
  | failure e =>
      show countErrors (ts ++ []) = countErrors ts
      rw [List.append_nil]

end Token

/-- **An output that runs full holds the beginning of the dump.**  The unlimited
dump of a source has the lines of the tokens that requests give, up to the end
of the source or the failure of a read, which it counts or tells.  An output
with room for all of that makes no difference.  Any other one holds as many of
the first bytes as fit, and its own failure is told, and no failure of a
read. -/
theorem dump_in_room (feed : Feed) (file? : Option String) :
    let file := file?.getD Scanner.defaultFile
    let offset := Utf8.size feed.lines.flatten
    let s := Scanner.ofFeed feed file?
    let full := s.dump none
    ∃ (rs : List Reply) (last : Reply),
      let given := (rs ++ [last]).filterMap Reply.token?
      s.replies (rs.length + 1) = rs ++ [last]
        ∧ (∀ r ∈ rs, r.isLast = false) ∧ last = .closing file offset feed.failure?
        ∧ full.written = Token.linesOf given
        ∧ full.ending = .ofLast (Token.countErrors given) last
        ∧ full.ending.failure?.map Failure.chain
            = feed.failure?.map (fun cause => ["scanning stopped",
                "failed to read source at " ++ file ++ ":" ++ toString offset, cause.message])
        ∧ ∀ room : Nat,
          (full.written.length ≤ room → s.dump (some room) = full)
            ∧ (room < full.written.length →
              (s.dump (some room)).written = full.written.take room
                ∧ (s.dump (some room)).ending.failure?.map Failure.chain
                    = some ["failed to write whole buffer"])
            ∧ (s.dump (some room)).written <+: full.written := by
  intro file offset s full
  obtain ⟨ds, hds, hproper⟩ := Decomposition.exists_proper_each feed.lines
  let ts := (Decomposition.joined ds).tokens file 0
  let last := Reply.closing file offset feed.failure?
  have hends : ∀ t ∈ ts, t.isEnd = false :=
    Decomposition.isEnd_of_mem_tokens_joined hproper file 0
  have hdrain : s.drain.result = ts.map .token ++ [last] := by
    rw [Scanner.drain_of_lines hproper hds.symm file?, Decomposition.text_joined, hds]
  have hlast : last.isLast := Reply.isLast_closing file offset feed.failure?
  have hfull : full = ⟨_, _, _⟩ := Scanner.dump_of_drain hdrain hends
  have hcut (room : Nat) : full.IsCut room (s.dump (some room)) := s.dump_go_isCut 0 room
  have hgiven := Reply.filterMap_token? ts last
  refine ⟨ts.map .token, last, ?_, ?_, rfl, ?_, ?_, ?_, fun room => ⟨?_, ?_, ?_⟩⟩
  · rw [Scanner.replies_of_drain hdrain, List.take_of_length_le (Nat.le_succ _),
      Nat.add_sub_cancel_left]
    rfl
  · intro r hr
    obtain ⟨t, ht, rfl⟩ := List.mem_map.1 hr
    exact hends t ht
  · rw [hgiven, Token.linesOf_given, hfull]
  · rw [hgiven, Token.countErrors_given ts hlast, hfull]
  · rw [hfull]
    show (DumpEnd.ofLast _ (Reply.closing file offset feed.failure?)).failure?.map _ = _
    cases feed.failure? <;> rfl
  · exact (hcut room).eq_of_le
  · intro hlt
    rw [(hcut room).ending_of_lt hlt]
    exact ⟨(hcut room).written_of_lt hlt, rfl⟩
  · rw [(hcut room).written]
    exact List.take_prefix room full.written

end LineLexer
