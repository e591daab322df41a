/-
  LineLexer.Proofs.BadLines
  ─────────────────────────
  **BYTES THAT ARE NOT UTF-8 SPOIL THEIR LINE, AND NOTHING BEFORE IT.**

  A line is read whole before any of it is scanned, so a line that is not
  UTF-8 gives no token at all, not even one that stands before the bad byte.
  The lines before it are UTF-8, and so are all of them together: they are a
  text of their own, and are scanned as such.

      exists_sound_text  — the sound lines are the lines of a text
      replies_of_bytes   — its tokens are what a scanner gives, and then the
                           failure; the end comes just if all the bytes are
                           a text
-/
import LineLexer.Proofs.Stream

namespace LineLexer

open Decomposition

/-! ## §1. The lines before a bad one. -/

namespace Feed

variable {served rest : Feed}

/-- The lines that can be read have as many bytes as the sound lines. -/
theorem size_lines_of_served (hserved : served.IsClean) (hrest : rest.IsSilent) :
    Utf8.size (served ++ rest).lines.flatten = (Lines.sound served.bytes).flatten.length := by
  rw [← Utf8.length_encode, Utf8.encode_flatten, (lines_of_served hserved hrest).1]

/-- **The sound lines before a bad one are the lines of a text**, which their
bytes spell. -/
theorem exists_sound_text (hserved : served.IsClean) (hrest : rest.IsSilent) {bad : List UInt8}
    {later : List (List UInt8)}
    (hcut : Lines.cut lineFeed served.bytes = Lines.sound served.bytes ++ bad :: later) :
    ∃ t : Text, (Lines.sound served.bytes).flatten = Utf8.encode t
      ∧ (served ++ rest).lines = Lines.cut '\n' t := by
  obtain ⟨hlines, -⟩ := lines_of_served hserved hrest
  refine ⟨(served ++ rest).lines.flatten, ?_, ?_⟩
  · rw [Utf8.encode_flatten, hlines]
  · -- cut as bytes and as characters, what the lines make up gives them back
    apply (List.map_inj_right fun _ _ => Utf8.encode_injective).1
    rw [hlines, ← Lines.cut_encode, Utf8.encode_flatten, hlines,
      Lines.cut_flatten_of_append hcut]

end Feed

/-! ## §2. The end of a source. -/

/-- The end is never given where a read fails, and is given in one place. -/
theorem eq_endOf_of_mem_replies {feed : Feed} {file? : Option String} {n : Nat} {t : Token}
    (ht : .token t ∈ (Scanner.ofFeed feed file?).replies n) (hend : t.isEnd) :
    feed.failure? = none
      ∧ t = .endOf (file?.getD Scanner.defaultFile) (Utf8.size feed.lines.flatten) := by
  obtain ⟨ds, hds, hproper⟩ := exists_proper_each feed.lines
  rw [Scanner.replies_of_lines hproper hds.symm] at ht
  rcases List.mem_append.1 ht with ht | ht
  · -- the tokens of lexemes are no ends
    obtain ⟨u, hu, hut⟩ := List.mem_map.1 (List.mem_of_mem_take ht)
    have hnot := isEnd_of_mem_tokens_joined hproper _ 0 u hu
    rw [Reply.token.inj hut, hend] at hnot
    cases hnot
  · have hclosing := List.eq_of_mem_replicate ht
    cases hfailure : feed.failure? with
    | none =>
        rw [hfailure] at hclosing
        exact ⟨rfl, Reply.token.inj hclosing⟩
    | some cause =>
        rw [hfailure] at hclosing
        cases hclosing

/-- Where no read fails, the end is given some time. -/
theorem exists_endOf_mem_replies {feed : Feed} (h : feed.failure? = none)
    (file? : Option String) :
    ∃ n, .token (.endOf (file?.getD Scanner.defaultFile) (Utf8.size feed.lines.flatten))
      ∈ (Scanner.ofFeed feed file?).replies n := by
  obtain ⟨ds, hds, hproper⟩ := exists_proper_each feed.lines
  -- one request for each token, and one more
  let ts := (joined ds).tokens (file?.getD Scanner.defaultFile) 0
  refine ⟨ts.length + 1, ?_⟩
  rw [Scanner.replies_of_lines hproper hds.symm, h, Nat.add_sub_cancel_left]
  exact List.mem_append_right _ List.mem_cons_self

/-! ## §3. The first bad line. -/

/-- What stands before a bad line is scanned as a text of its own, and then
the failure of that line is given. -/
theorem replies_of_bad {served rest : Feed} (hserved : served.IsClean) (hrest : rest.IsSilent)
    (hbad : ¬ Utf8.IsWellFormed served.bytes) {t : Text}
    (hlines : (served ++ rest).lines = Lines.cut '\n' t) (file? : Option String) :
    let file := file?.getD Scanner.defaultFile
    ∃ ts : List Token,
      tokenize t file? = .ok ts
        ∧ ∀ n, (Scanner.ofFeed (served ++ rest) file?).replies n =
          ((ts.filter (fun t => !t.isEnd)).map Reply.token).take n
            ++ List.replicate (n - (ts.filter (fun t => !t.isEnd)).length)
                (.failure ⟨.sourceRead .notUtf8,
                  ⟨(Lines.sound served.bytes).flatten.length, file⟩⟩) := by
  intro file
  obtain ⟨ds, hds, hproper⟩ := exists_proper_each (Lines.cut '\n' t)
  obtain ⟨htext, hjoined⟩ := joined_of_lines hds hproper
  refine ⟨(joined ds).tokens file 0 ++ [.endOf file (Utf8.size t)], ?_, fun n => ?_⟩
  · rw [← htext]
    exact tokenize_of_proper hjoined file?
  · rw [hjoined.filter_tokens_endOf,
      Scanner.replies_of_lines hproper (hlines.trans hds.symm),
      (Feed.lines_of_served hserved hrest).2, if_neg hbad,
      Feed.size_lines_of_served hserved hrest]
    rfl

/-- **Bytes that are not UTF-8 spoil their line, and nothing before it.**  A
source that delivers its bytes in any reads comes to its end, behind all of
them, if and only if they are UTF-8.  If they are not, there is a first line
that is not; what stands before it is a text, the tokens of that text are
given, and from then on the failure of that line, at the offset where it
begins. -/
theorem replies_of_bytes {served rest : Feed} (hserved : served.IsClean)
    (hrest : rest.IsSilent) (file? : Option String) :
    let bytes := served.bytes
    let file := file?.getD Scanner.defaultFile
    let s := Scanner.ofFeed (served ++ rest) file?
    ((∃ n, .token (.endOf file bytes.length) ∈ s.replies n) ↔ Utf8.IsWellFormed bytes)
      ∧ (∀ n t, .token t ∈ s.replies n → t.isEnd → t = .endOf file bytes.length)
      ∧ (¬ Utf8.IsWellFormed bytes →
          ∃ (good : List (List UInt8)) (bad : List UInt8) (later : List (List UInt8)),
            Lines.cut Feed.lineFeed bytes = good ++ bad :: later
              ∧ (∀ line ∈ good, Utf8.IsWellFormed line) ∧ ¬ Utf8.IsWellFormed bad
              ∧ ∃ (t : Text) (ts : List Token),
                bytes.take good.flatten.length = Utf8.encode t
                  ∧ tokenize t file? = .ok ts
                  ∧ ∀ n, s.replies n =
                    ((ts.filter (fun t => !t.isEnd)).map Reply.token).take n
                      ++ List.replicate (n - (ts.filter (fun t => !t.isEnd)).length)
                          (.failure ⟨.sourceRead .notUtf8, ⟨good.flatten.length, file⟩⟩)) := by
  intro bytes file s
  obtain ⟨-, hfailure⟩ := Feed.lines_of_served hserved hrest
  have hsize := Feed.size_lines_of_served hserved hrest
  have hwell : (served ++ rest).failure? = none ↔ Utf8.IsWellFormed bytes := by
    rw [hfailure]
    show _ ↔ Utf8.IsWellFormed served.bytes
    simp
  -- the end of well-formed bytes lies behind all of them
  have hplace : Utf8.IsWellFormed bytes →
      Utf8.size (served ++ rest).lines.flatten = bytes.length := by
    intro h
    rw [hsize, Lines.sound_of_isWellFormed h, Lines.flatten_cut]
  refine ⟨⟨?_, ?_⟩, ?_, ?_⟩
  · rintro ⟨n, hn⟩
    exact hwell.1 (eq_endOf_of_mem_replies hn rfl).1
  · intro h
    rw [← hplace h]
    exact exists_endOf_mem_replies (hwell.2 h) file?
  · intro n t ht hend
    obtain ⟨hnone, htoken⟩ := eq_endOf_of_mem_replies ht hend
    rw [htoken, hplace (hwell.1 hnone)]
  · intro h
    obtain ⟨bad, later, hcut, hbad⟩ := Lines.exists_bad h
    obtain ⟨t, ht, hlines⟩ := Feed.exists_sound_text hserved hrest hcut
    obtain ⟨ts, hts, hreplies⟩ := replies_of_bad hserved hrest h hlines file?
    refine ⟨Lines.sound bytes, bad, later, hcut, ?_, hbad, t, ts, ?_, hts, hreplies⟩
    · exact fun line hline => by simpa using List.mem_takeWhile_imp hline
    · have hbytes : bytes = (Lines.sound bytes).flatten ++ (bad :: later).flatten := by
        rw [← List.flatten_append, ← hcut, Lines.flatten_cut]
      calc bytes.take (Lines.sound bytes).flatten.length
          = ((Lines.sound bytes).flatten ++ (bad :: later).flatten).take
              (Lines.sound bytes).flatten.length := by rw [← hbytes]
        _ = (Lines.sound bytes).flatten := List.take_left
        _ = Utf8.encode t := ht

/-- A line, a line with a byte that begins no character, and a further line,
with a read that is repeated among them and one without bytes behind them. -/
def Feed.spoilt : Feed :=
  [.data [97, 10, 98], .failure ⟨.interrupted, "again"⟩, .data [255, 10, 99]]

theorem replies_of_spoilt :
    let s := Scanner.ofFeed (Feed.spoilt ++ [.data []]) none
    Feed.spoilt.IsClean ∧ Feed.IsSilent [.data []] ∧ ¬ Utf8.IsWellFormed Feed.spoilt.bytes
      ∧ (¬ ∃ n, .token (.endOf "shell" 6) ∈ s.replies n)
      ∧ ∃ ts, tokenize ['a', '\n'] none = .ok ts
        ∧ ∀ n, s.replies n =
          ((ts.filter (fun t => !t.isEnd)).map Reply.token).take n
            ++ List.replicate (n - (ts.filter (fun t => !t.isEnd)).length)
                (.failure ⟨.sourceRead .notUtf8, ⟨2, "shell"⟩⟩) := by
  intro s
  have hclean : Feed.spoilt.IsClean := by decide
  have hsilent : Feed.IsSilent [.data []] := by decide
  have hbad : ¬ Utf8.IsWellFormed Feed.spoilt.bytes := by decide
  obtain ⟨hend, -, hfirst⟩ := replies_of_bytes hclean hsilent none
  refine ⟨hclean, hsilent, hbad, fun h => hbad (hend.1 h), ?_⟩
  obtain ⟨good, bad, later, hcut, hgood, hnot, t, ts, ht, hts, hreplies⟩ := hfirst hbad
  have hlines : Lines.cut Feed.lineFeed Feed.spoilt.bytes = [[97, 10], [98, 255, 10], [99]] := by
    decide
  rw [hlines] at hcut
  -- one line is sound, and the second one is not
  rcases good with _ | ⟨line, _ | ⟨line', good⟩⟩
  · cases hcut
    exact absurd (by decide) hnot
  · cases hcut
    have htext : t = ['a', '\n'] := by
      have hdecode := Utf8.decode_eq_some_iff.2 ht
      have : Utf8.decode [97, 10] = some ['a', '\n'] := by decide
      exact Option.some.inj (hdecode.symm.trans this)
    subst htext
    exact ⟨ts, hts, hreplies⟩
  · obtain ⟨rfl, hmore⟩ := List.cons.inj hcut
    obtain ⟨rfl, -⟩ := List.cons.inj hmore
    exact absurd (hgood _ (List.mem_cons_of_mem _ List.mem_cons_self)) (by decide)

end LineLexer
