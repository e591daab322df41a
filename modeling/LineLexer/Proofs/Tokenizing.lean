/-
  LineLexer.Proofs.Tokenizing
  ───────────────────────────
  **TOKENS ARE WHAT THE GRAMMAR SAYS.**

  A text in memory is scanned line by line, but its tokens are those of the
  text as a whole: the decompositions of the lines, one behind the other, make
  up the decomposition of the text, because only the last line may lack the
  line break that ends a comment.

      drain_ofText            — what a walk over a text in memory gives
      tokenize_of_proper      — the tokens of a text that is decomposed
      tokenize_decomposition  — every text is, and in one way
-/
import LineLexer.Proofs.Scanning

namespace LineLexer

open Decomposition

/-- Where every reply is a token, the tokens are what comes out. -/
theorem mapM_toExcept (ts : List Token) :
    (ts.map Reply.token).mapM Reply.toExcept = .ok ts := by
  induction ts with
  | nil => rfl
  | cons t ts ih =>
      rw [List.map_cons, List.mapM_cons, ih]
      rfl

/-- The lines of a text, decomposed one by one, decompose the text. -/
theorem joined_of_lines {t : Text} {ds : List Decomposition}
    (hds : ds.map text = Lines.cut '\n' t) (hproper : ∀ e ∈ ds, e.IsProper []) :
    (joined ds).text = t ∧ (joined ds).IsProper [] := by
  constructor
  · rw [text_joined, hds, Lines.flatten_cut]
  · apply IsProper.joined hproper
    intro e he b hb
    have hmem : e.text ∈ (Lines.cut '\n' t).dropLast := by
      rw [← hds, ← List.map_dropLast]
      exact List.mem_map_of_mem he
    rw [Lines.getLast?_of_mem_dropLast_cut t _ hmem] at hb
    cases hb
    decide

/-- A walk over a text that is decomposed gives the tokens of its
decomposition, and then the end. -/
theorem Scanner.drain_ofText {d : Decomposition} (hd : d.IsProper []) (file? : Option String) :
    (ofText d.text file?).drain.result
      = (d.tokens (file?.getD defaultFile) 0
          ++ [Token.endOf (file?.getD defaultFile) (Utf8.size d.text)]).map .token := by
  -- a text in memory is read as its own lines
  obtain ⟨hclean, hbytes⟩ := Feed.isClean_ofText d.text
  obtain ⟨hlines, hfailure⟩ := Feed.lines_of_clean hclean hbytes
  obtain ⟨ds, hds, hproper⟩ := exists_proper_each (Lines.cut '\n' d.text)
  obtain ⟨htext, hjoined⟩ := joined_of_lines hds hproper
  -- what the lines make up is the one decomposition there is
  have hsame : joined ds = d := hjoined.unique hd htext
  have hdrain := drain_of_lines hproper (hlines.trans hds.symm) file?
  rw [hsame, hfailure] at hdrain
  rw [List.map_append]
  exact hdrain

/-- **A text that is decomposed has the tokens of its decomposition**, and
behind them the one that marks the end. -/
theorem tokenize_of_proper {d : Decomposition} (hd : d.IsProper []) (file? : Option String) :
    tokenize d.text file? = .ok (d.tokens (file?.getD Scanner.defaultFile) 0
      ++ [.endOf (file?.getD Scanner.defaultFile) (Utf8.size d.text)]) := by
  unfold tokenize
  rw [Scanner.drain_ofText hd, mapM_toExcept]

/-- What comes out is the tokens of a decomposition. -/
theorem exists_proper_of_tokenize {source : Text} {file? : Option String} {ts : List Token}
    (h : tokenize source file? = .ok ts) :
    ∃ d : Decomposition, d.text = source ∧ d.IsProper []
      ∧ ts = d.tokens (file?.getD Scanner.defaultFile) 0
        ++ [.endOf (file?.getD Scanner.defaultFile) (Utf8.size source)] := by
  obtain ⟨d, rfl, hd⟩ := exists_proper source
  rw [tokenize_of_proper hd] at h
  exact ⟨d, rfl, hd, (Except.ok.inj h).symm⟩

/-- No text is refused. -/
theorem exists_tokenize (source : Text) (file? : Option String) :
    ∃ ts, tokenize source file? = .ok ts := by
  obtain ⟨d, rfl, hd⟩ := exists_proper source
  exact ⟨_, tokenize_of_proper hd file?⟩

/-- **Every text has the tokens of its decomposition**: it is trivia and
lexemes in exactly one way that the grammar allows, and those lexemes come out
with their categories and places, and the end of the text behind them. -/
theorem tokenize_decomposition (source : Text) (file? : Option String) :
    ∃ d : Decomposition,
      (d.text = source ∧ d.IsProper []
        ∧ ∀ e : Decomposition, e.text = source → e.IsProper [] → e = d)
      ∧ tokenize source file? = .ok (d.tokens (file?.getD Scanner.defaultFile) 0
          ++ [.endOf (file?.getD Scanner.defaultFile) (Utf8.size source)]) := by
  obtain ⟨d, rfl, hd⟩ := exists_proper source
  refine ⟨d, ⟨rfl, hd, ?_⟩, tokenize_of_proper hd file?⟩
  intro e he hproper
  exact hproper.unique hd he

end LineLexer
