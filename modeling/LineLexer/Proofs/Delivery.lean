/-
  LineLexer.Proofs.Delivery
  ─────────────────────────
  **WHAT A FEED DELIVERS.**

  A feed has lines, too, but how it delivers them depends on its reads.  A
  *clean* feed delivers all it has: no read comes back without bytes, and no
  read fails but those that are repeated anyway.  Reads behind it that bring
  nothing more are *silent*.  Of such a feed the bytes alone count:

      collect_of_mem     — a line that ends among clean reads
      collect_of_notMem  — a line that goes on behind them
      collect_of_clean   — one line of a clean feed
      collect_of_served  — the same with silent reads behind it
      lines_of_served    — all the lines, up to the first that is not UTF-8
      lines_of_clean     — all of them, if the bytes are a text
-/
import LineLexer.Proofs.Lines

namespace LineLexer

/-! ## §1. The lines of a feed. -/

/-- The read delivers bytes, or fails and is repeated. -/
def Chunk.IsClean : Chunk → Prop
  | .data bytes => bytes ≠ []
  | .failure cause => cause.kind = .interrupted

instance : DecidablePred Chunk.IsClean
  | .data bytes => inferInstanceAs (Decidable (bytes ≠ []))
  | .failure cause => inferInstanceAs (Decidable (cause.kind = .interrupted))

namespace Feed

/-- Every read delivers bytes, or fails and is repeated. -/
def IsClean (feed : Feed) : Prop :=
  ∀ chunk ∈ feed, chunk.IsClean

instance : DecidablePred IsClean :=
  fun feed => inferInstanceAs (Decidable (∀ chunk ∈ feed, chunk.IsClean))

/-- The bytes that are still to come. -/
def bytes : Feed → List UInt8
  | [] => []
  | .data bs :: feed => bs ++ bytes feed
  | .failure _ :: feed => bytes feed

/-- The lines of a feed, up to the first that cannot be read. -/
def lines (feed : Feed) : List Text :=
  match _h : nextLine feed with
  | (.line text, feed) => text :: lines feed
  | _ => []
termination_by weight feed
decreasing_by exact weight_nextLine_lt (by assumption)

/-- Why no line follows these: the failure of a read, or none if the source
has ended. -/
def failure? (feed : Feed) : Option ReadFailure :=
  match _h : nextLine feed with
  | (.line _, feed) => failure? feed
  | (.finished, _) => none
  | (.failed cause, _) => some cause
termination_by weight feed
decreasing_by exact weight_nextLine_lt (by assumption)

theorem lines_of_line {feed feed' : Feed} {t : Text} (h : nextLine feed = (.line t, feed')) :
    lines feed = t :: lines feed' ∧ failure? feed = failure? feed' := by
  constructor
  · rw [lines]
    split <;> simp_all
  · rw [failure?]
    split <;> simp_all

theorem lines_of_finished {feed feed' : Feed} (h : nextLine feed = (.finished, feed')) :
    lines feed = [] ∧ failure? feed = none := by
  constructor
  · rw [lines]
    split <;> simp_all
  · rw [failure?]
    split <;> simp_all

theorem lines_of_failed {feed feed' : Feed} {cause : ReadFailure}
    (h : nextLine feed = (.failed cause, feed')) :
    lines feed = [] ∧ failure? feed = some cause := by
  constructor
  · rw [lines]
    split <;> simp_all
  · rw [failure?]
    split <;> simp_all

/-! ## §2. Clean feeds. -/

theorem putBack_of_clean (bs : List UInt8) {feed : Feed} (h : feed.IsClean) :
    (putBack bs feed).IsClean ∧ (putBack bs feed).bytes = bs ++ feed.bytes := by
  cases bs with
  | nil => exact ⟨h, rfl⟩
  | cons b bs =>
      refine ⟨fun chunk hmem => ?_, rfl⟩
      rcases List.mem_cons.1 hmem with rfl | hmem
      · exact List.cons_ne_nil b bs
      · exact h chunk hmem

theorem dropWhile_of_notMem {bs : List UInt8} (h : lineFeed ∉ bs) :
    bs.dropWhile (· != lineFeed) = [] := by
  have hrun : ∀ b ∈ bs, (b != lineFeed) = true := by simpa using Lines.ne_of_notMem h
  rw [← List.append_nil bs, List.dropWhile_append_of_pos hrun, List.dropWhile_nil]

theorem putBack_append (bs : List UInt8) (feed rest : Feed) :
    putBack bs (feed ++ rest) = putBack bs feed ++ rest := by
  cases bs <;> rfl

/-- **A line that ends in a clean stretch of reads is the first line of its
bytes**, and the others stay to be read. -/
theorem collect_of_mem {feed : Feed} (h : feed.IsClean) (hmem : lineFeed ∈ feed.bytes)
    (rest : Feed) :
    ∃ feed' : Feed,
      collect (feed ++ rest) = (.ok (Lines.first lineFeed feed.bytes), feed' ++ rest)
        ∧ feed'.IsClean ∧ feed'.bytes = Lines.others lineFeed feed.bytes := by
  induction feed with
  | nil => cases hmem
  | cons chunk feed ih =>
      obtain ⟨hchunk, hfeed⟩ := List.forall_mem_cons.1 h
      cases chunk with
      | failure cause =>
          -- the read is repeated
          obtain ⟨feed', hcollect, hrest⟩ := ih hfeed hmem
          refine ⟨feed', ?_, hrest⟩
          rw [List.cons_append, collect, if_pos (show cause.kind = .interrupted from hchunk)]
          exact hcollect
      | data bs =>
          rw [List.cons_append, collect, if_neg (show bs ≠ [] from hchunk)]
          by_cases hbs : lineFeed ∈ bs
          · -- the line ends in this chunk, and what follows is put back
            obtain ⟨line, more, rfl, hline⟩ := List.eq_append_cons_of_mem hbs
            have hcut := Lines.first_append hline (more ++ bytes feed)
            have hput := putBack_of_clean more hfeed
            have hrun : ∀ b ∈ line, (b != lineFeed) = true := by
              simpa using Lines.ne_of_notMem hline
            refine ⟨putBack more feed, ?_, hput.1, ?_⟩
            · rw [List.dropWhile_append_of_pos hrun, List.takeWhile_append_of_pos hrun]
              simp [bytes, hcut, putBack_append]
            · rw [bytes, List.append_assoc, List.cons_append, hcut.2, hput.2]
          · -- the line goes on in the next chunk
            have hlater : lineFeed ∈ bytes feed := (List.mem_append.1 hmem).resolve_left hbs
            obtain ⟨feed', hcollect, hclean, hbytes⟩ := ih hfeed hlater
            have hcut := Lines.first_append_of_notMem hbs (bytes feed)
            refine ⟨feed', ?_, hclean, ?_⟩
            · rw [dropWhile_of_notMem hbs, hcollect, bytes, hcut.1]
              rfl
            · rw [bytes, hcut.2, hbytes]

/-- **A line that does not end in a clean stretch of reads goes on behind
it**: all its bytes belong to the line, if the line is not lost. -/
theorem collect_of_notMem {feed : Feed} (h : feed.IsClean) (hmem : lineFeed ∉ feed.bytes)
    (rest : Feed) :
    collect (feed ++ rest) = ((collect rest).1.map (feed.bytes ++ ·), (collect rest).2) := by
  induction feed with
  | nil =>
      show collect rest = ((collect rest).1.map id, (collect rest).2)
      rw [Except.map_id]
      rfl
  | cons chunk feed ih =>
      obtain ⟨hchunk, hfeed⟩ := List.forall_mem_cons.1 h
      cases chunk with
      | failure cause =>
          rw [List.cons_append, collect, if_pos (show cause.kind = .interrupted from hchunk)]
          exact ih hfeed hmem
      | data bs =>
          have hbs : lineFeed ∉ bs := fun hin => hmem (List.mem_append_left _ hin)
          have hlater : lineFeed ∉ bytes feed := fun hin => hmem (List.mem_append_right _ hin)
          rw [List.cons_append, collect, if_neg (show bs ≠ [] from hchunk),
            dropWhile_of_notMem hbs, ih hfeed hlater]
          show (((collect rest).1.map _).map _, _) = _
          cases (collect rest).1 with
          | error cause => rfl
          | ok line => simp [Except.map, bytes]

/-- **What a clean feed delivers depends on its bytes alone**: the first line
of them, and then the others. -/
theorem collect_of_clean {feed : Feed} (h : feed.IsClean) :
    ∃ feed' : Feed, collect feed = (.ok (Lines.first lineFeed feed.bytes), feed')
      ∧ feed'.IsClean ∧ feed'.bytes = Lines.others lineFeed feed.bytes := by
  by_cases hmem : lineFeed ∈ feed.bytes
  · obtain ⟨feed', hcollect, hrest⟩ := collect_of_mem h hmem []
    rw [List.append_nil, List.append_nil] at hcollect
    exact ⟨feed', hcollect, hrest⟩
  · have hcollect := collect_of_notMem h hmem []
    have hcut := Lines.first_append_of_notMem hmem []
    rw [List.append_nil] at hcollect hcut
    refine ⟨[], ?_, nofun, hcut.2.symm⟩
    rw [hcollect, hcut.1]
    rfl

/-- What a line comes to, once its bytes are collected. -/
theorem nextLine_of_collect {feed feed' : Feed} {bs : List UInt8}
    (h : collect feed = (.ok bs, feed')) (hne : bs ≠ []) :
    nextLine feed = match Utf8.decode bs with
      | some t => (.line t, feed')
      | none => (.failed .notUtf8, feed') := by
  obtain ⟨b, bs, rfl⟩ := List.exists_cons_of_ne_nil hne
  cases hdecode : Utf8.decode (b :: bs) <;> simp only [nextLine, h, hdecode]

end Feed

/-! ## §3. Feeds that have been served. -/

/-- The read delivers no bytes, or fails and is repeated. -/
def Chunk.IsSilent : Chunk → Prop
  | .data bytes => bytes = []
  | .failure cause => cause.kind = .interrupted

instance : DecidablePred Chunk.IsSilent
  | .data bytes => inferInstanceAs (Decidable (bytes = []))
  | .failure cause => inferInstanceAs (Decidable (cause.kind = .interrupted))

namespace Feed

/-- No read delivers any more bytes, and none fails but those that are
repeated. -/
def IsSilent (feed : Feed) : Prop :=
  ∀ chunk ∈ feed, chunk.IsSilent

instance : DecidablePred IsSilent :=
  fun feed => inferInstanceAs (Decidable (∀ chunk ∈ feed, chunk.IsSilent))

/-- Nothing is collected from silent reads. -/
theorem collect_of_silent {feed : Feed} (h : feed.IsSilent) :
    ∃ feed' : Feed, collect feed = (.ok [], feed') ∧ feed'.IsSilent := by
  induction feed with
  | nil => exact ⟨[], rfl, h⟩
  | cons chunk feed ih =>
      obtain ⟨hchunk, hfeed⟩ := List.forall_mem_cons.1 h
      cases chunk with
      | failure cause =>
          rw [collect, if_pos (show cause.kind = .interrupted from hchunk)]
          exact ih hfeed
      | data bs =>
          rw [collect, if_pos (show bs = [] from hchunk)]
          exact ⟨feed, rfl, hfeed⟩

/-- **Silent reads behind clean ones do not show** in the line that is
collected. -/
theorem collect_of_served {served rest : Feed} (hserved : served.IsClean)
    (hrest : rest.IsSilent) :
    ∃ served' rest' : Feed,
      collect (served ++ rest) = (.ok (Lines.first lineFeed served.bytes), served' ++ rest')
        ∧ served'.IsClean ∧ rest'.IsSilent
        ∧ served'.bytes = Lines.others lineFeed served.bytes := by
  by_cases hmem : lineFeed ∈ served.bytes
  · obtain ⟨served', hcollect, hclean, hbytes⟩ := collect_of_mem hserved hmem rest
    exact ⟨served', rest, hcollect, hclean, hrest, hbytes⟩
  · -- the first read that comes back without bytes ends the line
    obtain ⟨rest', hcollect, hsilent⟩ := collect_of_silent hrest
    have hcut := Lines.first_append_of_notMem hmem []
    rw [List.append_nil] at hcut
    refine ⟨[], rest', ?_, nofun, hsilent, hcut.2.symm⟩
    rw [collect_of_notMem hserved hmem, hcollect, hcut.1]
    rfl

/-- **The lines that can be read are the sound lines of the bytes**; a source
of other bytes than those of a text fails behind them. -/
theorem lines_of_served {served rest : Feed} (hserved : served.IsClean)
    (hrest : rest.IsSilent) :
    (served ++ rest).lines.map Utf8.encode = Lines.sound served.bytes
      ∧ (served ++ rest).failure?
        = if Utf8.IsWellFormed served.bytes then none else some .notUtf8 := by
  -- by the number of bytes, of which every line takes some
  induction hn : served.bytes.length using Nat.strongRecOn generalizing served rest with
  | _ n ih =>
    obtain ⟨served', rest', hcollect, hserved', hrest', hbytes⟩ :=
      collect_of_served hserved hrest
    by_cases hnil : served.bytes = []
    · have hread : nextLine (served ++ rest) = (.finished, served' ++ rest') := by
        unfold nextLine
        rw [hcollect, hnil]
        rfl
      obtain ⟨hlines, hfailure⟩ := lines_of_finished hread
      rw [hlines, hfailure, hnil]
      exact ⟨rfl, (if_pos .nil).symm⟩
    · have hlen := congrArg List.length (Lines.first_append_others lineFeed served.bytes)
      have hpos := List.length_pos_iff.2 (Lines.first_ne_nil lineFeed hnil)
      rw [List.length_append] at hlen
      have hread := nextLine_of_collect hcollect (Lines.first_ne_nil lineFeed hnil)
      have hfirst : Utf8.IsWellFormed (Lines.first lineFeed served.bytes) ↔ _ :=
        Utf8.isWellFormed_iff_isSome
      cases hdecode : Utf8.decode (Lines.first lineFeed served.bytes) with
      | some t =>
          -- the line is sound, and the others decide
          rw [hdecode] at hread hfirst
          obtain ⟨hmore, hend⟩ := ih served'.bytes.length (by rw [hbytes]; omega)
            hserved' hrest' rfl
          obtain ⟨hline, hfailure⟩ := lines_of_line hread
          rw [hline, hfailure, List.map_cons, hmore, hend, hbytes, Lines.sound_of_ne_nil hnil,
            if_pos (hfirst.2 rfl), Utf8.decode_eq_some_iff.1 hdecode]
          simp only [Lines.isWellFormed_iff_first hnil, hfirst.2 rfl, true_and, and_self]
      | none =>
          rw [hdecode] at hread hfirst
          have hbad : ¬ Utf8.IsWellFormed (Lines.first lineFeed served.bytes) := by
            simpa using hfirst
          obtain ⟨hlines, hfailure⟩ := lines_of_failed hread
          rw [hlines, hfailure, Lines.sound_of_ne_nil hnil, if_neg hbad,
            if_neg fun h => hbad ((Lines.isWellFormed_iff_first hnil).1 h).1]
          exact ⟨rfl, rfl⟩

/-- **The lines of a clean feed are the lines of its text**, and then the
source has ended. -/
theorem lines_of_clean {feed : Feed} (h : feed.IsClean) {t : Text}
    (ht : feed.bytes = Utf8.encode t) :
    feed.lines = Lines.cut '\n' t ∧ feed.failure? = none := by
  have hsilent : IsSilent [] := nofun
  have hwell : Utf8.IsWellFormed feed.bytes := ht ▸ Utf8.isWellFormed_encode t
  obtain ⟨hlines, hfailure⟩ := lines_of_served h hsilent
  rw [List.append_nil] at hlines hfailure
  rw [Lines.sound_of_isWellFormed hwell, ht, Lines.cut_encode] at hlines
  rw [if_pos hwell] at hfailure
  exact ⟨(List.map_inj_right fun _ _ => Utf8.encode_injective).1 hlines, hfailure⟩

/-- Bytes in memory are a clean feed. -/
theorem isClean_ofBytes (bs : List UInt8) : (ofBytes bs).IsClean ∧ (ofBytes bs).bytes = bs := by
  unfold ofBytes
  split
  next => exact ⟨nofun, rfl⟩
  next bs hne =>
    refine ⟨fun chunk hmem => ?_, List.append_nil _⟩
    rw [List.mem_singleton.1 hmem]
    exact hne

/-- And so is a text. -/
theorem isClean_ofText (t : Text) :
    (ofText t).IsClean ∧ (ofText t).bytes = Utf8.encode t :=
  isClean_ofBytes (Utf8.encode t)

end Feed

end LineLexer
