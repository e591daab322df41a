/-
  LineLexer.Feed
  ──────────────
  **A SOURCE, READ LINE BY LINE.**

  A feed is what is still to come from a source: the outcomes of its reads,
  in their order.  A read delivers a chunk of bytes or fails; when nothing
  is left, every further read delivers no bytes.

  A line is collected from as many reads as it takes:

      a line feed       — ends the line, and belongs to it
      no bytes          — ends the line early: what was collected is the line
      interrupted read  — is repeated
      any other failure — is reported, and what was collected is lost

  A line that holds nothing at all is the end of the source.  A line that is
  not UTF-8 is a failure, too.  `weight_add_length_collect_le` bounds what a
  line takes out of the feed, which is why reading a source ends.
-/
import LineLexer.Error
import LineLexer.Text.Utf8

namespace LineLexer

/-- The outcome of one read. -/
inductive Chunk where
  /-- The read delivers these bytes. -/
  | data (bytes : List UInt8)
  /-- The read fails. -/
  | failure (cause : ReadFailure)
  deriving Repr, DecidableEq

/-- The outcomes of the reads that are still to come. -/
abbrev Feed := List Chunk

/-- What reading a line comes to. -/
inductive LineRead where
  /-- A line, with its line feed if it has one. -/
  | line (text : Text)
  /-- The source has no more lines. -/
  | finished
  /-- The line could not be read. -/
  | failed (cause : ReadFailure)
  deriving Repr, DecidableEq

namespace Feed

/-! ## §1. Feeds of known content. -/

/-- The feed that delivers all the bytes in one read. -/
def ofBytes (bs : List UInt8) : Feed :=
  match bs with
  | [] => []
  | bs => [.data bs]

/-- The feed of a text in memory. -/
def ofText (t : Text) : Feed :=
  ofBytes (Utf8.encode t)

/-! ## §2. Collecting a line. -/

/-- The byte that ends a line. -/
def lineFeed : UInt8 := 10

/-- Puts back what is left of a chunk; a chunk that was used up leaves no
trace. -/
def putBack (rest : List UInt8) (feed : Feed) : Feed :=
  match rest with
  | [] => feed
  | rest => .data rest :: feed

/-- The bytes of the next line, and what is left of the feed behind them. -/
def collect : Feed → Except ReadFailure (List UInt8) × Feed
  | [] => (.ok [], [])
  | .failure cause :: feed =>
      if cause.kind = .interrupted then collect feed else (.error cause, feed)
  | .data bytes :: feed =>
      if bytes = [] then (.ok [], feed)
      else
        match bytes.dropWhile (· != lineFeed) with
        | _ :: rest => (.ok (bytes.takeWhile (· != lineFeed) ++ [lineFeed]), putBack rest feed)
        | [] =>
            -- the line goes on in the next read, and is lost if that one fails
            let (line, feed) := collect feed
            (line.map (bytes ++ ·), feed)

/-- Reads the next line. -/
def nextLine (feed : Feed) : LineRead × Feed :=
  match collect feed with
  | (.error cause, feed) => (.failed cause, feed)
  | (.ok [], feed) => (.finished, feed)
  | (.ok bytes, feed) =>
      match Utf8.decode bytes with
      | some text => (.line text, feed)
      | none => (.failed .notUtf8, feed)

/-! ## §3. What a line takes out of a feed. -/

/-- The bytes still to come, and one for each read that brings them. -/
def weight : Feed → Nat
  | [] => 0
  | .data bytes :: feed => bytes.length + 1 + weight feed
  | .failure _ :: feed => 1 + weight feed

theorem weight_putBack_le (rest : List UInt8) (feed : Feed) :
    weight (putBack rest feed) ≤ rest.length + 1 + weight feed := by
  cases rest with
  | nil => simp only [putBack, List.length_nil]; omega
  | cons b rest => simp [putBack, weight]

/-- The bytes of a line come out of the feed. -/
theorem weight_add_length_collect_le {feed feed' : Feed} {bs : List UInt8}
    (h : collect feed = (.ok bs, feed')) : weight feed' + bs.length ≤ weight feed := by
  induction feed generalizing bs feed' with
  | nil =>
      cases h
      simp
  | cons chunk feed ih =>
      cases chunk with
      | failure cause =>
          simp only [collect] at h
          split at h
          · have := ih h
            simp only [weight]
            omega
          · cases h
      | data bytes =>
          simp only [collect] at h
          split at h
          next hb =>
            cases h
            simp [weight]
          next =>
            split at h
            next b rest hrest =>
              -- the line feed and what stands before it leave the chunk
              cases h
              have hlen := congrArg List.length
                (List.takeWhile_append_dropWhile (p := (· != lineFeed)) (l := bytes))
              have := weight_putBack_le rest feed
              simp only [hrest, List.length_append, List.length_cons, List.length_nil, weight]
                at hlen ⊢
              omega
            next =>
              cases hc : collect feed with
              | mk line feed'' =>
                  rw [hc] at h
                  cases line with
                  | error cause => cases h
                  | ok more =>
                      cases h
                      have := ih hc
                      simp only [List.length_append, weight]
                      omega

/-- Nothing comes back into the feed. -/
theorem weight_collect_le (feed : Feed) : weight (collect feed).2 ≤ weight feed := by
  induction feed with
  | nil => exact Nat.le_refl _
  | cons chunk feed ih =>
      cases chunk with
      | failure cause =>
          simp only [collect, weight]
          split
          · omega
          · exact Nat.le_add_left _ _
      | data bytes =>
          simp only [collect]
          split
          next => simp only [weight]; omega
          next =>
            split
            next b rest hrest =>
              have hlen := congrArg List.length
                (List.takeWhile_append_dropWhile (p := (· != lineFeed)) (l := bytes))
              have := weight_putBack_le rest feed
              simp only [hrest, List.length_append, List.length_cons, weight] at hlen ⊢
              omega
            next =>
              simp only [weight]
              omega

/-- Nothing comes back into the feed. -/
theorem weight_nextLine_le {feed feed' : Feed} {read : LineRead}
    (h : nextLine feed = (read, feed')) : weight feed' ≤ weight feed := by
  have hle := weight_collect_le feed
  simp only [nextLine] at h
  split at h
  next hc => cases h; simpa [hc] using hle
  next hc => cases h; simpa [hc] using hle
  next hc => split at h <;> (cases h; simpa [hc] using hle)

/-- A line that was read holds something. -/
theorem ne_nil_of_nextLine {feed feed' : Feed} {t : Text}
    (h : nextLine feed = (.line t, feed')) : t ≠ [] := by
  simp only [nextLine] at h
  split at h
  · cases h
  · cases h
  next bytes _ hne _ =>
    split at h
    next text ht =>
      cases h
      rintro rfl
      -- only the empty byte string spells the empty text
      exact hne (Utf8.decode_eq_some_iff.1 ht)
    next => cases h

/-- The text of a line comes out of the feed. -/
theorem weight_add_size_nextLine_le {feed feed' : Feed} {t : Text}
    (h : nextLine feed = (.line t, feed')) : weight feed' + Utf8.size t ≤ weight feed := by
  simp only [nextLine] at h
  split at h
  · cases h
  · cases h
  next bytes rest hne hc =>
    split at h
    next text ht =>
      cases h
      have := weight_add_length_collect_le hc
      rw [Utf8.decode_eq_some_iff.1 ht, Utf8.length_encode] at this
      exact this
    next => cases h

/-- Reading a line brings the end of the feed nearer. -/
theorem weight_nextLine_lt {feed feed' : Feed} {t : Text}
    (h : nextLine feed = (.line t, feed')) : weight feed' < weight feed := by
  have := weight_add_size_nextLine_le h
  have := Utf8.size_pos_of_ne_nil (ne_nil_of_nextLine h)
  omega

end Feed

end LineLexer
