/-
  LineLexer.Proofs.Chunking
  ─────────────────────────
  **HOW A SOURCE IS CUT INTO READS DOES NOT SHOW.**

  Two clean feeds with the same bytes are alike: they give the same line, and
  are alike again behind it, although what either has put back may be cut
  quite differently.  Scanners that are equal but for alike feeds are alike,
  too, and stay so, step by step:

      Alike.nextLine            — reading a line
      Alike.seek, .take, .next  — a request for a token
      Alike.drain, .calls       — walks
      Alike.respond             — any request
      session_eq_of_bytes       — so no session can tell them apart
-/
import LineLexer.Session
import LineLexer.Proofs.Scanning

namespace LineLexer

/-! ## §1. Feeds. -/

/-- Two clean feeds with the same bytes. -/
structure Feed.Alike (f g : Feed) : Prop where
  /-- The first one is clean. -/
  left : f.IsClean
  /-- So is the second one. -/
  right : g.IsClean
  /-- Their bytes are the same. -/
  bytes : f.bytes = g.bytes

/-- **Alike feeds give the same line**, and are alike behind it. -/
theorem Feed.Alike.nextLine {f g : Feed} (h : f.Alike g) :
    (Feed.nextLine f).1 = (Feed.nextLine g).1
      ∧ (Feed.nextLine f).2.Alike (Feed.nextLine g).2 := by
  obtain ⟨f', hf, hcleanf, hbytesf⟩ := collect_of_clean h.left
  obtain ⟨g', hg, hcleang, hbytesg⟩ := collect_of_clean h.right
  have hbytes : f'.bytes = g'.bytes := by rw [hbytesf, hbytesg, h.bytes]
  have halike : f'.Alike g' := ⟨hcleanf, hcleang, hbytes⟩
  unfold Feed.nextLine
  rw [hf, hg, h.bytes]
  cases Lines.first lineFeed g.bytes with
  | nil => exact ⟨rfl, halike⟩
  | cons b bs =>
      dsimp only
      cases Utf8.decode (b :: bs) with
      | some t => exact ⟨rfl, halike⟩
      | none => exact ⟨rfl, halike⟩

/-! ## §2. Requests. -/

/-- The scanner with another feed before it. -/
def Scanner.onto (feed : Feed) (s : Scanner) : Scanner :=
  { s with feed }

/-- Two scanners that are equal but for alike feeds. -/
def Scanner.Alike (s t : Scanner) : Prop :=
  ∃ feed : Feed, s.feed.Alike feed ∧ t = s.onto feed

/-- Two accounts that can only be told apart by alike scanners. -/
structure Account.Alike {α : Type} (a b : Account α) : Prop where
  /-- The results are the same. -/
  result : a.result = b.result
  /-- The records are the same. -/
  records : a.records = b.records
  /-- The scanners afterwards are alike. -/
  scanner : a.scanner.Alike b.scanner

namespace Scanner.Alike

/-- Alike scanners have the same last reply, if they have one. -/
theorem lastReply? {s t : Scanner} (h : s.Alike t) : t.lastReply? = s.lastReply? := by
  obtain ⟨g, -, rfl⟩ := h
  rfl

/-- Alike scanners come upon the same lexeme, or read the same lines on the
way to it. -/
theorem seek {s t : Scanner} (h : s.Alike t) : s.seek.Alike t.seek := by
  -- by the weight of one feed, out of which every line that is read takes some
  induction hn : Feed.weight s.feed using Nat.strongRecOn generalizing s t with
  | _ n ih =>
    obtain ⟨g, hg, rfl⟩ := h
    by_cases hused : s.IsUsedUp
    · have hused' : (s.onto g).IsUsedUp := hused
      obtain ⟨hsame, halike⟩ := hg.nextLine
      cases hread : Feed.nextLine s.feed with
      | mk read f =>
          cases hread' : Feed.nextLine (s.onto g).feed with
          | mk read' g' =>
              rw [hread, show Feed.nextLine g = _ from hread'] at hsame halike
              obtain rfl : read = read' := hsame
              cases read with
              | line text =>
                  have hlt := Feed.weight_nextLine_lt hread
                  have hload : (s.load text f).Alike ((s.onto g).load text g') :=
                    ⟨g', halike, rfl⟩
                  obtain ⟨hresult, hrecords, hfound⟩ := ih _ (hn ▸ hlt) hload rfl
                  rw [seek_of_line hused hread, seek_of_line hused' hread']
                  refine ⟨hresult, ?_, hfound⟩
                  show _ :: _ = _ :: _
                  rw [hrecords]
                  rfl
              | finished =>
                  rw [seek_of_finished hused hread, seek_of_finished hused' hread']
                  exact ⟨rfl, rfl, g', halike, rfl⟩
              | failed cause =>
                  rw [seek_of_failed hused hread, seek_of_failed hused' hread']
                  exact ⟨rfl, rfl, g', halike, rfl⟩
    · have hused' : ¬ (s.onto g).IsUsedUp := hused
      rw [seek_of_not_isUsedUp hused, seek_of_not_isUsedUp hused']
      exact ⟨rfl, rfl, g, hg, rfl⟩

theorem take {s t : Scanner} (h : s.Alike t) : s.take.Alike t.take := by
  obtain ⟨g, hg, rfl⟩ := h
  exact ⟨rfl, rfl, g, hg, rfl⟩

/-- **Alike scanners give the same reply.** -/
theorem next {s t : Scanner} (h : s.Alike t) : s.next.Alike t.next := by
  cases hlast : s.lastReply? with
  | some r =>
      rw [next_of_lastReply? hlast, next_of_lastReply? (h.lastReply?.trans hlast)]
      exact ⟨rfl, rfl, h⟩
  | none =>
      have hs := lastReply?_eq_none_iff.1 hlast
      have ht := lastReply?_eq_none_iff.1 (h.lastReply?.trans hlast)
      obtain ⟨hsought, hrecords, hfound⟩ := h.seek
      cases hr : s.seek.result with
      | some r =>
          rw [next_of_closed hs hr, next_of_closed ht (hsought.symm.trans hr)]
          exact ⟨rfl, hrecords, hfound⟩
      | none =>
          obtain ⟨hresult, htaken, hmoved⟩ := hfound.take
          rw [next_of_found hs hr, next_of_found ht (hsought.symm.trans hr)]
          refine ⟨hresult, ?_, hmoved⟩
          show _ ++ _ = _ ++ _
          rw [hrecords, htaken]

/-! ## §3. Walks. -/

/-- **Walks over alike scanners give the same replies.** -/
theorem drain {s t : Scanner} (h : s.Alike t) : s.drain.Alike t.drain := by
  -- by what one scanner has before it, which every token shortens
  induction hn : s.pending using Nat.strongRecOn generalizing s t with
  | _ n ih =>
    obtain ⟨hresult, hrecords, hscanner⟩ := h.next
    cases hlast : s.next.result.isLast with
    | true =>
        rw [drain_of_isLast hlast, drain_of_isLast (s := t) (by rw [← hresult, hlast])]
        exact ⟨by rw [hresult], hrecords, hscanner⟩
    | false =>
        have hrest := ih _ (hn ▸ pending_next_lt hlast) hscanner rfl
        rw [drain_of_not_isLast hlast, drain_of_not_isLast (s := t) (by rw [← hresult, hlast])]
        refine ⟨?_, ?_, hrest.scanner⟩
        · rw [hresult, hrest.result]
        · rw [hrecords, hrest.records]

/-- **So many calls over alike scanners give the same replies.** -/
theorem calls {s t : Scanner} (h : s.Alike t) (n : Nat) (isOver : Bool) :
    (Walk.calls n ⟨s, isOver⟩).Alike (Walk.calls n ⟨t, isOver⟩) := by
  induction n generalizing s t isOver with
  | zero => exact ⟨rfl, rfl, h⟩
  | succ n ih =>
      cases isOver with
      | true =>
          rw [Walk.calls_of_isOver, Walk.calls_of_isOver]
          exact ⟨rfl, rfl, h⟩
      | false =>
          have hstep := h.next
          have hrest := ih hstep.scanner t.next.result.isLast
          rw [Walk.calls_succ, Walk.calls_succ, hstep.result]
          refine ⟨?_, ?_, hrest.scanner⟩
          · show _ :: _ = _ :: _
            rw [hrest.result]
          · show _ ++ _ = _ ++ _
            rw [hstep.records, hrest.records]

/-! ## §4. Sessions. -/

/-- **Alike scanners answer every request alike.** -/
theorem respond {s t : Scanner} (h : s.Alike t) (r : Request) :
    (s.respond r).Alike (t.respond r) := by
  cases r with
  | next =>
      refine ⟨?_, h.next.records, h.next.scanner⟩
      show Answer.one s.next.result = .one t.next.result
      rw [h.next.result]
  | drain =>
      refine ⟨?_, h.drain.records, h.drain.scanner⟩
      show Answer.all s.drain.result = .all t.drain.result
      rw [h.drain.result]
  | iterate n =>
      have hcalls := h.calls n false
      refine ⟨?_, hcalls.records, hcalls.scanner⟩
      show Answer.each (s.iterate n).result = .each (t.iterate n).result
      rw [show (s.iterate n).result = (t.iterate n).result from hcalls.result]

/-- Alike scanners look the same. -/
theorem observe {s t : Scanner} (h : s.Alike t) : s.observe = t.observe := by
  obtain ⟨g, -, rfl⟩ := h
  rfl

theorem observations {s t : Scanner} (h : s.Alike t) (rs : List Request) :
    s.observations rs = t.observations rs := by
  induction rs generalizing s t with
  | nil => rfl
  | cons r rs ih =>
      obtain ⟨hresult, hrecords, hscanner⟩ := h.respond r
      show (s.respond r).scanner.observe (some (s.respond r).result) (s.respond r).records
        :: (s.respond r).scanner.observations rs = _
      rw [hresult, hrecords, hscanner.observe, ih hscanner]
      rfl

theorem session {s t : Scanner} (h : s.Alike t) (rs : List Request) :
    session s rs = session t rs := by
  unfold LineLexer.session
  rw [h.observe, h.observations rs]
  obtain ⟨g, -, rfl⟩ := h
  rfl

end Scanner.Alike

/-- **How a source is cut into reads does not show**: in no session do clean
feeds with the same bytes differ, nor from the text that the bytes spell. -/
theorem session_eq_of_bytes {a b : Feed} (ha : a.IsClean) (hb : b.IsClean)
    (h : a.bytes = b.bytes) (file? : Option String) (requests : List Request) :
    session (.ofFeed a file?) requests = session (.ofFeed b file?) requests
      ∧ ∀ t : Text, Utf8.decode a.bytes = some t →
          session (.ofFeed a file?) requests = session (.ofText t file?) requests := by
  constructor
  · exact Scanner.Alike.session ⟨b, ⟨ha, hb, h⟩, rfl⟩ requests
  · intro t ht
    obtain ⟨hclean, hbytes⟩ := Feed.isClean_ofText t
    have hsame : a.bytes = (Feed.ofText t).bytes := by
      rw [hbytes, Utf8.decode_eq_some_iff.1 ht]
    exact Scanner.Alike.session ⟨.ofText t, ⟨ha, hclean, hsame⟩, rfl⟩ requests

/-- An operator and a character cut in two, with a read that is repeated. -/
def Feed.piecemeal : Feed :=
  [.data [45], .failure ⟨.interrupted, "again"⟩, .data [62, 195], .data [169, 10]]

/-- The same bytes at once. -/
def Feed.whole : Feed :=
  [.data [45, 62, 195, 169, 10]]

theorem session_piecemeal_eq_whole :
    session (.ofFeed .piecemeal none) [.next, .iterate 2, .drain]
        = session (.ofFeed .whole none) [.next, .iterate 2, .drain]
      ∧ session (.ofFeed .piecemeal none) [.next, .iterate 2, .drain]
        = session (.ofText ['-', '>', 'é', '\n'] none) [.next, .iterate 2, .drain] := by
  have hleft : Feed.piecemeal.IsClean := by decide
  have hright : Feed.whole.IsClean := by decide
  have hbytes : Feed.piecemeal.bytes = Feed.whole.bytes := rfl
  have h := session_eq_of_bytes hleft hright hbytes none [.next, .iterate 2, .drain]
  exact ⟨h.1, h.2 ['-', '>', 'é', '\n'] (by rfl)⟩

end LineLexer
