/-
  LineLexer.Proofs.Requests
  ─────────────────────────
  **EVERY REQUEST COMES TO REQUESTS FOR SINGLE TOKENS.**

  A scanner can be asked for one token, for all that a fresh walk gives, or
  for so many calls on a fresh walk that is then given up.  None of these adds
  a reply or loses one: each does to the scanner what some number of requests
  for single tokens does, and hands out their replies.

      ask_add         — requests for single tokens, one behind the other
      calls_eq_ask    — so many calls on a walk
      drain_eq_ask    — a walk to its end
      serve_isAsked   — any requests in a row
      serve_eq_ask    — what they give, and what each walk looks like
-/
import LineLexer.Session
import LineLexer.Proofs.Stream

namespace LineLexer

/-! ## §1. Accounts in a row. -/

/-- One account behind another one: the results and the records of both, and
the scanner as the second one leaves it. -/
def Account.followedBy {α : Type} (a b : Account (List α)) : Account (List α) where
  result := a.result ++ b.result
  records := a.records ++ b.records
  scanner := b.scanner

/-- The account with another result. -/
def Account.map {α β : Type} (f : α → β) (a : Account α) : Account β where
  result := f a.result
  records := a.records
  scanner := a.scanner

/-- The replies in an answer, without the calls that gave nothing. -/
def Answer.replies : Answer → List Reply
  | .one r => [r]
  | .all rs => rs
  | .each rs => rs.filterMap id

namespace Scanner

/-- What so many requests for single tokens come to. -/
def ask : Nat → Scanner → Account (List Reply)
  | 0, s => ⟨[], [], s⟩
  | n + 1, s =>
      let rest := s.next.scanner.ask n
      ⟨s.next.result :: rest.result, s.next.records ++ rest.records, rest.scanner⟩

/-- What requests of any kind, in a row, come to. -/
def serve : List Request → Scanner → Account (List Answer)
  | [], s => ⟨[], [], s⟩
  | r :: rs, s =>
      let rest := (s.respond r).scanner.serve rs
      ⟨(s.respond r).result :: rest.result, (s.respond r).records ++ rest.records,
        rest.scanner⟩

/-! ## §2. Requests for single tokens. -/

@[simp] theorem result_ask (n : Nat) (s : Scanner) : (s.ask n).result = s.replies n := by
  induction n generalizing s with
  | zero => rfl
  | succ n ih =>
      show s.next.result :: (s.next.scanner.ask n).result = _
      rw [ih]
      rfl

@[simp] theorem length_replies (n : Nat) (s : Scanner) : (s.replies n).length = n := by
  induction n generalizing s with
  | zero => rfl
  | succ n ih =>
      show (s.next.scanner.replies n).length + 1 = n + 1
      rw [ih]

theorem ask_one (s : Scanner) :
    s.ask 1 = ⟨[s.next.result], s.next.records, s.next.scanner⟩ := by
  show Account.mk _ (s.next.records ++ []) _ = _
  rw [List.append_nil]
  rfl

/-- Requests for single tokens can be put one behind the other. -/
theorem ask_add (m n : Nat) (s : Scanner) :
    s.ask (m + n) = (s.ask m).followedBy ((s.ask m).scanner.ask n) := by
  induction m generalizing s with
  | zero =>
      rw [Nat.zero_add]
      rfl
  | succ m ih =>
      rw [Nat.add_right_comm]
      show Account.mk (_ :: (s.next.scanner.ask (m + n)).result) (_ ++ _) _ = _
      rw [ih]
      simp only [Account.followedBy, ask, List.cons_append, List.append_assoc]

/-! ## §3. Walks. -/

/-- **So many calls on a fresh walk** give the replies of some requests for
single tokens, up to the last reply if it comes so soon, and nothing from then
on. -/
theorem calls_eq_ask (k : Nat) (s : Scanner) :
    ∃ n ≤ k,
      s.iterate k =
          (s.ask n).map (fun rs => rs.map some ++ List.replicate (k - n) none)
        ∧ (∀ r ∈ (s.replies n).dropLast, r.isLast = false)
        ∧ (n < k → ∃ r ∈ (s.replies n).getLast?, r.isLast) := by
  unfold iterate
  induction k generalizing s with
  | zero =>
      refine ⟨0, Nat.le_refl 0, rfl, ?_, fun h => absurd h (Nat.lt_irrefl 0)⟩
      exact List.forall_mem_nil _
  | succ k ih =>
      rw [Walk.calls_succ]
      cases hlast : s.next.result.isLast with
      | true =>
          -- the walk is over, and every further call gives nothing
          rw [Walk.calls_of_isOver]
          refine ⟨1, Nat.le_add_left 1 k, rfl, ?_, fun _ => ⟨_, rfl, hlast⟩⟩
          exact List.forall_mem_nil _
      | false =>
          obtain ⟨n, hn, hcalls, hinit, hstop⟩ := ih s.next.scanner
          refine ⟨n + 1, Nat.succ_le_succ hn, ?_, ?_, fun h => ?_⟩
          · rw [hcalls, Nat.add_sub_add_right]
            rfl
          · intro r hr
            replace hr : r ∈ (s.next.result :: s.next.scanner.replies n).dropLast := hr
            cases hmore : s.next.scanner.replies n with
            | nil =>
                rw [hmore] at hr
                cases hr
            | cons r' rs =>
                rw [hmore, List.dropLast_cons_of_ne_nil (List.cons_ne_nil _ _)] at hr
                rcases List.mem_cons.1 hr with rfl | hr
                · exact hlast
                · exact hinit r (hmore ▸ hr)
          · obtain ⟨r, hr, hrlast⟩ := hstop (Nat.lt_of_succ_lt_succ h)
            refine ⟨r, ?_, hrlast⟩
            show (s.next.result :: s.next.scanner.replies n).getLast? = some r
            rw [List.getLast?_cons, Option.mem_def.1 hr]
            rfl

/-- **A walk to its end** gives the replies of some requests for single
tokens, of which the last one, and no other, is a last reply. -/
theorem drain_eq_ask (s : Scanner) :
    ∃ (rs : List Reply) (last : Reply),
      s.drain.result = rs ++ [last] ∧ last.isLast ∧ (∀ r ∈ rs, r.isLast = false)
        ∧ s.drain = s.ask (rs.length + 1) := by
  -- by what the scanner has before it, which every token shortens
  induction hn : s.pending using Nat.strongRecOn generalizing s with
  | _ n ih =>
    cases hlast : s.next.result.isLast with
    | true =>
        rw [drain_of_isLast hlast]
        exact ⟨[], s.next.result, rfl, hlast, List.forall_mem_nil _, (ask_one s).symm⟩
    | false =>
        obtain ⟨rs, last, hresult, hend, hinit, hdrain⟩ :=
          ih _ (hn ▸ pending_next_lt hlast) s.next.scanner rfl
        refine ⟨s.next.result :: rs, last, ?_, hend, ?_, ?_⟩
        · rw [drain_of_not_isLast hlast, hresult]
          rfl
        · exact List.forall_mem_cons.2 ⟨hlast, hinit⟩
        · rw [drain_of_not_isLast hlast, hdrain]
          rfl

/-! ## §4. Requests of any kind. -/

/-- The account is that of as many requests for single tokens as it has
replies. -/
def IsAsked (s : Scanner) (a : Account (List Reply)) : Prop :=
  a = s.ask a.result.length

theorem isAsked_ask (n : Nat) (s : Scanner) : s.IsAsked (s.ask n) := by
  unfold IsAsked
  rw [result_ask, length_replies]

theorem IsAsked.followedBy {s : Scanner} {a b : Account (List Reply)} (ha : s.IsAsked a)
    (hb : a.scanner.IsAsked b) : s.IsAsked (a.followedBy b) := by
  unfold IsAsked at *
  show _ = s.ask (a.result ++ b.result).length
  rw [List.length_append, ask_add, ← ha, ← hb]

/-- **A request hands out the replies of requests for single tokens.** -/
theorem respond_isAsked (s : Scanner) (r : Request) :
    s.IsAsked ((s.respond r).map Answer.replies) := by
  cases r with
  | next =>
      have h : (s.respond .next).map Answer.replies = s.ask 1 := (ask_one s).symm
      rw [h]
      exact isAsked_ask 1 s
  | drain =>
      obtain ⟨rs, last, -, -, -, hdrain⟩ := drain_eq_ask s
      have h : (s.respond .drain).map Answer.replies = s.drain := rfl
      rw [h, hdrain]
      exact isAsked_ask _ s
  | iterate k =>
      obtain ⟨n, -, hcalls, -⟩ := calls_eq_ask k s
      have h : (s.respond (.iterate k)).map Answer.replies = s.ask n := by
        show (s.iterate k).map (·.filterMap id) = _
        rw [hcalls]
        simp [Account.map, List.filterMap_append, -result_ask]
      rw [h]
      exact isAsked_ask n s

/-- **Requests in a row hand out the replies of requests for single
tokens.** -/
theorem serve_isAsked (requests : List Request) (s : Scanner) :
    s.IsAsked ((s.serve requests).map (·.flatMap Answer.replies)) := by
  induction requests generalizing s with
  | nil => exact isAsked_ask 0 s
  | cons r rs ih => exact (s.respond_isAsked r).followedBy (ih (s.respond r).scanner)

theorem ask_of_serve (requests : List Request) (s : Scanner) :
    let served := s.serve requests
    let given := served.result.flatMap Answer.replies
    s.ask given.length = ⟨given, served.records, served.scanner⟩ :=
  (s.serve_isAsked requests).symm

end Scanner

/-- **Walks add no reply and lose none.**  Requests in a row hand out the
replies of as many requests for single tokens, and leave the scanner where
those leave it.  Calls on a walk stop to give anything behind the first last
reply, and do not move the scanner any more; a walk to its end gives one last
reply, at the end. -/
theorem serve_eq_ask (feed : Feed) (file? : Option String) (requests : List Request) :
    let s := Scanner.ofFeed feed file?
    let served := s.serve requests
    let given := served.result.flatMap Answer.replies
    s.ask given.length = ⟨given, served.records, served.scanner⟩
      ∧ ∀ t : Scanner,
        (∀ k, ∃ n ≤ k,
          t.iterate k = (t.ask n).map (fun rs => rs.map some ++ List.replicate (k - n) none)
            ∧ (∀ r ∈ (t.replies n).dropLast, r.isLast = false)
            ∧ (n < k → ∃ r ∈ (t.replies n).getLast?, r.isLast))
        ∧ ∃ (rs : List Reply) (last : Reply),
          t.drain.result = rs ++ [last] ∧ last.isLast ∧ (∀ r ∈ rs, r.isLast = false)
            ∧ t.drain = t.ask (rs.length + 1) := by
  intro s served given
  refine ⟨s.ask_of_serve requests, fun t => ⟨?_, t.drain_eq_ask⟩⟩
  exact fun k => t.calls_eq_ask k

end LineLexer
