/-
  LineLexer.Text.Utf8
  ───────────────────
  **TEXT, ITS BYTES, AND BYTE OFFSETS.**

  A text is a list of characters.  It is stored and addressed in UTF-8: every
  offset and length of this library counts the bytes that `encode` writes.

      encode t        — the bytes of a text
      decode bs       — the text whose bytes are `bs`, if there is one
      size t          — how many bytes `encode t` has
      takeBytes n t   — the whole characters in the first `n` bytes of `t`
      dropBytes n t   — what is left behind them

  Reading back is strict: `decode_eq_some_iff` says that a byte string is
  accepted exactly if some text is written that way, so an overlong form, a
  surrogate, a value above U+10FFFF and a cut-off sequence are all refused.
-/

namespace LineLexer

/-- A text is the list of its characters. -/
abbrev Text := List Char

namespace Utf8

/-! ## §1. Writing. -/

/-- The number of bytes in which a text is written. -/
def size : Text → Nat
  | [] => 0
  | c :: t => c.utf8Size + size t

/-- The bytes of a text. -/
def encode (t : Text) : List UInt8 :=
  t.flatMap String.utf8EncodeChar

/-! ## §2. Reading. -/

/-- The number that one to four bytes spell: the low bits of the first byte,
then six bits from each further one. -/
def scalar : List UInt8 → Nat
  | [a] => a.toNat
  | [a, b] => a.toNat % 32 * 64 + b.toNat % 64
  | [a, b, c] => (a.toNat % 16 * 64 + b.toNat % 64) * 64 + c.toNat % 64
  | [a, b, c, d] =>
      ((a.toNat % 8 * 64 + b.toNat % 64) * 64 + c.toNat % 64) * 64 + d.toNat % 64
  | _ => 0

/-- The character that is written as these very bytes. -/
def charOf? (bs : List UInt8) : Option Char :=
  let c := Char.ofNat (scalar bs)
  if String.utf8EncodeChar c = bs then some c else none

/-- Reads a text back: bytes are gathered until they spell a character, and
no character takes more than four. -/
def decode (bs : List UInt8) : Option Text :=
  go [] bs
where
  /-- Reads on when `held` is the beginning of a character. -/
  go (held : List UInt8) : List UInt8 → Option Text
    | [] => if held.isEmpty then some [] else none
    | b :: bs =>
        match charOf? (held ++ [b]) with
        | some c => (go [] bs).map (c :: ·)
        -- with the fourth byte in hand, no further one can help
        | none => if held.length < 3 then go (held ++ [b]) bs else none

/-! ## §3. Cutting at a byte offset. -/

/-- The whole characters that lie in the first `n` bytes. -/
def takeBytes : Nat → Text → Text
  | _, [] => []
  | n, c :: t => if c.utf8Size ≤ n then c :: takeBytes (n - c.utf8Size) t else []

/-- What is left of a text behind the whole characters of its first `n`
bytes. -/
def dropBytes : Nat → Text → Text
  | _, [] => []
  | n, c :: t => if c.utf8Size ≤ n then dropBytes (n - c.utf8Size) t else c :: t

/-- An offset is a boundary of a text when it lies within the text and cuts
no character in two. -/
def IsBoundary (n : Nat) (t : Text) : Prop :=
  size (takeBytes n t) = n

instance (n : Nat) (t : Text) : Decidable (IsBoundary n t) :=
  inferInstanceAs (Decidable (size (takeBytes n t) = n))

/-! ## §4. Sizes. -/

@[simp] theorem size_nil : size [] = 0 := rfl

@[simp] theorem size_cons (c : Char) (t : Text) :
    size (c :: t) = c.utf8Size + size t := rfl

@[simp] theorem size_append (s t : Text) : size (s ++ t) = size s + size t := by
  induction s with
  | nil => simp
  | cons c s ih => simp [ih, Nat.add_assoc]

/-- Every character takes at least one byte. -/
theorem length_le_size (t : Text) : t.length ≤ size t := by
  induction t with
  | nil => simp
  | cons c t ih =>
      have := c.utf8Size_pos
      simp only [List.length_cons, size_cons]
      omega

theorem size_pos_of_ne_nil {t : Text} (h : t ≠ []) : 0 < size t := by
  cases t with
  | nil => exact absurd rfl h
  | cons c t =>
      have := c.utf8Size_pos
      simp only [size_cons]
      omega

@[simp] theorem encode_nil : encode [] = [] := rfl

@[simp] theorem encode_cons (c : Char) (t : Text) :
    encode (c :: t) = String.utf8EncodeChar c ++ encode t := by
  simp [encode]

@[simp] theorem encode_append (s t : Text) : encode (s ++ t) = encode s ++ encode t := by
  simp [encode]

theorem encode_flatten (ts : List Text) : encode ts.flatten = (ts.map encode).flatten := by
  induction ts with
  | nil => rfl
  | cons t ts ih => simp [ih]

@[simp] theorem length_encode (t : Text) : (encode t).length = size t := by
  induction t with
  | nil => rfl
  | cons c t ih => simp [ih]

theorem encode_ne_nil {t : Text} (h : t ≠ []) : encode t ≠ [] := by
  rw [← List.length_pos_iff, length_encode]
  exact size_pos_of_ne_nil h

/-! ## §5. Cuts. -/

@[simp] theorem takeBytes_append_dropBytes (n : Nat) (t : Text) :
    takeBytes n t ++ dropBytes n t = t := by
  induction t generalizing n with
  | nil => simp [takeBytes, dropBytes]
  | cons c t ih =>
      simp only [takeBytes, dropBytes]
      split <;> simp [ih]

@[simp] theorem takeBytes_size_append (s t : Text) : takeBytes (size s) (s ++ t) = s := by
  induction s with
  | nil =>
      cases t with
      | nil => rfl
      | cons c t =>
          have := c.utf8Size_pos
          simp only [size_nil, List.nil_append, takeBytes]
          rw [if_neg (by omega)]
  | cons c s ih => simp [takeBytes, ih]

@[simp] theorem dropBytes_size_append (s t : Text) : dropBytes (size s) (s ++ t) = t := by
  have h := takeBytes_append_dropBytes (size s) (s ++ t)
  rw [takeBytes_size_append] at h
  exact List.append_cancel_left h

@[simp] theorem dropBytes_zero (t : Text) : dropBytes 0 t = t :=
  dropBytes_size_append [] t

/-- A text is cut in one way at a byte offset. -/
theorem append_inj_of_size {s s' t t' : Text} (h : s ++ t = s' ++ t') (hs : size s = size s') :
    s = s' ∧ t = t' := by
  have hfront : s = s' := by
    rw [← takeBytes_size_append s t, h, hs, takeBytes_size_append]
  subst hfront
  exact ⟨rfl, List.append_cancel_left h⟩

theorem dropBytes_eq_nil_of_size_le {n : Nat} {t : Text} (h : size t ≤ n) :
    dropBytes n t = [] := by
  induction t generalizing n with
  | nil => rfl
  | cons c t ih =>
      simp only [size_cons] at h
      simp only [dropBytes]
      rw [if_pos (by omega), ih (by omega)]

/-! ## §6. Reading back. -/

private theorem scalar_utf8EncodeChar (c : Char) :
    scalar (String.utf8EncodeChar c) = c.val.toNat := by
  have hc : c.val.toNat < 0x110000 := by
    rcases c.valid with h | h <;> omega
  simp only [String.utf8EncodeChar]
  split
  · simp only [scalar, UInt8.toNat_ofNat']
    omega
  · split
    · simp only [scalar, UInt8.toNat_ofNat']
      omega
    · split <;> simp only [scalar, UInt8.toNat_ofNat'] <;> omega

/-- Bytes spell a character exactly if the character is written so. -/
theorem charOf?_eq_some_iff {bs : List UInt8} {c : Char} :
    charOf? bs = some c ↔ bs = String.utf8EncodeChar c := by
  constructor
  · intro h
    simp only [charOf?] at h
    split at h
    next he => cases h; exact he.symm
    next => cases h
  · rintro rfl
    have hs : Char.ofNat (scalar (String.utf8EncodeChar c)) = c := by
      rw [scalar_utf8EncodeChar]
      exact Char.ofNat_toNat c
    simp only [charOf?, hs, if_pos]

/-- No character's bytes begin another's. -/
theorem eq_of_utf8EncodeChar_append {c d : Char} {x y : List UInt8}
    (h : String.utf8EncodeChar c ++ x = String.utf8EncodeChar d ++ y) : c = d := by
  have hc := ByteArray.utf8DecodeChar?_utf8EncodeChar_append (b := x.toByteArray) (c := c)
  have hd := ByteArray.utf8DecodeChar?_utf8EncodeChar_append (b := y.toByteArray) (c := d)
  rw [← List.toByteArray_append, h, List.toByteArray_append, hd] at hc
  exact (Option.some.inj hc).symm

private theorem encode_of_decode_go {held bs : List UInt8} {t : Text}
    (h : decode.go held bs = some t) : held ++ bs = encode t := by
  induction bs generalizing held t with
  | nil =>
      simp only [decode.go] at h
      split at h
      next he => cases h; simpa using he
      next => cases h
  | cons b bs ih =>
      simp only [decode.go] at h
      split at h
      next c hc =>
        -- the held bytes are complete and spell `c`
        obtain ⟨u, hu, rfl⟩ := Option.map_eq_some_iff.1 h
        rw [encode_cons, ← charOf?_eq_some_iff.1 hc, ← ih hu]
        simp
      next =>
        split at h
        next => simpa using ih h
        next => cases h

/-- A character whose first bytes are `held` is completed by its other
bytes. -/
private theorem decode_go_complete {c : Char} {held more bs : List UInt8}
    (h : String.utf8EncodeChar c = held ++ more) (hm : more ≠ []) :
    decode.go held (more ++ bs) = (decode.go [] bs).map (c :: ·) := by
  induction more generalizing held with
  | nil => exact absurd rfl hm
  | cons b more ih =>
      have hsplit : String.utf8EncodeChar c = (held ++ [b]) ++ more := by simpa using h
      rw [List.cons_append, decode.go]
      cases more with
      | nil =>
          have hc : charOf? (held ++ [b]) = some c :=
            charOf?_eq_some_iff.2 (by simpa using hsplit.symm)
          rw [hc]
          rfl
      | cons b' more =>
          -- more bytes are to come, so nothing is spelt yet
          have hn : charOf? (held ++ [b]) = none := by
            cases hd : charOf? (held ++ [b]) with
            | none => rfl
            | some d =>
                -- the bytes of `d` would begin those of `c`
                rw [charOf?_eq_some_iff.1 hd] at hsplit
                have := eq_of_utf8EncodeChar_append
                  (c := c) (d := d) (x := []) (y := b' :: more) (by simpa using hsplit)
                subst this
                simp at hsplit
          have hlen : held.length < 3 := by
            have h1 := congrArg List.length h
            have h2 := c.utf8Size_le_four
            simp at h1
            omega
          rw [hn]
          simp only [hlen, if_true]
          exact ih hsplit (by simp)

@[simp] theorem decode_encode (t : Text) : decode (encode t) = some t := by
  induction t with
  | nil => rfl
  | cons c t ih =>
      have hne : String.utf8EncodeChar c ≠ [] := by
        have := c.utf8Size_pos
        intro h
        have hl := congrArg List.length h
        simp only [String.length_utf8EncodeChar, List.length_nil] at hl
        omega
      rw [encode_cons, decode, decode_go_complete (c := c) rfl hne]
      show (decode (encode t)).map (c :: ·) = _
      rw [ih]
      rfl

/-- **Strict reading**: a byte string is accepted exactly if a text is
written that way. -/
theorem decode_eq_some_iff {bs : List UInt8} {t : Text} :
    decode bs = some t ↔ bs = encode t :=
  ⟨fun h => by simpa using encode_of_decode_go h, fun h => h ▸ decode_encode t⟩

theorem encode_injective {s t : Text} (h : encode s = encode t) : s = t := by
  have hs := decode_encode s
  rw [h, decode_encode] at hs
  exact (Option.some.inj hs).symm

end Utf8

end LineLexer
