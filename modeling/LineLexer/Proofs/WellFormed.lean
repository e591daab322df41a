/-
  LineLexer.Proofs.WellFormed
  ───────────────────────────
  **WHICH BYTES ARE A TEXT.**

  A byte string is UTF-8 if it is put together from characters of one to four
  bytes.  The first byte tells how many there are; the second one is bounded
  more narrowly behind some first bytes, so that no character can be written
  in more bytes than it needs, and no surrogate and nothing above U+10FFFF can
  be written at all.  This is said of the bytes alone (`IsWellFormed`), and
  comes to the same as being written from a text:

      isCharacter_iff   — the bytes of one character
      isWellFormed_iff  — those of a whole text
-/
import LineLexer.Text.Utf8

namespace LineLexer

namespace Utf8

/-! ## §1. The form of the bytes. -/

/-- The byte goes on with a character, and begins none. -/
def IsTail (b : UInt8) : Prop :=
  0x80 ≤ b.toNat ∧ b.toNat ≤ 0xBF

/-- The bytes are those of one character. -/
inductive IsCharacter : List UInt8 → Prop where
  /-- A character of ASCII. -/
  | one {a : UInt8} (ha : a.toNat ≤ 0x7F) : IsCharacter [a]
  /-- Two bytes; the first bytes C0 and C1 would begin a form that is too
  long. -/
  | two {a b : UInt8} (ha : 0xC2 ≤ a.toNat ∧ a.toNat ≤ 0xDF) (hb : IsTail b) :
      IsCharacter [a, b]
  /-- Three bytes, of which the second one keeps out what is too long, and the
  surrogates. -/
  | three {a b c : UInt8} (ha : 0xE0 ≤ a.toNat ∧ a.toNat ≤ 0xEF) (hb : IsTail b) (hc : IsTail c)
      (hlong : a.toNat = 0xE0 → 0xA0 ≤ b.toNat) (hsurrogate : a.toNat = 0xED → b.toNat ≤ 0x9F) :
      IsCharacter [a, b, c]
  /-- Four bytes, of which the second one keeps out what is too long, and what
  lies above U+10FFFF. -/
  | four {a b c d : UInt8} (ha : 0xF0 ≤ a.toNat ∧ a.toNat ≤ 0xF4) (hb : IsTail b) (hc : IsTail c)
      (hd : IsTail d) (hlong : a.toNat = 0xF0 → 0x90 ≤ b.toNat)
      (hlimit : a.toNat = 0xF4 → b.toNat ≤ 0x8F) : IsCharacter [a, b, c, d]

/-- The bytes are characters, one behind the other. -/
inductive IsWellFormed : List UInt8 → Prop where
  /-- No bytes at all. -/
  | nil : IsWellFormed []
  /-- A character, and the characters behind it. -/
  | cons {c bs : List UInt8} (hc : IsCharacter c) (hbs : IsWellFormed bs) :
      IsWellFormed (c ++ bs)

/-! ## §2. One character. -/

/-- The bytes of a character have this form. -/
theorem isCharacter_utf8EncodeChar (c : Char) : IsCharacter (String.utf8EncodeChar c) := by
  have hvalid : c.val.toNat < 0xD800 ∨ 0xDFFF < c.val.toNat ∧ c.val.toNat < 0x110000 := c.valid
  -- the size of the number decides how many bytes there are
  simp only [String.utf8EncodeChar]
  split
  · refine .one ?_
    rw [UInt8.toNat_ofNat']
    omega
  · split
    · refine .two ?_ ?_
      all_goals
        simp only [IsTail, UInt8.toNat_ofNat']
        omega
    · split
      · refine .three ?_ ?_ ?_ ?_ ?_
        all_goals
          simp only [IsTail, UInt8.toNat_ofNat']
          omega
      · refine .four ?_ ?_ ?_ ?_ ?_ ?_
        all_goals
          simp only [IsTail, UInt8.toNat_ofNat']
          omega

/-- Bytes spell a character, if the number that they spell is one of those
that characters have, and is written as these bytes. -/
theorem exists_char {bs : List UInt8} (hn : (scalar bs).isValidChar)
    (h : ∀ c : Char, c.val.toNat = scalar bs → String.utf8EncodeChar c = bs) :
    ∃ c : Char, bs = String.utf8EncodeChar c := by
  refine ⟨Char.ofNat (scalar bs), (h _ ?_).symm⟩
  rw [Char.ofNat, dif_pos hn]
  rfl

theorem ofNat_eq_of_toNat {n : Nat} {b : UInt8} (h : b.toNat = n) : UInt8.ofNat n = b := by
  rw [← h, UInt8.ofNat_toNat]

/-- **Bytes have the form of a character** if and only if one is written
so. -/
theorem isCharacter_iff {bs : List UInt8} :
    IsCharacter bs ↔ ∃ c : Char, bs = String.utf8EncodeChar c := by
  constructor
  · intro h
    cases h with
    | @one a ha =>
        refine exists_char (.inl ?_) fun c hc => ?_
        · simp only [scalar]
          omega
        · simp only [scalar] at hc
          simp only [String.utf8EncodeChar]
          rw [if_pos (by omega), ofNat_eq_of_toNat hc.symm]
    | @two a b ha hb =>
        simp only [IsTail] at hb
        refine exists_char (.inl ?_) fun c hc => ?_
        · simp only [scalar]
          omega
        · simp only [scalar] at hc
          simp only [String.utf8EncodeChar]
          rw [if_neg (by omega), if_pos (by omega), ofNat_eq_of_toNat (b := a) (by omega),
            ofNat_eq_of_toNat (b := b) (by omega)]
    | @three a b c ha hb hc hlong hsurrogate =>
        simp only [IsTail] at hb hc
        refine exists_char ?_ fun e he => ?_
        · simp only [scalar, Nat.isValidChar]
          omega
        · simp only [scalar] at he
          simp only [String.utf8EncodeChar]
          rw [if_neg (by omega), if_neg (by omega), if_pos (by omega),
            ofNat_eq_of_toNat (b := a) (by omega), ofNat_eq_of_toNat (b := b) (by omega),
            ofNat_eq_of_toNat (b := c) (by omega)]
    | @four a b c d ha hb hc hd hlong hlimit =>
        simp only [IsTail] at hb hc hd
        refine exists_char (.inr ?_) fun e he => ?_
        · simp only [scalar]
          omega
        · simp only [scalar] at he
          simp only [String.utf8EncodeChar]
          rw [if_neg (by omega), if_neg (by omega), if_neg (by omega),
            ofNat_eq_of_toNat (b := a) (by omega), ofNat_eq_of_toNat (b := b) (by omega),
            ofNat_eq_of_toNat (b := c) (by omega), ofNat_eq_of_toNat (b := d) (by omega)]
  · rintro ⟨c, rfl⟩
    exact isCharacter_utf8EncodeChar c

/-! ## §3. A whole text. -/

/-- **Bytes are well-formed** if and only if a text is written so. -/
theorem isWellFormed_iff {bs : List UInt8} :
    IsWellFormed bs ↔ ∃ t : Text, bs = encode t := by
  constructor
  · intro h
    induction h with
    | nil => exact ⟨[], rfl⟩
    | cons hc _ ih =>
        obtain ⟨c, rfl⟩ := isCharacter_iff.1 hc
        obtain ⟨t, rfl⟩ := ih
        exact ⟨c :: t, (encode_cons c t).symm⟩
  · rintro ⟨t, rfl⟩
    induction t with
    | nil => exact .nil
    | cons c t ih =>
        rw [encode_cons]
        exact .cons (isCharacter_utf8EncodeChar c) ih

theorem isWellFormed_encode (t : Text) : IsWellFormed (encode t) :=
  isWellFormed_iff.2 ⟨t, rfl⟩

/-- Reading back accepts what is well-formed, and nothing else. -/
theorem isWellFormed_iff_isSome {bs : List UInt8} :
    IsWellFormed bs ↔ (decode bs).isSome := by
  rw [isWellFormed_iff, Option.isSome_iff_exists]
  exact exists_congr fun t => decode_eq_some_iff.symm

instance : DecidablePred IsWellFormed :=
  fun _ => decidable_of_iff _ isWellFormed_iff_isSome.symm

/-- A form that is too long, a surrogate, a number that is too large, and a
character that breaks off. -/
example : ¬ IsWellFormed [0xC0, 0x80] ∧ ¬ IsWellFormed [0xED, 0xA0, 0x80]
    ∧ ¬ IsWellFormed [0xF4, 0x90, 0x80, 0x80] ∧ ¬ IsWellFormed [0xC3] := by decide

/-- What is put together from well-formed parts is well-formed. -/
theorem isWellFormed_flatten {parts : List (List UInt8)}
    (h : ∀ bs ∈ parts, IsWellFormed bs) : IsWellFormed parts.flatten := by
  induction parts with
  | nil => exact .nil
  | cons bs parts ih =>
      obtain ⟨hbs, hparts⟩ := List.forall_mem_cons.1 h
      obtain ⟨t, rfl⟩ := isWellFormed_iff.1 hbs
      obtain ⟨u, hu⟩ := isWellFormed_iff.1 (ih hparts)
      rw [List.flatten_cons, hu, ← encode_append]
      exact isWellFormed_encode (t ++ u)

end Utf8

end LineLexer
