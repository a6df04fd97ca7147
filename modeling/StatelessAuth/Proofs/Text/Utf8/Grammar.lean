/-
Which byte strings are texts, said without any reader or writer.

A text is a string of sequences of one to four bytes, one for each character
(`IsStrict`). The first byte of a sequence tells its length, and the others are
tails. What a lenient reader would also take is kept out in three places: a
sequence must not be longer than its character needs, must not stand for half
of a surrogate pair, and must not lead past U+10FFFF. Beside the first byte it
is the second one alone that tells (`IsSequence`).

The reader takes these byte strings and no other (`decode?_eq_none_iff`), since
the sequences are those of the characters (`isSequence_iff`).
-/
import StatelessAuth.Text.Utf8

namespace StatelessAuth.Utf8

-- ========================================================= the grammar

/-- A byte that is not the first of its sequence. -/
def IsTail (byte : UInt8) : Prop := 0x80 ≤ byte.toNat ∧ byte.toNat ≤ 0xBF

/-- The bytes of one character. -/
inductive IsSequence : List UInt8 → Prop
  | one {a : UInt8} (ha : a.toNat ≤ 0x7F) : IsSequence [a]
  /-- The first bytes 0xC0 and 0xC1 would be those of overlong forms. -/
  | two {a b : UInt8} (ha : 0xC2 ≤ a.toNat ∧ a.toNat ≤ 0xDF) (hb : IsTail b) :
      IsSequence [a, b]
  | three {a b c : UInt8} (ha : 0xE0 ≤ a.toNat ∧ a.toNat ≤ 0xEF) (hb : IsTail b)
      (hc : IsTail c) (not_overlong : a.toNat = 0xE0 → 0xA0 ≤ b.toNat)
      (not_surrogate : a.toNat = 0xED → b.toNat ≤ 0x9F) : IsSequence [a, b, c]
  | four {a b c d : UInt8} (ha : 0xF0 ≤ a.toNat ∧ a.toNat ≤ 0xF4)
      (hb : IsTail b) (hc : IsTail c) (hd : IsTail d)
      (not_overlong : a.toNat = 0xF0 → 0x90 ≤ b.toNat)
      (not_beyond : a.toNat = 0xF4 → b.toNat ≤ 0x8F) :
      IsSequence [a, b, c, d]

/-- The bytes of a text, one character after the other. -/
inductive IsStrict : List UInt8 → Prop
  | nil : IsStrict []
  | cons {sequence rest : List UInt8} (hsequence : IsSequence sequence)
      (hrest : IsStrict rest) : IsStrict (sequence ++ rest)

-- ====================================================== one character

private theorem toNat_ofNat_of_lt {n : Nat} (h : n < 256) :
    (UInt8.ofNat n).toNat = n :=
  UInt8.toNat_ofNat_of_lt' h

/-- Six bits with the mark of a tail in front of them. -/
private theorem isTail_ofNat (v : Nat) :
    IsTail (UInt8.ofNat (v % 64 + 128)) := by
  unfold IsTail
  rw [toNat_ofNat_of_lt (by omega)]
  omega

/-- The number of a character is below 0x110000 and not that of a surrogate. -/
private theorem char_bounds (c : Char) :
    c.val.toNat < 0xD800
      ∨ 0xDFFF < c.val.toNat ∧ c.val.toNat < 0x110000 :=
  c.valid

/-- Every such number is that of a character. -/
private theorem exists_char (v : Nat)
    (h : v < 0xD800 ∨ 0xDFFF < v ∧ v < 0x110000) :
    ∃ c : Char, c.val.toNat = v := by
  have hsize : v < UInt32.size := by
    show v < 4294967296
    omega
  have hval : (UInt32.ofNat v).toNat = v := UInt32.toNat_ofNat_of_lt' hsize
  refine ⟨⟨UInt32.ofNat v, ?_⟩, hval⟩
  show (UInt32.ofNat v).toNat.isValidChar
  rw [hval]
  exact h

/-- What is written for a character is of the grammar: the shortest
length that has room for its number is taken. -/
theorem isSequence_utf8EncodeChar (c : Char) :
    IsSequence (String.utf8EncodeChar c) := by
  have hbounds := char_bounds c
  unfold String.utf8EncodeChar
  generalize c.val.toNat = v at hbounds
  simp only
  by_cases h1 : v ≤ 0x7F
  · rw [if_pos h1]
    apply IsSequence.one
    rw [toNat_ofNat_of_lt (by omega)]
    exact h1
  · rw [if_neg h1]
    by_cases h2 : v ≤ 0x7FF
    · rw [if_pos h2]
      apply IsSequence.two _ (isTail_ofNat _)
      rw [toNat_ofNat_of_lt (by omega)]
      omega
    · rw [if_neg h2]
      by_cases h3 : v ≤ 0xFFFF
      · have hfirst := toNat_ofNat_of_lt
          (show v / 4096 % 16 + 224 < 256 by omega)
        have hsecond := toNat_ofNat_of_lt
          (show v / 64 % 64 + 128 < 256 by omega)
        rw [if_pos h3]
        apply IsSequence.three _ (isTail_ofNat _) (isTail_ofNat _)
        · rw [hfirst, hsecond]
          omega
        · rw [hfirst, hsecond]
          omega
        · rw [hfirst]
          omega
      · have hfirst := toNat_ofNat_of_lt
          (show v / 262144 % 8 + 240 < 256 by omega)
        have hsecond := toNat_ofNat_of_lt
          (show v / 4096 % 64 + 128 < 256 by omega)
        rw [if_neg h3]
        apply IsSequence.four _ (isTail_ofNat _) (isTail_ofNat _)
          (isTail_ofNat _)
        · rw [hfirst, hsecond]
          omega
        · rw [hfirst, hsecond]
          omega
        · rw [hfirst]
          omega

/-- Every sequence of the grammar is what is written for a character. -/
theorem exists_char_of_isSequence {bytes : List UInt8} (h : IsSequence bytes) :
    ∃ c, String.utf8EncodeChar c = bytes := by
  cases h with
  | @one a ha =>
      obtain ⟨c, hc⟩ := exists_char a.toNat (by omega)
      refine ⟨c, ?_⟩
      unfold String.utf8EncodeChar
      simp only [hc]
      rw [if_pos ha, UInt8.ofNat_toNat]
  | @two a b ha hb =>
      unfold IsTail at hb
      obtain ⟨c, hc⟩ := exists_char
        (a.toNat % 32 * 64 + b.toNat % 64) (by omega)
      refine ⟨c, ?_⟩
      unfold String.utf8EncodeChar
      simp only [hc]
      rw [if_neg (by omega), if_pos (by omega),
        byte_of_toNat a (by omega), byte_of_toNat b (by omega)]
  | @three a b c ha hb hc not_overlong not_surrogate =>
      unfold IsTail at hb hc
      obtain ⟨shown, hshown⟩ := exists_char
        (a.toNat % 16 * 4096 + b.toNat % 64 * 64 + c.toNat % 64) (by omega)
      refine ⟨shown, ?_⟩
      unfold String.utf8EncodeChar
      simp only [hshown]
      rw [if_neg (by omega), if_neg (by omega), if_pos (by omega),
        byte_of_toNat a (by omega), byte_of_toNat b (by omega),
        byte_of_toNat c (by omega)]
  | @four a b c d ha hb hc hd not_overlong not_beyond =>
      unfold IsTail at hb hc hd
      obtain ⟨shown, hshown⟩ := exists_char
        (a.toNat % 8 * 262144 + b.toNat % 64 * 4096 + c.toNat % 64 * 64
          + d.toNat % 64) (by omega)
      refine ⟨shown, ?_⟩
      unfold String.utf8EncodeChar
      simp only [hshown]
      rw [if_neg (by omega), if_neg (by omega), if_neg (by omega),
        byte_of_toNat a (by omega), byte_of_toNat b (by omega),
        byte_of_toNat c (by omega), byte_of_toNat d (by omega)]

/-- The sequences are the bytes of the characters. -/
theorem isSequence_iff {bytes : List UInt8} :
    IsSequence bytes ↔ ∃ c, String.utf8EncodeChar c = bytes := by
  constructor
  · exact exists_char_of_isSequence
  · rintro ⟨c, rfl⟩
    exact isSequence_utf8EncodeChar c

-- ============================================================ the text

theorem isStrict_flatMap (chars : List Char) :
    IsStrict (chars.flatMap String.utf8EncodeChar) := by
  induction chars with
  | nil => exact .nil
  | cons c chars ih =>
      rw [List.flatMap_cons]
      exact .cons (isSequence_utf8EncodeChar c) ih

theorem exists_flatMap_of_isStrict {bytes : List UInt8} (h : IsStrict bytes) :
    ∃ chars : List Char, chars.flatMap String.utf8EncodeChar = bytes := by
  induction h with
  | nil => exact ⟨[], rfl⟩
  | cons hsequence _ ih =>
      obtain ⟨c, rfl⟩ := isSequence_iff.1 hsequence
      obtain ⟨chars, rfl⟩ := ih
      exact ⟨c :: chars, List.flatMap_cons ..⟩

/-- The byte strings of the grammar are those of texts. -/
theorem isStrict_iff {bytes : List UInt8} :
    IsStrict bytes ↔ ∃ text, encode text = bytes := by
  constructor
  · intro h
    obtain ⟨chars, rfl⟩ := exists_flatMap_of_isStrict h
    refine ⟨String.ofList chars, ?_⟩
    rw [encode, String.toList_ofList]
  · rintro ⟨text, rfl⟩
    exact isStrict_flatMap text.toList

/-- The reader refuses the byte strings that are not of the grammar. -/
theorem decode?_eq_none_iff {bytes : List UInt8} :
    decode? bytes = none ↔ ¬ IsStrict bytes := by
  rw [isStrict_iff]
  cases hread : decode? bytes with
  | none =>
      refine ⟨fun _ => ?_, fun _ => rfl⟩
      rintro ⟨text, htext⟩
      rw [decode?_eq_some_iff.2 htext] at hread
      cases hread
  | some text =>
      constructor
      · intro h
        cases h
      · intro h
        exact absurd ⟨text, decode?_eq_some_iff.1 hread⟩ h

end StatelessAuth.Utf8
