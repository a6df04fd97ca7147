/-
The codec is exact (`codec_exact`): what is written lies in the alphabet and is
read back, what is read is what would be written, and a text that is not read is
refused for the first thing that is wrong with it.

# What can be wrong

Each error is said of a text without the others (`Flaw`), so that a text may
have several: a character that is no digit, a length that leaves one digit over,
a spare bit that is set, and, where a text is asked for, bytes that are no text.
The reader names the one that comes first in this order (`FirstFlaw`). A text
without a flaw is a spelling, so that nothing is refused beyond the four.
-/
import Mathlib.Order.WellFounded
import StatelessAuth.Proofs.Base64url.Layout
import StatelessAuth.Proofs.Text.Utf8.Grammar

namespace StatelessAuth.Base64url

-- ========================================================== the flaws

/-- Something that is wrong with a text, and the error that it is. -/
inductive Flaw (text : String) : DecodeError → Prop
  | alphabet {c : Char} (hc : c ∈ text.toList) (h : c ∉ Base64url.alphabet) :
      Flaw text .alphabet
  | length (h : text.length % 4 = 1) : Flaw text (.length text.length)
  /-- The last digit has a bit that belongs to no byte. -/
  | trailingBits {c : Char} {digit : Nat}
      (hlast : text.toList.getLast? = some c)
      (hdigit : Base64url.alphabet[digit]? = some c)
      (h : digit % twoTo (spareBits text.length) ≠ 0) :
      Flaw text .trailingBits
  /-- The text is well spelt, but what it spells is no text. -/
  | notUtf8 {bytes : List UInt8} (hspells : text = encode bytes)
      (h : ¬ Utf8.IsStrict bytes) : Flaw text .notUtf8

/-- The place of an error in the order in which they are looked for. -/
def DecodeError.place : DecodeError → Nat
  | alphabet => 0
  | length _ => 1
  | trailingBits => 2
  | notUtf8 => 3

/-- Of the things that are wrong with a text, the first one is this error. -/
def FirstFlaw (text : String) (e : DecodeError) : Prop :=
  Flaw text e ∧ ∀ other, Flaw text other → e.place ≤ other.place

variable {text : String} {e other : DecodeError}

/-- If anything is wrong with a text, something is wrong first. -/
theorem Flaw.exists_first (h : Flaw text other) :
    ∃ e, FirstFlaw text e ∧ e.place ≤ other.place := by
  -- the flaws are ordered by their places, so one of them stands first
  obtain ⟨e, he, hmin⟩ := WellFounded.has_min (measure DecodeError.place).wf
    {e | Flaw text e} ⟨other, h⟩
  have hfirst : ∀ other, Flaw text other → e.place ≤ other.place :=
    fun other hother => Nat.le_of_not_lt (hmin other hother)
  exact ⟨e, ⟨he, hfirst⟩, hfirst other h⟩

-- ====================================================== the digits read

/-- Characters are digits unless one of them is not in the alphabet. -/
theorem mapM_digitValue?_eq_none_iff {chars : List Char} :
    chars.mapM digitValue? = none ↔ ∃ c ∈ chars, c ∉ Base64url.alphabet := by
  induction chars with
  | nil => simp
  | cons c chars ih =>
      cases hdigit : digitValue? c with
      | none =>
          have hout := digitValue?_eq_none_iff.1 hdigit
          simp [List.mapM_cons, hdigit, hout]
      | some digit =>
          have hin : c ∈ Base64url.alphabet :=
            List.mem_of_getElem? (digitValue?_eq_some_iff.1 hdigit)
          have hmore : (c :: chars).mapM digitValue? = none
              ↔ chars.mapM digitValue? = none := by
            rw [List.mapM_cons, hdigit]
            cases chars.mapM digitValue? with
            | none => simp
            | some digits => simp
          rw [hmore, ih]
          simp [hin]

/-- The last digit is what the last character stands for. -/
theorem getLast?_eq_some_iff_of_mapM {chars : List Char} {digits : List Nat}
    {digit : Nat} (h : chars.mapM digitValue? = some digits) :
    digits.getLast? = some digit
      ↔ ∃ c, chars.getLast? = some c ∧ Base64url.alphabet[digit]? = some c := by
  obtain ⟨hlt, rfl⟩ := map_digitChar_of_mapM h
  rw [List.getLast?_map]
  constructor
  · intro hlast
    have hdigit := digitValue?_digitChar
      (hlt digit (List.mem_of_getLast? hlast))
    refine ⟨digitChar digit, ?_, digitValue?_eq_some_iff.1 hdigit⟩
    rw [hlast, Option.map_some]
  · rintro ⟨c, hlast, hplace⟩
    obtain ⟨last, hdigits, rfl⟩ := Option.map_eq_some_iff.1 hlast
    have hdigit := digitValue?_digitChar
      (hlt last (List.mem_of_getLast? hdigits))
    rw [digitValue?_eq_some_iff.2 hplace] at hdigit
    rw [hdigits, Option.some.inj hdigit]

theorem length_of_mapM {chars : List Char} {digits : List Nat}
    (h : chars.mapM digitValue? = some digits) :
    digits.length = chars.length := by
  obtain ⟨-, rfl⟩ := map_digitChar_of_mapM h
  exact (List.length_map _).symm

/-- The flaw of the last digit, seen in the digits. -/
theorem flaw_trailingBits_iff {digits : List Nat}
    (hdigits : text.toList.mapM digitValue? = some digits) :
    Flaw text .trailingBits
      ↔ ∃ digit, digits.getLast? = some digit
          ∧ digit % twoTo (spareBits digits.length) ≠ 0 := by
  rw [length_of_mapM hdigits, String.length_toList]
  constructor
  · intro h
    cases h with
    | trailingBits hlast hdigit hspare =>
        exact ⟨_, (getLast?_eq_some_iff_of_mapM hdigits).2
          ⟨_, hlast, hdigit⟩, hspare⟩
  · rintro ⟨digit, hlast, hspare⟩
    obtain ⟨c, hlast, hdigit⟩ := (getLast?_eq_some_iff_of_mapM hdigits).1 hlast
    exact .trailingBits hlast hdigit hspare

-- ===================================================== the byte strings

/-- The reader of byte strings stops at the first flaw, if it is one
that shows without the bytes. -/
theorem decode_of_firstFlaw (h : FirstFlaw text e) (hne : e ≠ .notUtf8) :
    decode text = .error e := by
  obtain ⟨hflaw, hfirst⟩ := h
  unfold decode decodeChars
  cases hdigits : text.toList.mapM digitValue? with
  | none =>
      obtain ⟨c, hc, hout⟩ := mapM_digitValue?_eq_none_iff.1 hdigits
      -- a foreign character is in the first place, so no other flaw
      -- comes first
      have hplace := hfirst _ (.alphabet hc hout)
      cases hflaw with
      | alphabet => rfl
      | _ => cases hplace
  | some digits =>
      simp only
      rw [String.length_toList]
      cases hflaw with
      | alphabet hc hout =>
          rw [mapM_digitValue?_eq_none_iff.2 ⟨_, hc, hout⟩] at hdigits
          cases hdigits
      | length hone => rw [if_pos hone]
      | trailingBits hlast hdigit hspare =>
          have hone : text.length % 4 ≠ 1 := by
            intro hone
            exact absurd (hfirst _ (.length hone)) (Nat.not_succ_le_self 1)
          -- the length is not wrong, so it is the last digit that is
          have hnone : ofDigits? digits = none := by
            apply (ofDigits?_eq_none_iff ?_).2
            · exact (flaw_trailingBits_iff hdigits).1
                (.trailingBits hlast hdigit hspare)
            · rw [length_of_mapM hdigits, String.length_toList]
              exact hone
          rw [if_neg hone, hnone]
      | notUtf8 => exact absurd rfl hne

/-- A text that is not read as a byte string has a flaw that can be seen without
the bytes. -/
theorem flaw_of_decode (h : decode text = .error e) :
    Flaw text e ∧ e ≠ .notUtf8 := by
  unfold decode decodeChars at h
  cases hdigits : text.toList.mapM digitValue? with
  | none =>
      rw [hdigits] at h
      cases h
      obtain ⟨c, hc, hout⟩ := mapM_digitValue?_eq_none_iff.1 hdigits
      exact ⟨.alphabet hc hout, nofun⟩
  | some digits =>
      rw [hdigits] at h
      simp only [String.length_toList] at h
      by_cases hone : text.length % 4 = 1
      · rw [if_pos hone] at h
        cases h
        exact ⟨.length hone, nofun⟩
      · rw [if_neg hone] at h
        cases hread : ofDigits? digits with
        | none =>
            rw [hread] at h
            cases h
            refine ⟨(flaw_trailingBits_iff hdigits).2 ?_, nofun⟩
            apply (ofDigits?_eq_none_iff ?_).1 hread
            rw [length_of_mapM hdigits, String.length_toList]
            exact hone
        | some bytes =>
            rw [hread] at h
            cases h

/-- A text is refused as a byte string for the first thing that is wrong with
it. -/
theorem decode_eq_error_iff :
    decode text = .error e ↔ FirstFlaw text e ∧ e ≠ .notUtf8 := by
  constructor
  · intro h
    obtain ⟨hflaw, hne⟩ := flaw_of_decode h
    obtain ⟨first, hfirst, hle⟩ := hflaw.exists_first
    -- bytes that are no text come last, behind the flaw that was seen
    have hfirst_ne : first ≠ .notUtf8 := by
      rintro rfl
      cases e with
      | notUtf8 => exact hne rfl
      | _ => simp [DecodeError.place] at hle
    rw [decode_of_firstFlaw hfirst hfirst_ne] at h
    cases h
    exact ⟨hfirst, hne⟩
  · rintro ⟨hfirst, hne⟩
    exact decode_of_firstFlaw hfirst hne

-- ============================================================ the texts

/-- The reader of texts stops at the first flaw. -/
theorem decodeText_of_firstFlaw (h : FirstFlaw text e) :
    decodeText text = .error e := by
  unfold decodeText
  by_cases hne : e = .notUtf8
  · subst hne
    obtain ⟨hflaw, -⟩ := h
    cases hflaw with
    | notUtf8 hspells hstrict =>
        rw [decode_eq_ok_iff.2 hspells]
        simp only
        rw [Utf8.decode?_eq_none_iff.2 hstrict]
  · rw [decode_of_firstFlaw h hne]

/-- What a text is refused for is wrong with it. -/
theorem flaw_of_decodeText (h : decodeText text = .error e) : Flaw text e := by
  unfold decodeText at h
  cases hread : decode text with
  | error cause =>
      rw [hread] at h
      cases h
      exact (flaw_of_decode hread).1
  | ok bytes =>
      rw [hread] at h
      simp only at h
      cases htext : Utf8.decode? bytes with
      | none =>
          rw [htext] at h
          cases h
          exact .notUtf8 (decode_eq_ok_iff.1 hread)
            (Utf8.decode?_eq_none_iff.1 htext)
      | some content =>
          rw [htext] at h
          cases h

/-- A text is refused as a text for the first thing that is wrong with it. -/
theorem decodeText_eq_error_iff :
    decodeText text = .error e ↔ FirstFlaw text e := by
  refine ⟨?_, decodeText_of_firstFlaw⟩
  intro h
  obtain ⟨first, hfirst, -⟩ := (flaw_of_decodeText h).exists_first
  rw [decodeText_of_firstFlaw hfirst] at h
  cases h
  exact hfirst

-- ============================================================ the codec

/-- Whatever is written is read back and lies in the alphabet. A text is read as
a byte string exactly if it is what is written for it, and that is the one text
that lays out its bits; it is read as a text exactly if it is what is written
for that. Any other text is refused for the first of its flaws. -/
theorem codec_exact :
    (∀ bytes, decode (encode bytes) = .ok bytes
      ∧ (encode bytes).toList ⊆ alphabet)
    ∧ (∀ text bytes, (decode text = .ok bytes ↔ text = encode bytes)
        ∧ (decode text = .ok bytes ↔ LaysOut text bytes))
    ∧ (∀ text content, decodeText text = .ok content
      ↔ text = encodeText content)
    ∧ (∀ text e, decode text = .error e ↔ FirstFlaw text e ∧ e ≠ .notUtf8)
    ∧ ∀ text e, decodeText text = .error e ↔ FirstFlaw text e := by
  refine ⟨?written, ?bytes, ?texts, ?refused, ?refusedText⟩
  case written =>
    intro bytes
    rw [toList_encode]
    exact ⟨decode_eq_ok_iff.2 rfl, encodeChars_subset bytes⟩
  case bytes =>
    intro text bytes
    exact ⟨decode_eq_ok_iff, decode_eq_ok_iff.trans laysOut_iff.symm⟩
  case texts => exact fun _ _ => decodeText_eq_ok_iff
  case refused => exact fun _ _ => decode_eq_error_iff
  case refusedText => exact fun _ _ => decodeText_eq_error_iff

/-- A text of five characters, the last of them padding: the alphabet comes
before the length. -/
example : decode "YWJj=" = .error .alphabet := by rfl

end StatelessAuth.Base64url
