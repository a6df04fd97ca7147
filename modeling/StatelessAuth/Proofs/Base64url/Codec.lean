/-
The base64url codec is exact: the reader accepts the spellings that the
writer produces and no other text (`decode_eq_ok_iff`), and the same holds
of texts under their UTF-8 bytes (`decodeText_eq_ok_iff`).

# How the two directions meet

Both directions are proved on digits, by the groups of `toDigits` and of
`ofDigits?`: a whole group on top of the rest, and at the end a group of
one byte, of two, or of none. What a group of digits says of its bytes is
arithmetic below 256. The step to characters is one digit at a time, since
`digitChar` and `digitValue?` are inverse to each other below 64.

The point is not in the alphabet (`dot_not_mem_encodeChars`), which is what
lets a token be cut at its points.
-/
import StatelessAuth.Base64url

namespace StatelessAuth.Base64url

-- ======================================================== the alphabet

/-- The character of a digit stands for the digit. -/
theorem digitValue?_digitChar {digit : Nat} (h : digit < 64) :
    digitValue? (digitChar digit) = some digit := by
  have all : ∀ digit : Fin 64,
      digitValue? (digitChar digit) = some digit.val := by
    decide
  exact all ⟨digit, h⟩

/-- A character stands for a digit below 64, and is the character of it. -/
theorem digitChar_of_digitValue? {c : Char} {digit : Nat}
    (h : digitValue? c = some digit) : digit < 64 ∧ digitChar digit = c := by
  have bounds {a b : Char} (h : a ≤ c ∧ c ≤ b) :
      a.toNat ≤ c.toNat ∧ c.toNat ≤ b.toNat :=
    ⟨Char.le_def.1 h.1, Char.le_def.1 h.2⟩
  -- one range of the alphabet after the other, and the two signs last
  unfold digitValue? at h
  split at h
  case isTrue hc =>
    obtain ⟨low, high⟩ : 65 ≤ c.toNat ∧ c.toNat ≤ 90 := bounds hc
    cases h
    refine ⟨by omega, ?_⟩
    rw [digitChar, if_pos (by omega), Nat.add_sub_cancel' low, Char.ofNat_toNat]
  case isFalse =>
    split at h
    case isTrue hc =>
      obtain ⟨low, high⟩ : 97 ≤ c.toNat ∧ c.toNat ≤ 122 := bounds hc
      cases h
      refine ⟨by omega, ?_⟩
      rw [digitChar, if_neg (by omega), if_pos (by omega),
        Nat.add_sub_cancel' (by omega), Char.ofNat_toNat]
    case isFalse =>
      split at h
      case isTrue hc =>
        obtain ⟨low, high⟩ : 48 ≤ c.toNat ∧ c.toNat ≤ 57 := bounds hc
        cases h
        refine ⟨by omega, ?_⟩
        rw [digitChar, if_neg (by omega), if_neg (by omega), if_pos (by omega),
          Nat.add_sub_cancel, Char.ofNat_toNat]
      case isFalse =>
        split at h
        case isTrue hc => cases h; exact ⟨by decide, hc.symm⟩
        case isFalse =>
          split at h
          case isTrue hc => cases h; exact ⟨by decide, hc.symm⟩
          case isFalse => cases h

theorem mapM_digitValue?_map {digits : List Nat} (h : ∀ d ∈ digits, d < 64) :
    (digits.map digitChar).mapM digitValue? = some digits := by
  induction digits with
  | nil => rfl
  | cons digit rest ih =>
      have hd := digitValue?_digitChar (h digit (List.mem_cons_self ..))
      have hrest := ih fun d hd => h d (List.mem_cons_of_mem _ hd)
      rw [List.map_cons, List.mapM_cons, hd, hrest]
      rfl

/-- The digits that characters stand for are below 64, and the characters
are theirs. -/
theorem map_digitChar_of_mapM {text : List Char} {digits : List Nat}
    (h : text.mapM digitValue? = some digits) :
    (∀ d ∈ digits, d < 64) ∧ digits.map digitChar = text := by
  induction text generalizing digits with
  | nil =>
      cases h
      exact ⟨fun d hd => absurd hd (List.not_mem_nil), rfl⟩
  | cons c rest ih =>
      rw [List.mapM_cons] at h
      obtain ⟨digit, hdigit, h⟩ := Option.bind_eq_some_iff.1 h
      obtain ⟨more, hmore, h⟩ := Option.bind_eq_some_iff.1 h
      cases h
      obtain ⟨hlt, hchar⟩ := digitChar_of_digitValue? hdigit
      obtain ⟨hall, hmap⟩ := ih hmore
      refine ⟨fun d hd => ?_, ?_⟩
      · rcases List.mem_cons.1 hd with rfl | hd
        · exact hlt
        · exact hall d hd
      · rw [List.map_cons, hchar, hmap]

-- ============================================================== groups

/-- Whatever the bytes are, the digits are digits. -/
theorem toDigits_lt {bytes : List UInt8} : ∀ d ∈ toDigits bytes, d < 64 := by
  induction bytes using toDigits.induct with
  | case1 => intro d hd; cases hd
  | case2 a =>
      have ha := a.toNat_lt
      intro d hd
      simp only [toDigits, List.mem_cons, List.not_mem_nil, or_false] at hd
      omega
  | case3 a b =>
      have ha := a.toNat_lt
      have hb := b.toNat_lt
      intro d hd
      simp only [toDigits, List.mem_cons, List.not_mem_nil, or_false] at hd
      omega
  | case4 a b c rest ih =>
      have ha := a.toNat_lt
      have hb := b.toNat_lt
      have hc := c.toNat_lt
      intro d hd
      simp only [toDigits, List.mem_cons] at hd
      rcases hd with hd | hd | hd | hd | hd
      · omega
      · omega
      · omega
      · omega
      · exact ih d hd

/-- No byte string leaves one digit over. -/
theorem length_toDigits (bytes : List UInt8) :
    (toDigits bytes).length % 4 ≠ 1 := by
  induction bytes using toDigits.induct with
  | case1 => decide
  | case2 a => simp [toDigits]
  | case3 a b => simp [toDigits]
  | case4 a b c rest ih =>
      simp only [toDigits, List.length_cons]
      omega

/-- The digits of a byte string are read as the byte string. -/
theorem ofDigits?_toDigits (bytes : List UInt8) :
    ofDigits? (toDigits bytes) = some bytes := by
  induction bytes using toDigits.induct with
  | case1 => rfl
  | case2 a =>
      -- the six bits of the first digit and the two that the second
      -- begins with
      have ha : a.toNat / 4 * 4 + a.toNat % 4 * 16 / 16 = a.toNat := by omega
      rw [toDigits, ofDigits?, if_pos (by omega), byte_of_toNat a ha]
  | case3 a b =>
      have hb := b.toNat_lt
      have ha : a.toNat / 4 * 4 + (a.toNat % 4 * 16 + b.toNat / 16) / 16
          = a.toNat := by
        omega
      have hb : (a.toNat % 4 * 16 + b.toNat / 16) % 16 * 16
          + b.toNat % 16 * 4 / 4 = b.toNat := by omega
      rw [toDigits, ofDigits?, if_pos (by omega), byte_of_toNat a ha,
        byte_of_toNat b hb]
  | case4 a b c rest ih =>
      have hb := b.toNat_lt
      have hc := c.toNat_lt
      have ha : a.toNat / 4 * 4 + (a.toNat % 4 * 16 + b.toNat / 16) / 16
          = a.toNat := by
        omega
      have hb : (a.toNat % 4 * 16 + b.toNat / 16) % 16 * 16
          + (b.toNat % 16 * 4 + c.toNat / 64) / 4 = b.toNat := by omega
      have hc : (b.toNat % 16 * 4 + c.toNat / 64) % 4 * 64 + c.toNat % 64
          = c.toNat := by
        omega
      rw [toDigits, ofDigits?, ih, Option.map_some, byte_of_toNat a ha,
        byte_of_toNat b hb, byte_of_toNat c hc]

/-- Digits that are read as a byte string are its digits: the spare bits
of the last one are clear, or they would not have been read. -/
theorem toDigits_of_ofDigits? {digits : List Nat} {bytes : List UInt8}
    (hlt : ∀ d ∈ digits, d < 64) (h : ofDigits? digits = some bytes) :
    toDigits bytes = digits := by
  induction digits using ofDigits?.induct generalizing bytes with
  | case1 => cases h; rfl
  | case2 p => cases h
  | case3 p q hq =>
      have hp := hlt p (by simp)
      have hq' := hlt q (by simp)
      rw [ofDigits?, if_pos hq] at h
      cases h
      have ha := UInt8.toNat_ofNat_of_lt' (show p * 4 + q / 16 < 256 by omega)
      rw [toDigits, ha]
      congr
      · omega
      · omega
  | case4 p q hq =>
      rw [ofDigits?, if_neg hq] at h
      cases h
  | case5 p q r hr =>
      have hp := hlt p (by simp)
      have hq := hlt q (by simp)
      have hr' := hlt r (by simp)
      rw [ofDigits?, if_pos hr] at h
      cases h
      have ha := UInt8.toNat_ofNat_of_lt' (show p * 4 + q / 16 < 256 by omega)
      have hb := UInt8.toNat_ofNat_of_lt'
        (show q % 16 * 16 + r / 4 < 256 by omega)
      rw [toDigits, ha, hb]
      congr
      · omega
      · omega
      · omega
  | case6 p q r hr =>
      rw [ofDigits?, if_neg hr] at h
      cases h
  | case7 p q r s rest ih =>
      have hp := hlt p (by simp)
      have hq := hlt q (by simp)
      have hr := hlt r (by simp)
      have hs := hlt s (by simp)
      rw [ofDigits?] at h
      obtain ⟨more, hmore, rfl⟩ := Option.map_eq_some_iff.1 h
      have hrest := ih (fun d hd => hlt d (by simp [hd])) hmore
      have ha := UInt8.toNat_ofNat_of_lt' (show p * 4 + q / 16 < 256 by omega)
      have hb := UInt8.toNat_ofNat_of_lt'
        (show q % 16 * 16 + r / 4 < 256 by omega)
      have hc := UInt8.toNat_ofNat_of_lt' (show r % 4 * 64 + s < 256 by omega)
      rw [toDigits, ha, hb, hc, hrest]
      congr
      · omega
      · omega
      · omega
      · omega

-- ============================================================ the codec

/-- What was written is read back. -/
theorem decodeChars_encodeChars (bytes : List UInt8) :
    decodeChars (encodeChars bytes) = .ok bytes := by
  have hlength : (encodeChars bytes).length % 4 ≠ 1 := by
    rw [encodeChars, List.length_map]
    exact length_toDigits bytes
  have hdigits : (encodeChars bytes).mapM digitValue? = some (toDigits bytes) :=
    mapM_digitValue?_map toDigits_lt
  rw [decodeChars, hdigits]
  simp only
  rw [if_neg hlength, ofDigits?_toDigits]

/-- What was read is what would be written. -/
theorem encodeChars_of_decodeChars {text : List Char} {bytes : List UInt8}
    (h : decodeChars text = .ok bytes) : encodeChars bytes = text := by
  unfold decodeChars at h
  split at h
  case h_1 => cases h
  case h_2 digits hdigits =>
    obtain ⟨hlt, hmap⟩ := map_digitChar_of_mapM hdigits
    split at h
    case isTrue => cases h
    case isFalse =>
      split at h
      case h_1 => cases h
      case h_2 read hread =>
        cases h
        rw [encodeChars, toDigits_of_ofDigits? hlt hread, hmap]

/-- The texts that are read are the spellings of byte strings. -/
theorem decode_eq_ok_iff {text : String} {bytes : List UInt8} :
    decode text = .ok bytes ↔ text = encode bytes := by
  constructor
  · intro h
    rw [encode, encodeChars_of_decodeChars h, String.ofList_toList]
  · intro h
    rw [h, decode, encode, String.toList_ofList, decodeChars_encodeChars]

/-- The texts that are read as texts are the spellings of texts. -/
theorem decodeText_eq_ok_iff {text content : String} :
    decodeText text = .ok content ↔ text = encodeText content := by
  unfold decodeText
  constructor
  · intro h
    split at h
    case h_1 => cases h
    case h_2 bytes hbytes =>
      split at h
      case h_1 => cases h
      case h_2 read hread =>
        cases h
        rw [decode_eq_ok_iff.1 hbytes, encodeText,
          Utf8.decode?_eq_some_iff.1 hread]
  · intro h
    rw [decode_eq_ok_iff.2 h]
    simp only
    rw [Utf8.decode?_encode]

/-- A text is read back from its spelling. -/
theorem decodeText_encodeText (content : String) :
    decodeText (encodeText content) = .ok content :=
  decodeText_eq_ok_iff.2 rfl

/-- A spelling is that of one byte string only, as it is read back. -/
theorem encodeChars_injective {x y : List UInt8}
    (h : encodeChars x = encodeChars y) : x = y := by
  have := decodeChars_encodeChars x
  rw [h, decodeChars_encodeChars] at this
  injection this with this
  exact this.symm

theorem encode_injective {x y : List UInt8} (h : encode x = encode y) : x = y :=
  encodeChars_injective (String.ofList_injective h)

theorem encodeText_injective {a b : String}
    (h : encodeText a = encodeText b) : a = b :=
  Utf8.encode_injective (encode_injective h)

-- =========================================================== spellings

/-- What holds of the sixty-four characters holds of all that is written. -/
theorem forall_mem_encodeChars {p : Char → Prop} {bytes : List UInt8}
    (h : ∀ digit : Fin 64, p (digitChar digit.val)) :
    ∀ c ∈ encodeChars bytes, p c := by
  intro c hc
  obtain ⟨digit, hdigit, rfl⟩ := List.mem_map.1 hc
  exact h ⟨digit, toDigits_lt digit hdigit⟩

theorem digitValue?_of_mem_encodeChars {bytes : List UInt8} {c : Char}
    (h : c ∈ encodeChars bytes) : ∃ digit, digitValue? c = some digit :=
  forall_mem_encodeChars (p := fun c => ∃ digit, digitValue? c = some digit)
    (fun digit => ⟨digit.val, digitValue?_digitChar digit.isLt⟩) c h

theorem not_mem_encodeChars {c : Char} (h : digitValue? c = none)
    (bytes : List UInt8) : c ∉ encodeChars bytes := by
  intro hc
  obtain ⟨digit, hdigit⟩ := digitValue?_of_mem_encodeChars hc
  rw [h] at hdigit
  cases hdigit

/-- A point never stands in a spelling, so it can separate two of them. -/
theorem dot_not_mem_encodeChars (bytes : List UInt8) :
    '.' ∉ encodeChars bytes :=
  not_mem_encodeChars (by decide) bytes

theorem encodeChars_eq_nil_iff {bytes : List UInt8} :
    encodeChars bytes = [] ↔ bytes = [] := by
  constructor
  · intro h
    exact encodeChars_injective (h.trans rfl)
  · intro h
    subst h
    rfl

@[simp] theorem toList_encode (bytes : List UInt8) :
    (encode bytes).toList = encodeChars bytes := by
  rw [encode, String.toList_ofList]

@[simp] theorem toList_encodeText (text : String) :
    (encodeText text).toList = encodeChars (Utf8.encode text) :=
  toList_encode _

end StatelessAuth.Base64url
