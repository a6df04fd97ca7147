/-
What a spelling is, said without the writer: the alphabet in its order, and the
bits of a byte string laid out six to a digit (`LaysOut`).

The bits of the bytes are the bits of the digits, in the same order, and where
the last byte ends inside a digit the rest of that digit is filled with zeros
(`flatMap_bits_toDigits`). Fewer than six zeros are ever needed, so that the
bytes tell the number of digits, and the bits then tell each digit
(`laysOut_iff`).

How many bits are to spare is told by the number of digits as well: whatever is
left when their bits are cut into bytes. So it is the last digit that shows
whether digits are those of a byte string (`ofDigits?_eq_none_iff`).
-/
import StatelessAuth.Powers
import StatelessAuth.Proofs.Base64url.Codec

namespace StatelessAuth.Base64url

-- ======================================================== the alphabet

/-- The characters of the digits from 0 to 63. -/
def alphabet : List Char :=
  "ABCDEFGHIJKLMNOPQRSTUVWXYZabcdefghijklmnopqrstuvwxyz0123456789-_".toList

theorem alphabet_eq : alphabet = (List.range 64).map digitChar := by decide

/-- A character stands for its place in the alphabet. -/
theorem digitValue?_eq_some_iff {c : Char} {digit : Nat} :
    digitValue? c = some digit ↔ alphabet[digit]? = some c := by
  rw [alphabet_eq, List.getElem?_map, Option.map_eq_some_iff]
  constructor
  · intro h
    obtain ⟨hlt, hchar⟩ := digitChar_of_digitValue? h
    exact ⟨digit, List.getElem?_range hlt, hchar⟩
  · rintro ⟨place, hplace, rfl⟩
    obtain ⟨hlt, heq⟩ := List.getElem?_eq_some_iff.1 hplace
    rw [List.getElem_range] at heq
    rw [List.length_range] at hlt
    subst heq
    exact digitValue?_digitChar hlt

theorem digitValue?_eq_none_iff {c : Char} :
    digitValue? c = none ↔ c ∉ alphabet := by
  cases hdigit : digitValue? c with
  | none =>
      refine ⟨fun _ hc => ?_, fun _ => rfl⟩
      obtain ⟨digit, hplace⟩ := List.mem_iff_getElem?.1 hc
      rw [digitValue?_eq_some_iff.2 hplace] at hdigit
      cases hdigit
  | some digit => simp [List.mem_of_getElem? (digitValue?_eq_some_iff.1 hdigit)]

theorem encodeChars_subset (bytes : List UInt8) :
    encodeChars bytes ⊆ alphabet := by
  intro c hc
  obtain ⟨digit, hdigit⟩ := digitValue?_of_mem_encodeChars hc
  exact List.mem_of_getElem? (digitValue?_eq_some_iff.1 hdigit)

-- ============================================================ the bits

/-- The last `width` bits of a number, the greatest first. -/
def bits (width number : Nat) : List Bool :=
  match width with
  | 0 => []
  | width + 1 => bits width (number / 2) ++ [decide (number % 2 = 1)]

/-- The bits that are left over when the bits of so many digits are cut into
bytes. -/
def spareBits (digits : Nat) : Nat := 6 * digits % 8

theorem spareBits_two : spareBits 2 = 4 := rfl

theorem spareBits_three : spareBits 3 = 2 := rfl

private theorem twoTo_succ (power : Nat) :
    twoTo (power + 1) = 2 * twoTo power :=
  Nat.mul_comm (twoTo power) 2

/-- The bits of a number whose last bits are set apart. -/
theorem bits_append (width low high : Nat) {rest : Nat} (h : rest < twoTo low) :
    bits (width + low) (high * twoTo low + rest)
      = bits width high ++ bits low rest := by
  induction low generalizing rest with
  | zero =>
      have hzero : rest = 0 := Nat.lt_one_iff.1 h
      rw [hzero, bits, List.append_nil]
      congr 1
      exact Nat.mul_one high
  | succ low ih =>
      have hpower := twoTo_succ low
      have hprod : high * twoTo (low + 1) = 2 * (high * twoTo low) := by
        rw [hpower, Nat.mul_left_comm]
      have hhalf : (high * twoTo (low + 1) + rest) / 2
          = high * twoTo low + rest / 2 := by omega
      have hlast : (high * twoTo (low + 1) + rest) % 2 = rest % 2 := by omega
      rw [← Nat.add_assoc, bits, hhalf, hlast, ih (by omega), List.append_assoc]
      rfl

/-- The same, read as the cutting of a number. -/
theorem bits_cut (width low number : Nat) :
    bits (width + low) number
      = bits width (number / twoTo low) ++ bits low (number % twoTo low) := by
  have hpos : 0 < twoTo low := Nat.two_pow_pos low
  rw [← bits_append width low _ (Nat.mod_lt number hpos), Nat.div_add_mod']

theorem bits_zero (width : Nat) :
    bits width 0 = List.replicate width false := by
  induction width with
  | zero => rfl
  | succ width ih =>
      rw [bits, Nat.zero_div, ih, List.replicate_succ']
      rfl

/-- The bits of the digits are the bits of the bytes, and zeros behind them. -/
theorem flatMap_bits_toDigits (bytes : List UInt8) :
    (toDigits bytes).flatMap (bits 6)
      = bytes.flatMap (fun byte => bits 8 byte.toNat)
        ++ List.replicate (spareBits (toDigits bytes).length) false := by
  -- of three bytes the first ends two bits into a digit, and the second four
  have hfirst (a : Nat) : bits 8 a = bits 6 (a / 4) ++ bits 2 (a % 4) :=
    bits_cut 6 2 a
  have hsecond (b : Nat) : bits 8 b = bits 4 (b / 16) ++ bits 4 (b % 16) :=
    bits_cut 4 4 b
  have hthird (c : Nat) : bits 8 c = bits 2 (c / 64) ++ bits 6 (c % 64) :=
    bits_cut 2 6 c
  have hjoin (high low : Nat) (h : low < 16) :
      bits 6 (high * 16 + low) = bits 2 high ++ bits 4 low :=
    bits_append 2 4 high h
  have hjoin' (high low : Nat) (h : low < 4) :
      bits 6 (high * 4 + low) = bits 4 high ++ bits 2 low :=
    bits_append 4 2 high h
  induction bytes using toDigits.induct with
  | case1 => rfl
  | case2 a =>
      have hlast := hjoin (a.toNat % 4) 0 (by decide)
      rw [Nat.add_zero, bits_zero] at hlast
      have hspare : spareBits (toDigits [a]).length = 4 := spareBits_two
      rw [hspare]
      simp only [toDigits, List.flatMap_cons, List.flatMap_nil,
        List.append_nil, hlast, hfirst a.toNat, List.append_assoc]
  | case3 a b =>
      have hb := b.toNat_lt
      have hlast := hjoin' (b.toNat % 16) 0 (by decide)
      rw [Nat.add_zero, bits_zero] at hlast
      have hspare : spareBits (toDigits [a, b]).length = 2 := spareBits_three
      rw [hspare]
      simp only [toDigits, List.flatMap_cons, List.flatMap_nil,
        List.append_nil, hlast, hfirst a.toNat,
        hjoin _ _ (show b.toNat / 16 < 16 by omega), hsecond b.toNat,
        List.append_assoc]
  | case4 a b c rest ih =>
      have hb := b.toNat_lt
      have hc := c.toNat_lt
      have hspare : spareBits (toDigits (a :: b :: c :: rest)).length
          = spareBits (toDigits rest).length := by
        simp only [toDigits, List.length_cons, spareBits]
        omega
      rw [hspare]
      simp only [toDigits, List.flatMap_cons, ih, hfirst a.toNat,
        hjoin _ _ (show b.toNat / 16 < 16 by omega), hsecond b.toNat,
        hjoin' _ _ (show c.toNat / 64 < 4 by omega), hthird c.toNat,
        List.append_assoc]

-- ========================================================= the layout

/-- A text lays out the bits of a byte string: each of its characters stands for
six bits, and these are the bits of the bytes with less than a digit of zeros
behind them. -/
def LaysOut (text : String) (bytes : List UInt8) : Prop :=
  ∃ (digits : List Nat) (spare : Nat),
    text.toList.map some = digits.map (alphabet[·]?)
    ∧ spare < 6
    ∧ digits.flatMap (bits 6)
      = bytes.flatMap (fun byte => bits 8 byte.toNat)
        ++ List.replicate spare false

@[simp] theorem length_bits (width number : Nat) :
    (bits width number).length = width := by
  induction width generalizing number with
  | zero => rfl
  | succ width ih => simp [bits, ih]

/-- A number that fits is told by its bits. -/
theorem bits_inj {width a b : Nat} (ha : a < twoTo width) (hb : b < twoTo width)
    (h : bits width a = bits width b) : a = b := by
  induction width generalizing a b with
  | zero => exact (Nat.lt_one_iff.1 ha).trans (Nat.lt_one_iff.1 hb).symm
  | succ width ih =>
      have hpower := twoTo_succ width
      obtain ⟨hhigh, hlow⟩ := List.append_inj' h rfl
      have hhalf : a / 2 = b / 2 := ih (by omega) (by omega) hhigh
      have hlast : a % 2 = 1 ↔ b % 2 = 1 := by simpa using hlow
      omega

/-- Digits are told by their bits. -/
theorem flatMap_bits_inj {p q : List Nat} (hp : ∀ d ∈ p, d < 64)
    (hq : ∀ d ∈ q, d < 64) (hlength : p.length = q.length)
    (h : p.flatMap (bits 6) = q.flatMap (bits 6)) : p = q := by
  induction p generalizing q with
  | nil => exact (List.length_eq_zero_iff.1 hlength.symm).symm
  | cons a p ih =>
      cases q with
      | nil => cases hlength
      | cons b q =>
          rw [List.flatMap_cons, List.flatMap_cons] at h
          obtain ⟨hfirst, hrest⟩ := List.append_inj h (by simp)
          have ha := hp a (List.mem_cons_self ..)
          have hb := hq b (List.mem_cons_self ..)
          rw [bits_inj ha hb hfirst,
            ih (fun d hd => hp d (List.mem_cons_of_mem _ hd))
            (fun d hd => hq d (List.mem_cons_of_mem _ hd))
            (Nat.succ.inj hlength) hrest]

theorem spareBits_lt {digits : Nat} (h : digits % 4 ≠ 1) :
    spareBits digits < 6 := by
  unfold spareBits
  omega

/-- A text lays out the bits of a byte string exactly if it is its spelling. -/
theorem laysOut_iff {text : String} {bytes : List UInt8} :
    LaysOut text bytes ↔ text = encode bytes := by
  have hwritten : (encode bytes).toList.map some
      = (toDigits bytes).map (alphabet[·]?) := by
    rw [toList_encode, encodeChars, List.map_map]
    apply List.map_congr_left
    intro digit hdigit
    exact (digitValue?_eq_some_iff.1
      (digitValue?_digitChar (toDigits_lt digit hdigit))).symm
  have hlaid := flatMap_bits_toDigits bytes
  constructor
  · rintro ⟨digits, spare, hplaces, hspare, hbits⟩
    have hlt : ∀ d ∈ digits, d < 64 := by
      intro d hd
      have hplace := List.mem_map_of_mem (f := (alphabet[·]?)) hd
      rw [← hplaces] at hplace
      obtain ⟨c, -, hc⟩ := List.mem_map.1 hplace
      exact (digitChar_of_digitValue? (digitValue?_eq_some_iff.2 hc.symm)).1
    -- less than a digit is to spare in both layouts
    have hcounts : digits.length = (toDigits bytes).length
        ∧ spare = spareBits (toDigits bytes).length := by
      have hbound := spareBits_lt (length_toDigits bytes)
      have hmine := congrArg List.length hbits
      have hwriter := congrArg List.length hlaid
      simp only [List.length_flatMap, length_bits, List.length_append,
        List.length_replicate, List.map_const',
        List.sum_replicate_nat] at hmine hwriter
      omega
    rw [hcounts.2] at hbits
    have hsame := flatMap_bits_inj hlt toDigits_lt hcounts.1
      (hbits.trans hlaid.symm)
    rw [hsame, ← hwritten] at hplaces
    apply String.toList_inj.1
    exact List.map_inj_right (fun _ _ => Option.some.inj) |>.1 hplaces
  · rintro rfl
    exact ⟨toDigits bytes, _, hwritten,
      spareBits_lt (length_toDigits bytes), hlaid⟩

/-- Digits that do not leave one over are refused when a spare bit of the last
one is set. -/
theorem ofDigits?_eq_none_iff {digits : List Nat} (h : digits.length % 4 ≠ 1) :
    ofDigits? digits = none
      ↔ ∃ digit, digits.getLast? = some digit
          ∧ digit % twoTo (spareBits digits.length) ≠ 0 := by
  induction digits using ofDigits?.induct with
  | case1 => simp [ofDigits?]
  | case2 p => exact absurd rfl h
  | case3 p q hq =>
      have hspare : spareBits [p, q].length = 4 := spareBits_two
      have hzero : q % twoTo 4 = 0 := hq
      rw [ofDigits?, if_pos hq, hspare]
      simp [hzero]
  | case4 p q hq =>
      have hspare : spareBits [p, q].length = 4 := spareBits_two
      rw [ofDigits?, if_neg hq, hspare]
      exact ⟨fun _ => ⟨q, rfl, hq⟩, fun _ => rfl⟩
  | case5 p q r hr =>
      have hspare : spareBits [p, q, r].length = 2 := spareBits_three
      have hzero : r % twoTo 2 = 0 := hr
      rw [ofDigits?, if_pos hr, hspare]
      simp [hzero]
  | case6 p q r hr =>
      have hspare : spareBits [p, q, r].length = 2 := spareBits_three
      rw [ofDigits?, if_neg hr, hspare]
      exact ⟨fun _ => ⟨r, rfl, hr⟩, fun _ => rfl⟩
  | case7 p q r s rest ih =>
      have hlength : (p :: q :: r :: s :: rest).length = rest.length + 4 := rfl
      have hspare : spareBits (p :: q :: r :: s :: rest).length
          = spareBits rest.length := by
        unfold spareBits
        omega
      rw [ofDigits?, Option.map_eq_none_iff, ih (by omega), hspare]
      cases rest with
      | nil =>
          -- a whole group has nothing to spare
          have hwhole : ∀ digit, digit % twoTo (spareBits 0) = 0 := Nat.mod_one
          simp [hwhole]
      | cons t rest =>
          rw [List.getLast?_cons_cons, List.getLast?_cons_cons,
            List.getLast?_cons_cons, List.getLast?_cons_cons]

end StatelessAuth.Base64url
