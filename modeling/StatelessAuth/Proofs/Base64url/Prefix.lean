/-
A spelling that begins another spelling spells a beginning.

Where the shorter byte string ends inside a group, its last digit holds
its last bits and zeros, and the digit of the longer one holds the same
bits and the first bits of the next byte. Equal digits then make those
bits zero, but they leave the bits of the shorter string as they are, so
the bytes still agree as far as the shorter string goes.

# The other direction

A beginning is spelt as a beginning exactly if the zeros in its last digit
are what the next byte begins with (`encode_isPrefix_iff`). Behind whole
groups no bits are to spare, and so nothing is asked of the next byte; only
there a beginning is spelt as one whatever follows
(`encode_reflects_prefixes`).
-/
import StatelessAuth.Proofs.Base64url.Codec
import StatelessAuth.Proofs.Base64url.Layout

namespace StatelessAuth.Base64url

private theorem byte_eq {a b : UInt8} (high : a.toNat / 4 = b.toNat / 4)
    (low : a.toNat % 4 = b.toNat % 4) : a = b := by
  apply UInt8.toNat_inj.1
  omega

/-- Digits that begin the digits of a byte string are those of a beginning
of it. -/
theorem isPrefix_of_toDigits {x y : List UInt8}
    (h : toDigits x <+: toDigits y) : x <+: y := by
  induction x using toDigits.induct generalizing y with
  | case1 => exact List.nil_prefix
  | case2 a =>
      rcases y with _ | ⟨b, _ | ⟨c, _ | ⟨d, rest⟩⟩⟩
      · simp [toDigits] at h
      · simp only [toDigits, List.cons_prefix_cons] at h
        have hfirst : a = b := byte_eq h.1 (by omega)
        subst hfirst
        exact List.prefix_refl _
      · have hc := c.toNat_lt
        simp only [toDigits, List.cons_prefix_cons] at h
        rw [byte_eq h.1 (by omega)]
        exact ⟨[c], rfl⟩
      · have hc := c.toNat_lt
        simp only [toDigits, List.cons_prefix_cons] at h
        rw [byte_eq h.1 (by omega)]
        exact ⟨c :: d :: rest, rfl⟩
  | case3 a b =>
      rcases y with _ | ⟨c, _ | ⟨d, _ | ⟨e, rest⟩⟩⟩
      · simp [toDigits] at h
      · simp [toDigits, List.cons_prefix_cons] at h
      · have hb := b.toNat_lt
        have hd := d.toNat_lt
        simp only [toDigits, List.cons_prefix_cons] at h
        have hfirst : a = c := byte_eq h.1 (by omega)
        have hsecond : b = d := UInt8.toNat_inj.1 (by omega)
        subst hfirst hsecond
        exact List.prefix_refl _
      · have hb := b.toNat_lt
        have hd := d.toNat_lt
        have he := e.toNat_lt
        simp only [toDigits, List.cons_prefix_cons] at h
        have hfirst : a = c := byte_eq h.1 (by omega)
        have hsecond : b = d := UInt8.toNat_inj.1 (by omega)
        rw [hfirst, hsecond]
        exact ⟨e :: rest, rfl⟩
  | case4 a b c more ih =>
      rcases y with _ | ⟨d, _ | ⟨e, _ | ⟨f, rest⟩⟩⟩
      · simp [toDigits] at h
      · simp [toDigits, List.cons_prefix_cons] at h
      · simp [toDigits, List.cons_prefix_cons] at h
      · have hb := b.toNat_lt
        have hc := c.toNat_lt
        have he := e.toNat_lt
        have hf := f.toNat_lt
        simp only [toDigits, List.cons_prefix_cons] at h
        obtain ⟨h1, h2, h3, h4, hrest⟩ := h
        have hfirst : a = d := byte_eq h1 (by omega)
        have hsecond : b = e := UInt8.toNat_inj.1 (by omega)
        have hthird : c = f := UInt8.toNat_inj.1 (by omega)
        rw [hfirst, hsecond, hthird]
        simp only [List.cons_prefix_cons, true_and]
        exact ih hrest

/-- Digits are told by their characters, so a beginning of the
characters is one of the digits. -/
theorem isPrefix_of_map_digitChar {p q : List Nat} (hp : ∀ d ∈ p, d < 64)
    (hq : ∀ d ∈ q, d < 64) (h : p.map digitChar <+: q.map digitChar) :
    p <+: q := by
  -- both are the characters of digits, so they can be read
  have htake : p.map digitChar = (q.take p.length).map digitChar := by
    have := List.prefix_iff_eq_take.1 h
    rw [List.length_map, ← List.map_take] at this
    exact this
  have hread := mapM_digitValue?_map hp
  rw [htake, mapM_digitValue?_map fun d hd => hq d
    (List.mem_of_mem_take hd)] at hread
  rw [List.prefix_iff_eq_take]
  exact (Option.some.inj hread).symm

/-- A spelling that begins another one spells a beginning. -/
theorem isPrefix_of_encodeChars {x y : List UInt8}
    (h : encodeChars x <+: encodeChars y) : x <+: y :=
  isPrefix_of_toDigits (isPrefix_of_map_digitChar toDigits_lt toDigits_lt h)

-- ======================================================= going on behind

/-- The bits to spare are told by the number of bytes. -/
theorem spareBits_toDigits (bytes : List UInt8) :
    spareBits (toDigits bytes).length = 4 * bytes.length % 6 := by
  have hbound := spareBits_lt (length_toDigits bytes)
  have hbits := congrArg List.length (flatMap_bits_toDigits bytes)
  simp only [List.length_flatMap, length_bits, List.length_append,
    List.length_replicate, List.map_const', List.sum_replicate_nat] at hbits
  omega

theorem spareBits_encode (bytes : List UInt8) :
    spareBits (encode bytes).length = 4 * bytes.length % 6 := by
  rw [← String.length_toList, toList_encode, encodeChars, List.length_map,
    spareBits_toDigits]

/-- The digits stay as they are when bytes are put behind, if the first of
these begins with as many zeros as there were to spare. -/
theorem toDigits_isPrefix_append_iff (bytes more : List UInt8) :
    toDigits bytes <+: toDigits (bytes ++ more)
      ↔ ∀ next ∈ more.head?,
          next.toNat < twoTo (8 - spareBits (toDigits bytes).length) := by
  induction bytes using toDigits.induct with
  | case1 => exact ⟨fun _ next _ => next.toNat_lt, fun _ => List.nil_prefix⟩
  | case2 a =>
      have hspare : spareBits (toDigits [a]).length = 4 := spareBits_two
      have hlimit : twoTo (8 - 4) = 16 := rfl
      rw [hspare, hlimit]
      -- the second digit is the first one that the next byte has a part in
      rcases more with _ | ⟨b, _ | ⟨c, rest⟩⟩
      · simp
      · simp [toDigits, List.cons_prefix_cons]
      · simp [toDigits, List.cons_prefix_cons]
  | case3 a b =>
      have hspare : spareBits (toDigits [a, b]).length = 2 := spareBits_three
      have hlimit : twoTo (8 - 2) = 64 := rfl
      rw [hspare, hlimit]
      cases more with
      | nil => simp
      | cons c rest => simp [toDigits, List.cons_prefix_cons]
  | case4 a b c rest ih =>
      have hlength : (a :: b :: c :: rest).length = rest.length + 3 := rfl
      have hspare : spareBits (toDigits (a :: b :: c :: rest)).length
          = spareBits (toDigits rest).length := by
        rw [spareBits_toDigits, spareBits_toDigits, hlength]
        omega
      rw [hspare, ← ih]
      simp only [List.cons_append, toDigits, List.cons_prefix_cons, true_and]

/-- A spelling begins another one exactly if the bytes do and the next byte,
if there is one, begins with as many zeros as the spelling had to spare. -/
theorem encode_isPrefix_iff {x y : List UInt8} :
    (encode x).toList <+: (encode y).toList
      ↔ ∃ more, x ++ more = y
          ∧ ∀ next ∈ more.head?,
              next.toNat < twoTo (8 - spareBits (encode x).length) := by
  rw [toList_encode, toList_encode, spareBits_encode, ← spareBits_toDigits]
  constructor
  · intro h
    obtain ⟨more, rfl⟩ := isPrefix_of_encodeChars h
    have hdigits := isPrefix_of_map_digitChar toDigits_lt toDigits_lt h
    exact ⟨more, rfl, (toDigits_isPrefix_append_iff x more).1 hdigits⟩
  · intro h
    obtain ⟨more, rfl, hnext⟩ := h
    exact ((toDigits_isPrefix_append_iff x more).2 hnext).map digitChar

/-- Four bits are to spare behind one byte, and the next one must not have
one of them set. -/
example : ¬ (encode [0]).toList <+: (encode [0, 16]).toList := by decide

/-- Where a spelling begins another one, the bytes do; and bytes that are
whole groups and begin others are spelt so that they begin them. -/
theorem encode_reflects_prefixes (x y : List UInt8) :
    ((encode x).toList <+: (encode y).toList → x <+: y)
      ∧ (x <+: y → 3 ∣ x.length →
          (encode x).toList <+: (encode y).toList) := by
  constructor
  · intro h
    obtain ⟨more, hmore, -⟩ := encode_isPrefix_iff.1 h
    exact ⟨more, hmore⟩
  · intro h hgroups
    obtain ⟨more, hmore⟩ := h
    have hspare : spareBits (encode x).length = 0 := by
      rw [spareBits_encode]
      omega
    refine encode_isPrefix_iff.2 ⟨more, hmore, fun next _ => ?_⟩
    rw [hspare]
    exact next.toNat_lt

end StatelessAuth.Base64url
