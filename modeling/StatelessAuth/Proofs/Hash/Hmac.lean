/-
Which keys the keyed digest tells apart.

A key is seen through its block alone, and the block is filled up with
zeros: keys that differ at most in zeros at their end have one block,
and so have a key that is too long for a block and its digest
(`keyBlock_eq_iff`). There are no other keys with one block.

The block can be read off what is hashed last: masking a byte is undone
by masking it again, and all blocks have one length, so that the inner
digest begins at the same place (`keyBlock_eq_of_outer_eq`). Hence a tag
that two keys have in common is, unless they have one block, a digest
that two messages have in common (`tag_eq_iff`).
-/
import Mathlib.Data.List.Basic
import StatelessAuth.Hash.Hmac

namespace StatelessAuth

/-- Two different messages have the same digest. -/
def Sha512.Collides (message other : List UInt8) : Prop :=
  message ≠ other ∧ digest message = digest other

namespace Hmac

variable {key other message : List UInt8}

-- ============================================================== blocks

/-- What a block holds of a key in front of the zeros: the key itself,
or its digest if it is too long. -/
def stem (key : List UInt8) : List UInt8 :=
  if key.length ≤ 128 then key else Sha512.digest key

/-- Two keys differ at most in zeros at the end, each taken as what a
block holds of it. -/
def AreAlike (key other : List UInt8) : Prop :=
  ∃ zeros otherZeros, stem key ++ List.replicate zeros 0
    = stem other ++ List.replicate otherZeros 0

/-- What a block holds of a key has room in it. -/
theorem length_stem_le (key : List UInt8) : (stem key).length ≤ 128 := by
  unfold stem
  split
  case isTrue hshort => exact hshort
  case isFalse =>
    exact Nat.le_trans (Nat.le_of_eq (Sha512.length_digest key)) (by decide)

theorem keyBlock_eq (key : List UInt8) :
    keyBlock key = stem key ++ List.replicate (128 - (stem key).length) 0 := rfl

theorem length_keyBlock (key : List UInt8) : (keyBlock key).length = 128 := by
  have hle := length_stem_le key
  rw [keyBlock_eq, List.length_append, List.length_replicate]
  omega

/-- The block is cut off what begins with the stem and goes on with zeros. -/
theorem keyBlock_eq_take (zeros : Nat) (h : 128 ≤ (stem key).length + zeros) :
    keyBlock key = (stem key ++ List.replicate zeros 0).take 128 := by
  have hle := length_stem_le key
  rw [keyBlock_eq, List.take_append, List.take_of_length_le hle,
    List.take_replicate, Nat.min_eq_left (by omega)]

/-- Keys have one block exactly if they are alike. -/
theorem keyBlock_eq_iff :
    keyBlock key = keyBlock other ↔ AreAlike key other := by
  constructor
  · intro h
    exact ⟨_, _, h⟩
  · rintro ⟨zeros, otherZeros, h⟩
    -- with a block of zeros more on both sides there is enough to cut off
    have hlonger : stem key ++ List.replicate (zeros + 128) 0
        = stem other ++ List.replicate (otherZeros + 128) 0 := by
      rw [← List.replicate_append_replicate, ← List.replicate_append_replicate,
        ← List.append_assoc, ← List.append_assoc, h]
    rw [keyBlock_eq_take (zeros + 128) (by omega),
      keyBlock_eq_take (otherZeros + 128) (by omega), hlonger]

instance (key other : List UInt8) : Decidable (AreAlike key other) :=
  decidable_of_iff _ keyBlock_eq_iff

-- ================================================================ tags

/-- What is hashed last: the block under the outer mask and the inner digest. -/
def outer (key message : List UInt8) : List UInt8 :=
  (keyBlock key).map (· ^^^ 0x5C)
    ++ Sha512.digest ((keyBlock key).map (· ^^^ 0x36) ++ message)

/-- What is hashed last for a message under two keys is different and has the
same digest. -/
def ConfusedAt (key other message : List UInt8) : Prop :=
  Sha512.Collides (outer key message) (outer other message)

/-- The block can be read off what is hashed last: the mask is undone,
and the inner digest begins behind the block whatever the key is. -/
theorem keyBlock_eq_of_outer_eq (h : outer key message = outer other message) :
    keyBlock key = keyBlock other := by
  have hlength : ((keyBlock key).map (· ^^^ 0x5C)).length
      = ((keyBlock other).map (· ^^^ 0x5C)).length := by
    rw [List.length_map, List.length_map, length_keyBlock, length_keyBlock]
  have hmasked := (List.append_inj h hlength).1
  exact (List.map_inj_right fun _ _ => (UInt8.xor_left_inj 0x5C).1).1 hmasked

/-- Two keys give a message the same tag because they are alike, or else
because of a collision of the digest. -/
theorem tag_eq_iff :
    tag key message = tag other message
      ↔ AreAlike key other ∨ ConfusedAt key other message := by
  constructor
  · intro htag
    by_cases houter : outer key message = outer other message
    · exact Or.inl (keyBlock_eq_iff.1 (keyBlock_eq_of_outer_eq houter))
    · exact Or.inr ⟨houter, htag⟩
  · rintro (halike | hconfused)
    · rw [tag, tag, keyBlock_eq_iff.2 halike]
    · exact hconfused.2

end Hmac

end StatelessAuth
