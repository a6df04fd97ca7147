/-
UTF-8 keeps beginnings: a text whose bytes begin those of another text
begins that text, since the first bytes of a text already tell its first
character.
-/
import StatelessAuth.Text.Utf8

namespace StatelessAuth.Utf8

/-- The first character is read back from the bytes, whatever follows
it. -/
theorem utf8EncodeChar_append_inj {c d : Char} {x y : List UInt8}
    (h : String.utf8EncodeChar c ++ x = String.utf8EncodeChar d ++ y) :
    c = d ∧ x = y := by
  have hbytes := congrArg List.toByteArray h
  rw [List.toByteArray_append, List.toByteArray_append] at hbytes
  have hfirst := congrArg (ByteArray.utf8DecodeChar? · 0) hbytes
  simp only [ByteArray.utf8DecodeChar?_utf8EncodeChar_append] at hfirst
  have hc : c = d := Option.some.inj hfirst
  subst hc
  exact ⟨rfl, List.append_cancel_left h⟩

theorem isPrefix_of_flatMap {a b : List Char}
    (h : a.flatMap String.utf8EncodeChar
      <+: b.flatMap String.utf8EncodeChar) : a <+: b := by
  induction a generalizing b with
  | nil => exact List.nil_prefix
  | cons c a ih =>
      obtain ⟨more, h⟩ := h
      rw [List.flatMap_cons, List.append_assoc] at h
      cases b with
      | nil =>
          exact absurd (List.append_eq_nil_iff.1 h).1
            String.utf8EncodeChar_ne_nil
      | cons d b =>
          rw [List.flatMap_cons] at h
          obtain ⟨rfl, hrest⟩ := utf8EncodeChar_append_inj h
          rw [List.cons_prefix_cons]
          exact ⟨rfl, ih ⟨more, hrest⟩⟩

/-- A text whose bytes begin those of another text begins it. -/
theorem isPrefix_of_encode {a b : String} (h : encode a <+: encode b) :
    a.toList <+: b.toList :=
  isPrefix_of_flatMap h

end StatelessAuth.Utf8
