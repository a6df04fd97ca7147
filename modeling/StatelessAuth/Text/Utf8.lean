/-
Texts as bytes. Everything that is signed, and every text that travels
as base64url, is first written as UTF-8; the reader is strict, so that a
byte string is the UTF-8 form of at most one text and no byte string
stands for a text that writes differently.

The writer takes texts of characters, each of which has a form. A text with
half of a surrogate pair has none (`Wording.string?`).

Main statements: `decode?_eq_some_iff` (the reader accepts exactly what
the writer produces), `encode_append` and `encode_injective`.
-/

namespace StatelessAuth

/-- A byte is made of its number. -/
theorem byte_of_toNat {n : Nat} (byte : UInt8) (h : n = byte.toNat) :
    UInt8.ofNat n = byte := by
  rw [h, UInt8.ofNat_toNat]

namespace Utf8

def encode (text : String) : List UInt8 :=
  text.toList.flatMap String.utf8EncodeChar

/-- The text whose UTF-8 form `bytes` is: overlong forms, surrogates and
numbers past U+10FFFF are no form of any text. -/
def decode? (bytes : List UInt8) : Option String :=
  String.fromUTF8? ⟨bytes.toArray⟩

theorem encode_append (a b : String) :
    encode (a ++ b) = encode a ++ encode b := by
  simp [encode]

private theorem toByteArray_eq (text : String) :
    text.toByteArray = ⟨(encode text).toArray⟩ := by
  have h : text = String.ofList text.toList := by simp
  rw [h, String.toByteArray_ofList, encode, ← h, List.utf8Encode]
  apply ByteArray.ext
  simp

/-- Two texts of the same bytes are the same text. -/
theorem encode_injective {a b : String} (h : encode a = encode b) : a = b := by
  apply String.toByteArray_inj.1
  rw [toByteArray_eq, toByteArray_eq, h]

/-- The reader accepts exactly what the writer produces. -/
theorem decode?_eq_some_iff {bytes : List UInt8} {text : String} :
    decode? bytes = some text ↔ encode text = bytes := by
  unfold decode? String.fromUTF8?
  constructor
  · intro h
    split at h
    case isFalse => cases h
    case isTrue hv =>
      injection h with h
      subst h
      have := toByteArray_eq (String.fromUTF8 ⟨bytes.toArray⟩ hv)
      simpa [String.fromUTF8] using this.symm
  · intro h
    subst h
    rw [← toByteArray_eq]
    rw [dif_pos text.isValidUTF8]
    rfl

theorem decode?_encode (text : String) : decode? (encode text) = some text :=
  decode?_eq_some_iff.2 rfl

end Utf8

end StatelessAuth
