/-
What a cookie carries on its way to the client. A text that sets a cookie
to a value of plain characters carries this value (`carried?_settingText`),
and a text that removes one carries nothing (`carried?_removalText`).

Plain characters are those that need no quotes (`isTokenChar`). None of
them is a separator, a quote or a blank, and all are ASCII.
-/
import Mathlib.Data.List.TakeDrop
import StatelessAuth.Http.Cookie
import StatelessAuth.Text.Blank
import StatelessAuth.Proofs.Base64url.Codec
import StatelessAuth.Proofs.Text.Split

namespace StatelessAuth.Cookie

open Text

/-- The value that a text gives to its cookie: what stands between the
first equals sign and the first semicolon. A removed cookie has none. -/
def carried? (text : String) : Option String :=
  match cutFirst '=' (cutFirst ';' text.toList).1 with
  | (_, some value) =>
      if value = ['"', '"'] then none else some (String.ofList value)
  | (_, none) => none

-- ==================================================== plain characters

theorem toNat_lt_of_isTokenChar {c : Char} (h : isTokenChar c = true) :
    c.toNat < 128 := by
  unfold isTokenChar at h
  rcases Bool.or_eq_true_iff.1 h with h | h
  -- a letter or a digit
  · have hle : c.val ≤ 'Z'.val ∨ c.val ≤ 'z'.val ∨ c.val ≤ '9'.val := by
      rcases Bool.or_eq_true_iff.1 h with h | h
      · rcases Bool.or_eq_true_iff.1 h with h | h
        · exact Or.inl (of_decide_eq_true h).2
        · exact Or.inr (Or.inl (of_decide_eq_true (Bool.and_eq_true_iff.1 h).2))
      · exact Or.inr (Or.inr (of_decide_eq_true (Bool.and_eq_true_iff.1 h).2))
    show c.val.toNat < 128
    rcases hle with hle | hle | hle
    · have : c.val.toNat ≤ 90 := hle
      omega
    · have : c.val.toNat ≤ 122 := hle
      omega
    · have : c.val.toNat ≤ 57 := hle
      omega
  · have all : "!#$%&'*+-.^_`|~:".toList.all (fun c => decide (c.toNat < 128))
        = true := by
      decide
    exact of_decide_eq_true
      (List.all_eq_true.1 all c (List.contains_iff_mem.1 h))

/-- What holds of the plain characters among the ASCII characters holds of
all plain characters. -/
theorem forall_isTokenChar {p : Char → Bool}
    (h : ∀ n < 128, isTokenChar (Char.ofNat n) = true → p (Char.ofNat n) = true)
    {c : Char} (hc : isTokenChar c = true) : p c = true := by
  have := h c.toNat (toNat_lt_of_isTokenChar hc)
  rw [Char.ofNat_toNat] at this
  exact this hc

theorem isBlank_of_isTokenChar {c : Char} (h : isTokenChar c = true) :
    isBlank c = false := by
  have := forall_isTokenChar (p := fun c => !isBlank c) (by decide +kernel) h
  simpa using this

/-- A plain text holds no character that is not plain. -/
theorem not_mem_of_all {c : Char} (hc : isTokenChar c = false)
    {text : List Char} (h : text.all isTokenChar = true) : c ∉ text := by
  intro hmem
  rw [List.all_eq_true.1 h c hmem] at hc
  cases hc

/-- Every spelling in base64url is plain. -/
theorem all_isTokenChar_encodeChars (bytes : List UInt8) :
    (Base64url.encodeChars bytes).all isTokenChar = true := by
  rw [List.all_eq_true]
  exact Base64url.forall_mem_encodeChars (by decide)

/-- The name of a cookie that can be sent has characters, and all of them
are plain. -/
theorem of_isSendable {name : String} (h : isSendable name = true) :
    name ≠ "" ∧ name.toList.all isTokenChar = true := by
  unfold isSendable at h
  simp only [Bool.and_eq_true, decide_eq_true_eq] at h
  exact h.1

-- ======================================================== to the client

theorem quoted_of_all {value : String} (hne : value ≠ "")
    (h : value.toList.all isTokenChar = true) : quoted value = value := by
  rw [quoted, if_pos ⟨hne, h⟩]

/-- A name and a value are found again in what they were put together to. -/
private theorem cut_settingText {name value attributes : List Char}
    (hname : '=' ∉ name) (hname' : ';' ∉ name) (hvalue : ';' ∉ value) :
    cutFirst '=' (cutFirst ';' (name ++ '=' :: (value ++ ';' :: attributes))).1
      = (name, some value) := by
  have hpair : ';' ∉ name ++ '=' :: value := by
    simp only [List.mem_append, List.mem_cons, not_or]
    exact ⟨hname', by decide, hvalue⟩
  have hassoc : name ++ '=' :: (value ++ ';' :: attributes)
      = (name ++ '=' :: value) ++ ';' :: attributes := by simp
  rw [hassoc, cutFirst_append_cons hpair, cutFirst_append_cons hname]

/-- A text that sets a cookie to a plain value carries the value. -/
theorem carried?_settingText {name value : String}
    (hname : isSendable name = true) (hne : value ≠ "")
    (hvalue : value.toList.all isTokenChar = true) :
    carried? (settingText name value) = some value := by
  obtain ⟨-, hplain⟩ := of_isSendable hname
  have hchars : (settingText name value).toList
      = name.toList ++ '=' :: (value.toList
        ++ ';' :: " HttpOnly; Path=/; SameSite=lax".toList) := by
    rw [settingText, quoted_of_all hne hvalue]
    simp [String.toList_append]
  -- a quote is not plain, so the value is not taken for a removal
  have hquotes : value.toList ≠ ['"', '"'] := by
    intro h
    rw [h] at hvalue
    revert hvalue
    decide
  rw [carried?, hchars, cut_settingText (not_mem_of_all (by decide) hplain)
    (not_mem_of_all (by decide) hplain) (not_mem_of_all (by decide) hvalue)]
  simp only
  rw [if_neg hquotes, String.ofList_toList]

/-- A text that removes a cookie carries no value. -/
theorem carried?_removalText {name : String} (hname : isSendable name = true)
    (now : Instant) : carried? (removalText name now) = none := by
  obtain ⟨-, hplain⟩ := of_isSendable hname
  have hchars : ∃ attributes, (removalText name now).toList
      = name.toList ++ '=' :: (['"', '"'] ++ ';' :: attributes) := by
    refine ⟨" expires=".toList ++ (dateText now).toList
      ++ "; HttpOnly; Max-Age=0; Path=/; SameSite=lax".toList, ?_⟩
    rw [removalText]
    simp [String.toList_append, quoted]
  obtain ⟨attributes, hchars⟩ := hchars
  rw [carried?, hchars, cut_settingText (not_mem_of_all (by decide) hplain)
    (not_mem_of_all (by decide) hplain) (by decide)]
  rfl

end StatelessAuth.Cookie
