/-
Texts without what is passed over at their ends. A text is what
`trimChars` leaves of it with characters of the class around it
(`exists_trimChars`); and what holds no character of the class is found
again between such characters (`trimChars_append`).
-/
import Mathlib.Data.List.TakeWhile
import StatelessAuth.Text.Blank

namespace StatelessAuth.Text

variable {inClass : Char → Bool} {left core right : List Char}

/-- What is passed over at the ends of a text is of the class. -/
theorem exists_trimChars (inClass : Char → Bool) (text : List Char) :
    ∃ left right, (∀ c ∈ left, inClass c = true)
      ∧ (∀ c ∈ right, inClass c = true)
      ∧ text = left ++ (trimChars inClass text ++ right) := by
  refine ⟨text.takeWhile inClass,
    ((text.dropWhile inClass).reverse.takeWhile inClass).reverse, ?_, ?_, ?_⟩
  · intro c hc
    exact List.mem_takeWhile_imp hc
  · intro c hc
    exact List.mem_takeWhile_imp (List.mem_reverse.1 hc)
  · rw [trimChars, ← List.reverse_append, List.takeWhile_append_dropWhile,
      List.reverse_reverse, List.takeWhile_append_dropWhile]

private theorem dropWhile_append_of_none
    (hcore : ∀ c ∈ core, inClass c = false) (hne : core ≠ [])
    (right : List Char) :
    (core ++ right).dropWhile inClass = core ++ right := by
  cases core with
  | nil => exact absurd rfl hne
  | cons c rest =>
      have hc := hcore c (List.mem_cons_self ..)
      rw [List.cons_append, List.dropWhile_cons_of_neg (by simp [hc])]

/-- What holds nothing of the class is left whole between what is of
it. -/
theorem trimChars_append (hleft : ∀ c ∈ left, inClass c = true)
    (hcore : ∀ c ∈ core, inClass c = false)
    (hright : ∀ c ∈ right, inClass c = true) :
    trimChars inClass (left ++ (core ++ right)) = core := by
  rw [trimChars, List.dropWhile_append_of_pos hleft]
  by_cases hne : core = []
  · rw [hne, List.nil_append, List.dropWhile_eq_nil_iff.2 hright]
    rfl
  · have hback : ∀ c ∈ right.reverse, inClass c = true := fun c hc =>
      hright c (List.mem_reverse.1 hc)
    have hcore' : ∀ c ∈ core.reverse, inClass c = false := fun c hc =>
      hcore c (List.mem_reverse.1 hc)
    -- from the back, what is passed over ends at the core as well
    have hstop := dropWhile_append_of_none hcore'
      (mt List.reverse_eq_nil_iff.1 hne) []
    rw [List.append_nil] at hstop
    rw [dropWhile_append_of_none hcore hne, List.reverse_append,
      List.dropWhile_append_of_pos hback, hstop, List.reverse_reverse]

end StatelessAuth.Text
