/-
No timestamp begins another one (`prefixFree`): of all texts that are accepted
and all that are written, for times of any year, none is another one with
something behind it. So wherever a timestamp stands, no mark is needed to tell
where it ends.

# Three kinds of pairs

A text that is accepted is of the form, and the form ends with its offset
(`eq_nil_of_scan?_append`). What is written from the year 1000 on is of the form
as well; what is written before that year has a hyphen where the form has its
fourth digit, so that the two cannot begin each other
(`formatChars_eq_of_isPrefix`). Of two written texts the form says nothing, if
both are of such years. There the hyphen behind the year tells where the year
ends, and all that follows it has one length.
-/
import StatelessAuth.Proofs.Timestamp.Canonical

namespace StatelessAuth.Timestamp

open Text

-- ========================================================= the statement

/-- The other text is this one with something behind it. -/
def ProperlyBegins (text other : String) : Prop :=
  ∃ more, more ≠ "" ∧ text ++ more = other

/-- A text that is a timestamp to the reader or comes from the writer. -/
inductive IsTimestamp (text : String) : Prop
  | accepted {instant : Instant} (h : parse text = .ok instant)
  /-- What is written for a time of some clock, if it is in the calendar. -/
  | written {t : ZonedTime} (h : t.format? = some text)

variable {text other : String}

/-- The characters of a timestamp are of the form, or those of an instant. -/
theorem IsTimestamp.chars (h : IsTimestamp text) :
    (∃ reading, scan? text.toList = some reading)
      ∨ ∃ instant, text.toList = formatChars (LocalTime.ofInstant instant) := by
  cases h with
  | accepted hparse => exact Or.inl (scan?_of_parse hparse)
  | written hformat =>
      obtain ⟨instant, -, rfl⟩ := ZonedTime.format?_eq_some_iff.1 hformat
      exact Or.inr ⟨instant, toList_format instant⟩

-- ==================================================== nothing comes behind

section

variable {chars more : List Char} {reading : Reading} {instant : Instant}

/-- What is written for an instant is nothing of the form with more
behind it. -/
theorem eq_nil_of_form_append (hscan : scan? chars = some reading)
    (h : chars ++ more = formatChars (LocalTime.ofInstant instant)) :
    more = [] := by
  have hsame := formatChars_eq_of_isPrefix hscan (Or.inr ⟨more, h⟩)
  rw [hsame] at h
  exact List.append_right_eq_self.1 h

/-- A text of the form is nothing that is written with more behind it. -/
theorem eq_nil_of_formatChars_append_form
    (h : scan? (formatChars (LocalTime.ofInstant instant) ++ more)
      = some reading) : more = [] := by
  have hsame :=
    formatChars_eq_of_isPrefix h (Or.inl (List.prefix_append _ more))
  exact List.self_eq_append_right.1 hsame

/-- Of two times that are written, in years of any length, neither begins the
other. -/
theorem eq_nil_of_formatChars_append {t t' : LocalTime}
    (h : formatChars t ++ more = formatChars t') : more = [] := by
  unfold formatChars at h
  simp only [List.append_assoc, List.cons_append] at h
  -- the hyphen behind the year cuts both texts at one place, and the
  -- rests are of one length
  obtain ⟨-, hrest⟩ :=
    append_cons_inj (hyphen_not_mem_decimal _) (hyphen_not_mem_decimal _) h
  have hlength := congrArg List.length hrest
  simp only [List.length_append, List.length_cons, length_padded,
    List.length_nil] at hlength
  apply List.eq_nil_of_length_eq_zero
  omega

end

/-- Of timestamps, accepted or written, none begins another one. -/
theorem prefixFree (h : IsTimestamp text) (h' : IsTimestamp other) :
    ¬ ProperlyBegins text other := by
  intro hbegins
  obtain ⟨more, hne, rfl⟩ := hbegins
  have hchars' := h'.chars
  rw [String.toList_append] at hchars'
  -- the four kinds of pairs, with nothing behind the first text in any
  -- of them
  have hnil : more.toList = [] := by
    rcases h.chars with ⟨reading, hscan⟩ | ⟨instant, hwritten⟩
    · rcases hchars' with ⟨reading', hscan'⟩ | ⟨instant', hwritten'⟩
      · exact eq_nil_of_scan?_append hscan hscan'
      · exact eq_nil_of_form_append hscan hwritten'
    · rw [hwritten] at hchars'
      rcases hchars' with ⟨reading', hscan'⟩ | ⟨instant', hwritten'⟩
      · exact eq_nil_of_formatChars_append_form hscan'
      · exact eq_nil_of_formatChars_append hwritten'
  exact hne (String.toList_injective hnil)

/-- Three digits of a year are not read as the beginning of four, and a fraction
of one digit not as that of two. -/
theorem prefixFree_of_nines :
    IsTimestamp "999-12-31T23:59:59.999999Z"
      ∧ IsTimestamp "9991-12-31T23:59:59.9Z"
      ∧ IsTimestamp "9991-12-31T23:59:59.99+00:01"
      ∧ ¬ ProperlyBegins "999-12-31T23:59:59.999999Z" "9991-12-31T23:59:59.9Z"
      ∧ ¬ ProperlyBegins "9991-12-31T23:59:59.9Z"
          "9991-12-31T23:59:59.99+00:01" := by
  have hwritten : IsTimestamp "999-12-31T23:59:59.999999Z" :=
    .written (t := ZonedTime.lastOf999) (by decide +kernel)
  have haccepted : parse "9991-12-31T23:59:59.9Z"
      = .ok ⟨315285436799900000, by decide⟩ := by rfl
  have haccepted' : parse "9991-12-31T23:59:59.99+00:01"
      = .ok ⟨315285436739990000, by decide⟩ := by rfl
  exact ⟨hwritten, .accepted haccepted, .accepted haccepted',
    prefixFree hwritten (.accepted haccepted),
    prefixFree (.accepted haccepted) (.accepted haccepted')⟩

end StatelessAuth.Timestamp
