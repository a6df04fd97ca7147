/-
Texts cut at a separator. A text with n separators has n + 1 pieces, of
which any may be empty; joined with the separator they are the text again
(`join_split`), and no piece holds the separator (`not_mem_of_mem_split`).
-/

namespace StatelessAuth.Text

/-- The pieces of a text between the separators. -/
def split (separator : Char) : List Char → List (List Char)
  | [] => [[]]
  | c :: rest =>
      if c = separator then [] :: split separator rest
      else
        match split separator rest with
        | [] => [[c]]
        | piece :: pieces => (c :: piece) :: pieces

/-- The pieces with the separator between them. -/
def join (separator : Char) : List (List Char) → List Char
  | [] => []
  | [piece] => piece
  | piece :: pieces => piece ++ separator :: join separator pieces

/-- A text cut at its first separator; without one the second part is
missing. -/
def cutFirst (separator : Char) (text : List Char) :
    List Char × Option (List Char) :=
  match text.dropWhile (· != separator) with
  | [] => (text, none)
  | _ :: rest => (text.takeWhile (· != separator), some rest)

theorem split_ne_nil (separator : Char) (text : List Char) :
    split separator text ≠ [] := by
  cases text with
  | nil => simp [split]
  | cons c rest =>
      rw [split]
      split
      · simp
      · split <;> simp

theorem join_split (separator : Char) (text : List Char) :
    join separator (split separator text) = text := by
  induction text with
  | nil => rfl
  | cons c rest ih =>
      rw [split]
      split
      · next h =>
        subst h
        cases hs : split c rest with
        | nil => exact absurd hs (split_ne_nil c rest)
        | cons piece pieces =>
            rw [hs] at ih
            simp [join, ih]
      · split
        · next hs => exact absurd hs (split_ne_nil separator rest)
        · next piece pieces hs =>
            rw [hs] at ih
            cases pieces with
            | nil => simpa [join] using ih
            | cons next more => simpa [join] using ih

theorem not_mem_of_mem_split {separator : Char} {text piece : List Char}
    (h : piece ∈ split separator text) : separator ∉ piece := by
  induction text generalizing piece with
  | nil =>
      have : piece = [] := by simpa [split] using h
      simp [this]
  | cons c rest ih =>
      rw [split] at h
      split at h
      · rcases List.mem_cons.1 h with h | h
        · simp [h]
        · exact ih h
      · next hc =>
        split at h
        · next hs => exact absurd hs (split_ne_nil separator rest)
        · next first pieces hs =>
            rcases List.mem_cons.1 h with h | h
            · have := @ih first (by simp [hs])
              simp [h, this, Ne.symm hc]
            · exact ih (by simp [hs, h])

end StatelessAuth.Text
