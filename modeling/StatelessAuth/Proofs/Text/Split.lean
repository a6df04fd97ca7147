/-
Texts put together at a separator and cut again. A piece without the
separator is cut off whole (`split_append_cons`, `cutFirst_append_cons`),
so that pieces without it are given by the text that they make
(`append_cons_inj`), and are found again when it is cut at each
(`split_join`).
-/
import StatelessAuth.Text.Split

namespace StatelessAuth.Text

variable {separator : Char}

theorem split_of_not_mem {piece : List Char} (h : separator ∉ piece) :
    split separator piece = [piece] := by
  induction piece with
  | nil => rfl
  | cons c rest ih =>
      have hc : c ≠ separator := Ne.symm (List.ne_of_not_mem_cons h)
      rw [split, if_neg hc, ih (List.not_mem_of_not_mem_cons h)]

/-- A piece without the separator is cut off at the separator behind
it. -/
theorem split_append_cons {piece : List Char} (h : separator ∉ piece)
    (rest : List Char) :
    split separator (piece ++ separator :: rest)
      = piece :: split separator rest := by
  induction piece with
  | nil => rw [List.nil_append, split, if_pos rfl]
  | cons c piece ih =>
      have hc : c ≠ separator := Ne.symm (List.ne_of_not_mem_cons h)
      rw [List.cons_append, split, if_neg hc,
        ih (List.not_mem_of_not_mem_cons h)]

/-- The inverse of `join_split`: what holds no separator is a piece again. -/
theorem split_join {pieces : List (List Char)} (hne : pieces ≠ [])
    (h : ∀ piece ∈ pieces, separator ∉ piece) :
    split separator (join separator pieces) = pieces := by
  induction pieces with
  | nil => exact absurd rfl hne
  | cons first rest ih =>
      obtain ⟨hfirst, hrest⟩ := List.forall_mem_cons.1 h
      cases rest with
      | nil => exact split_of_not_mem hfirst
      | cons next more =>
          rw [join, split_append_cons hfirst, ih (List.cons_ne_nil _ _) hrest]
          exact List.cons_ne_nil _ _

private theorem bne_of_not_mem {piece : List Char} (h : separator ∉ piece) :
    ∀ c ∈ piece, (c != separator) = true := by
  intro c hc
  rw [bne_iff_ne]
  intro h
  subst h
  exact h hc

/-- The same of a cut that is made once. -/
theorem cutFirst_append_cons {piece : List Char} (h : separator ∉ piece)
    (rest : List Char) :
    cutFirst separator (piece ++ separator :: rest) = (piece, some rest) := by
  have hall := bne_of_not_mem h
  have htake : (piece ++ separator :: rest).takeWhile (· != separator)
      = piece := by
    rw [List.takeWhile_append_of_pos hall, List.takeWhile_cons_of_neg (by simp),
      List.append_nil]
  have hdrop : (piece ++ separator :: rest).dropWhile (· != separator)
      = separator :: rest := by
    rw [List.dropWhile_append_of_pos hall, List.dropWhile_cons_of_neg (by simp)]
  rw [cutFirst, hdrop, htake]

/-- Where a text was cut, the separator stood. -/
theorem eq_of_cutFirst {text front back : List Char}
    (h : cutFirst separator text = (front, some back)) :
    text = front ++ separator :: back := by
  unfold cutFirst at h
  split at h
  case h_1 => cases h
  case h_2 c rest hdrop =>
    cases h
    -- the first character that is not taken is the separator
    have hc : c = separator := by
      have hstop := List.head?_dropWhile_not (· != separator) text
      simpa [hdrop] using hstop
    have hwhole := List.takeWhile_append_dropWhile
      (p := (· != separator)) (l := text)
    rw [hdrop, hc] at hwhole
    exact hwhole.symm

/-- What stands before the first separator and what stands behind it are
given by the text. -/
theorem append_cons_inj {a b x y : List Char} (ha : separator ∉ a)
    (hb : separator ∉ b) (h : a ++ separator :: x = b ++ separator :: y) :
    a = b ∧ x = y := by
  have hcut := congrArg (cutFirst separator) h
  rw [cutFirst_append_cons ha, cutFirst_append_cons hb] at hcut
  injection hcut with hab hxy
  injection hxy with hxy
  exact ⟨hab, hxy⟩

/-- The same of a text with two separators. -/
theorem append_cons_append_cons_inj {a b c d x y : List Char}
    (ha : separator ∉ a) (hb : separator ∉ b) (hc : separator ∉ c)
    (hd : separator ∉ d)
    (h : a ++ separator :: (c ++ separator :: x)
      = b ++ separator :: (d ++ separator :: y)) :
    a = b ∧ c = d ∧ x = y := by
  obtain ⟨hab, hrest⟩ := append_cons_inj ha hb h
  exact ⟨hab, append_cons_inj hc hd hrest⟩

end StatelessAuth.Text
