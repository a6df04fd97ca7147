/-
What counts as a truth value.

`Rule.flag` goes through words and bounds in an order of its own. Here the
data that it takes are listed by their kinds (`CountsAs`): a truth value
itself, the integers 0 and 1, a double that is one of them, and in text or
bytes the words for yes and no in any case. That the rule finds all of them
and no others is `flag_eq_valid_iff`. It holds of texts of either kind,
since a word has no half of a surrogate pair.
-/
import StatelessAuth.Proofs.Schema.Rule

namespace StatelessAuth.Rule

/-- The words that a truth value goes by. -/
def wordsFor : Bool → List String
  | true => ["1", "true", "t", "yes", "y", "on"]
  | false => ["0", "false", "f", "no", "n", "off"]

/-- The text is one of the words, in any case. -/
def Spells (content : String) (b : Bool) : Prop :=
  ∃ word ∈ wordsFor b, Text.sameName content word = true

variable {τ : Type}

/-- The datum is taken for a truth value. -/
inductive CountsAs [Textual τ] : Value τ → Bool → Prop
  | itself (b : Bool) : CountsAs (.bool b) b
  | integer (b : Bool) : CountsAs (.integer b.toInt) b
  | real {x : Binary64} {b : Bool} (h : x.toInt? = some b.toInt) :
      CountsAs (.real x) b
  | text {text : τ} {content : String} {b : Bool}
      (htext : Textual.string? text = some content) (h : Spells content b) :
      CountsAs (.text text) b
  | bytes {data : List UInt8} {content : String} {b : Bool}
      (hdata : Utf8.decode? data = some content) (h : Spells content b) :
      CountsAs (.bytes data) b

variable {value : Value τ} {b : Bool}

-- ============================================================== numbers

/-- Of the integers only 0 and 1 are truth values. -/
theorem truthNumber_eq_valid_iff {number : Int} :
    truthNumber number value = .valid b ↔ number = b.toInt := by
  unfold truthNumber
  by_cases hzero : number = 0
  · rw [if_pos hzero, hzero]
    cases b <;> simp
  · rw [if_neg hzero]
    by_cases hone : number = 1
    · rw [if_pos hone, hone]
      cases b <;> simp
    · rw [if_neg hone]
      cases b <;> simp [Validated.fail, hzero, hone]

theorem toInt_bounds (b : Bool) :
    -longBound < b.toInt ∧ b.toInt < longBound := by
  cases b with
  | false => decide +kernel
  | true => decide +kernel

/-- A bound on a number that both truth values keep takes nothing away. -/
theorem bounded_eq_valid_iff {number : Int} {bounded : Prop} [Decidable bounded]
    (hbounded : number = b.toInt → bounded) :
    (if bounded then truthNumber number value else .fail .boolType value)
      = .valid b ↔ number = b.toInt := by
  by_cases h : bounded
  · rw [if_pos h]
    exact truthNumber_eq_valid_iff
  · rw [if_neg h]
    refine ⟨nofun, ?_⟩
    intro heq
    exact absurd (hbounded heq) h

/-- An integer counts as the truth value whose number it is. -/
theorem countsAs_integer_iff [Textual τ] {number : Int} :
    CountsAs (.integer number : Value τ) b ↔ number = b.toInt := by
  constructor
  · intro h
    cases h
    rfl
  · intro h
    rw [h]
    exact .integer b

-- ================================================================ words

/-- No word stands for both. -/
theorem truthWord?_eq_some_iff {word : String} :
    truthWord? word = some b ↔ word ∈ wordsFor b := by
  -- the words for yes are looked for first, which makes no difference
  have hapart : ∀ word ∈ wordsFor true, word ∉ wordsFor false := by decide
  have hunfold : truthWord? word
      = if word ∈ wordsFor true then some true
        else if word ∈ wordsFor false then some false else none := rfl
  rw [hunfold]
  by_cases hyes : word ∈ wordsFor true
  · rw [if_pos hyes]
    cases b with
    | true => exact iff_of_true rfl hyes
    | false => exact iff_of_false nofun (hapart word hyes)
  · rw [if_neg hyes]
    by_cases hno : word ∈ wordsFor false
    · rw [if_pos hno]
      cases b with
      | true => exact iff_of_false nofun hyes
      | false => exact iff_of_true rfl hno
    · rw [if_neg hno]
      cases b with
      | true => exact iff_of_false nofun hyes
      | false => exact iff_of_false nofun hno

theorem lower_of_mem_wordsFor :
    ∀ b, ∀ word ∈ wordsFor b, Text.lower word = word := by
  decide +kernel

/-- In any case: the words are in small letters, and so is what is looked
up. -/
theorem spells_iff {content : String} :
    Spells content b ↔ truthWord? (Text.lower content) = some b := by
  rw [truthWord?_eq_some_iff]
  constructor
  · intro h
    obtain ⟨word, hword, hsame⟩ := h
    rw [Text.sameName, beq_iff_eq, lower_of_mem_wordsFor b word hword] at hsame
    rwa [hsame]
  · intro hword
    refine ⟨_, hword, ?_⟩
    rw [Text.sameName, beq_iff_eq, lower_of_mem_wordsFor b _ hword]

-- ============================================================= the rule

/-- Where a truth value is looked for in a text, it is found or the text
is none. -/
theorem found_eq_valid_iff {found : Option Bool} :
    (match found with
      | some own => .valid own
      | none => .fail .boolParsing value : Validated Bool τ) = .valid b
      ↔ found = some b := by
  cases found with
  | none => exact ⟨nofun, nofun⟩
  | some own =>
      constructor
      · intro h
        cases h
        rfl
      · intro h
        cases h
        rfl

/-- The rule takes what counts as a truth value, and takes it for that. -/
theorem flag_eq_valid_iff [Textual τ] :
    flag value = .valid b ↔ CountsAs value b := by
  cases value with
  | bool own =>
      constructor
      · intro h
        cases h
        exact .itself _
      · intro h
        cases h
        rfl
  | integer number =>
      have hbounded :
          number = b.toInt → -longBound ≤ number ∧ number < longBound := by
        intro heq
        rw [heq]
        exact ⟨Int.le_of_lt (toInt_bounds b).1, (toInt_bounds b).2⟩
      exact (bounded_eq_valid_iff hbounded).trans countsAs_integer_iff.symm
  | real x =>
      unfold flag
      rcases hint : x.toInt? with - | number
      · simp only [hint]
        refine ⟨nofun, ?_⟩
        intro h
        cases h with
        | real hreal =>
            rw [hint] at hreal
            cases hreal
      · have hbounded :
            number = b.toInt → -longBound < number ∧ number < longBound := by
          intro heq
          rw [heq]
          exact toInt_bounds b
        simp only [hint]
        refine (bounded_eq_valid_iff hbounded).trans ⟨?_, ?_⟩
        · intro heq
          exact .real (heq ▸ hint)
        · intro h
          cases h with
          | real hreal =>
              rw [hint] at hreal
              exact Option.some.inj hreal
  | text text =>
      unfold flag
      rcases htext : Textual.string? text with - | content
      · simp only [htext]
        refine ⟨nofun, ?_⟩
        intro h
        cases h with
        | text hcontent h =>
            rw [htext] at hcontent
            cases hcontent
      · simp only [htext]
        refine found_eq_valid_iff.trans (spells_iff.symm.trans ⟨?_, ?_⟩)
        · exact .text htext
        · intro h
          cases h with
          | text hcontent h =>
              rw [htext, Option.some.injEq] at hcontent
              rwa [hcontent]
  | bytes data =>
      refine found_eq_valid_iff.trans (Option.bind_eq_some_iff.trans ⟨?_, ?_⟩)
      · intro h
        obtain ⟨content, hdata, hword⟩ := h
        exact .bytes hdata (spells_iff.2 hword)
      · intro h
        cases h with
        | bytes hdata h => exact ⟨_, hdata, spells_iff.1 h⟩
  | null => exact ⟨nofun, nofun⟩
  | buffer data => exact ⟨nofun, nofun⟩
  | list items => exact ⟨nofun, nofun⟩
  | record fields => exact ⟨nofun, nofun⟩

/-- A number is a truth value, or is refused as what it stands in. -/
theorem truthNumber_cases (number : Int) (value : Value τ) :
    (∃ b, truthNumber number value = .valid b)
      ∨ ∃ cause, truthNumber number value = .fail cause value := by
  unfold truthNumber
  split
  case isTrue => exact Or.inl ⟨_, rfl⟩
  case isFalse =>
    split
    case isTrue => exact Or.inl ⟨_, rfl⟩
    case isFalse => exact Or.inr ⟨_, rfl⟩

/-- A truth value is taken or refused as a whole. -/
theorem isWhole_flag [Textual τ] : IsWhole (flag : Rule Bool τ) := by
  intro value
  unfold flag
  split
  case h_1 own => exact Or.inl ⟨own, rfl⟩
  case h_2 number =>
    split
    case isTrue => exact truthNumber_cases number _
    case isFalse => exact Or.inr ⟨_, rfl⟩
  case h_3 x =>
    split
    case h_1 number _ =>
      split
      case isTrue => exact truthNumber_cases number _
      case isFalse => exact Or.inr ⟨_, rfl⟩
    case h_2 => exact Or.inr ⟨_, rfl⟩
  case h_4 text =>
    split
    case h_1 =>
      split
      case h_1 own _ => exact Or.inl ⟨own, rfl⟩
      case h_2 => exact Or.inr ⟨_, rfl⟩
    case h_2 => exact Or.inr ⟨_, rfl⟩
  case h_5 =>
    split
    case h_1 own _ => exact Or.inl ⟨own, rfl⟩
    case h_2 => exact Or.inr ⟨_, rfl⟩
  case h_6 => exact Or.inr ⟨_, rfl⟩

end StatelessAuth.Rule
