/-
In which order a text that is shown as a token is judged, and what each part
of the judgement looks at.

# The demands

Seven things are asked of a text (`Demand`). When one of them is not met is
said of each without the others (`Unmet`), and for most it could be asked in
any order. The outcome is that of the first one that is not met
(`validate_eq_error_iff`).

# What a demand looks at

The form and the spelling of the pieces are a matter of the text alone, and
only the last demand looks at the clock (`unmet_iff_of_text`,
`unmet_iff_of_clock`). Two judgements agree as long as the demands up to the
one that decides look at the same things (`FirstUnmet.of_same`). So nothing
that was not signed has a say in what is told of a wrong signature, and the
passing of time turns a text that passes into one that has expired and does
nothing else (`validate_over_time`).
-/
import Mathlib.Order.WellFounded
import StatelessAuth.Proofs.Token.Lifetime

namespace StatelessAuth.Token

-- ========================================================= the demands

/-- What is asked of a text. -/
inductive Demand
  /-- It is made of three pieces. -/
  | form
  /-- The first piece spells a text. -/
  | identity
  /-- The second piece spells a text. -/
  | expiration
  /-- The key can sign. -/
  | key
  /-- The third piece is the signature of the other two with the salt. -/
  | signature
  /-- What the second piece spells is an instant. -/
  | timestamp
  /-- The instant is not past. -/
  | lifetime
  deriving DecidableEq, Repr

/-- The place of a demand in the order in which they are made. -/
def Demand.place : Demand → Nat
  | form => 0
  | identity => 1
  | expiration => 2
  | key => 3
  | signature => 4
  | timestamp => 5
  | lifetime => 6

/-- A demand is not met, and what comes of it. -/
inductive Unmet (now : Instant) (text salt : String) (key : Key) :
    Demand → Failure → Prop
  | form (h : ¬ ∃ first second third, IsCut text first second third) :
      Unmet now text salt key .form (.refused .formatInvalid)
  | identity {first second third : String} {e : Base64url.DecodeError}
      (hcut : IsCut text first second third)
      (h : Base64url.decodeText first = .error e) :
      Unmet now text salt key .identity (.refused .identityUndecodable)
  | expiration {first second third : String} {e : Base64url.DecodeError}
      (hcut : IsCut text first second third)
      (h : Base64url.decodeText second = .error e) :
      Unmet now text salt key .expiration (.refused .expirationUndecodable)
  | key (h : key.usable? = none) :
      Unmet now text salt key .key (.refused .signingFailed)
  | signature {first second third signature : String}
      (hcut : IsCut text first second third)
      (hsign : sign key (first ++ "." ++ second) salt = .ok signature)
      (h : signature ≠ third) :
      Unmet now text salt key .signature (.refused .signatureMismatch)
  | malformed {first second third expiration : String}
      (hcut : IsCut text first second third)
      (hspells : Base64url.decodeText second = .ok expiration)
      (h : Timestamp.parse expiration = .error .malformed) :
      Unmet now text salt key .timestamp (.refused .expirationUnparseable)
  | outOfRange {first second third expiration : String}
      (hcut : IsCut text first second third)
      (hspells : Base64url.decodeText second = .ok expiration)
      (h : Timestamp.parse expiration = .error .outOfRange) :
      Unmet now text salt key .timestamp .expirationOutOfRange
  | lifetime {first second third expiration : String} {deadline : Instant}
      (hcut : IsCut text first second third)
      (hspells : Base64url.decodeText second = .ok expiration)
      (hparse : Timestamp.parse expiration = .ok deadline)
      (h : deadline < now) :
      Unmet now text salt key .lifetime (.refused .expired)

/-- The demands before a place are met. -/
def MetBefore (now : Instant) (text salt : String) (key : Key) (place : Nat) :
    Prop :=
  ∀ demand failure, demand.place < place →
    ¬ Unmet now text salt key demand failure

/-- Of the demands that are not met, the first one has this outcome. -/
def FirstUnmet (now : Instant) (text salt : String) (key : Key)
    (failure : Failure) : Prop :=
  ∃ demand, Unmet now text salt key demand failure
    ∧ MetBefore now text salt key demand.place

variable {now later : Instant} {text salt otherSalt first second third : String}
  {key otherKey : Key} {token : Token} {demand : Demand} {failure : Failure}

theorem MetBefore.mono {place earlier : Nat}
    (h : MetBefore now text salt key place) (hle : earlier ≤ place) :
    MetBefore now text salt key earlier := by
  intro demand failure hlt
  exact h demand failure (Nat.lt_of_lt_of_le hlt hle)

/-- If any demand is not met, one of them is the first. -/
theorem exists_firstUnmet (h : Unmet now text salt key demand failure) :
    ∃ first reported, first.place ≤ demand.place
      ∧ Unmet now text salt key first reported
      ∧ MetBefore now text salt key first.place := by
  -- the demands are finitely many, so that one of those not met has the
  -- least place
  obtain ⟨first, ⟨reported, hunmet⟩, hmin⟩ :=
    WellFounded.has_min (measure Demand.place).wf
      {demand | ∃ failure, Unmet now text salt key demand failure}
        ⟨demand, failure, h⟩
  refine ⟨first, reported, ?_, hunmet, ?_⟩
  · exact Nat.le_of_not_lt (hmin demand ⟨failure, h⟩)
  · intro earlier other hlt hearlier
    exact hmin earlier ⟨other, hearlier⟩ hlt

-- ================================================== what is looked at

/-- The demands on the form and the spelling look at the text alone. -/
theorem unmet_iff_of_text (h : demand.place < Demand.key.place) :
    Unmet now text salt key demand failure
      ↔ Unmet later text otherSalt otherKey demand failure := by
  have hone : ∀ {now later salt otherSalt key otherKey},
      Unmet now text salt key demand failure →
        Unmet later text otherSalt otherKey demand failure := by
    intro now later salt otherSalt key otherKey hunmet
    cases hunmet with
    | form hcut => exact .form hcut
    | identity hcut hspelling => exact .identity hcut hspelling
    | expiration hcut hspelling => exact .expiration hcut hspelling
    | _ => exact absurd h (by decide)
  exact ⟨hone, hone⟩

/-- All demands but the last look at the text, the salt and the key, and not
at the clock. -/
theorem unmet_iff_of_clock (h : demand.place < Demand.lifetime.place) :
    Unmet now text salt key demand failure
      ↔ Unmet later text salt key demand failure := by
  have hone : ∀ {now later}, Unmet now text salt key demand failure →
      Unmet later text salt key demand failure := by
    intro now later hunmet
    cases hunmet with
    | form hcut => exact .form hcut
    | identity hcut hspelling => exact .identity hcut hspelling
    | expiration hcut hspelling => exact .expiration hcut hspelling
    | key husable => exact .key husable
    | signature hcut hsign hne => exact .signature hcut hsign hne
    | malformed hcut hspells hparse => exact .malformed hcut hspells hparse
    | outOfRange hcut hspells hparse => exact .outOfRange hcut hspells hparse
    | lifetime => exact absurd h (by decide)
  exact ⟨hone, hone⟩

-- ======================================================= what was read

/-- A text that is read is made of the parts of what is read. -/
theorem isCut_of_ofText (h : ofText text = .ok token) :
    IsCut text (Base64url.encodeText token.identity)
      (Base64url.encodeText token.expiration) token.signature := by
  obtain ⟨rfl, hidentity, hexpiration, hsignature, hdot⟩ := ofText_eq_ok_iff.1 h
  exact isCut_toText hidentity hexpiration hsignature hdot

/-- The pieces of a text that is read are the spellings of what is read. -/
theorem IsCut.pieces_eq (hcut : IsCut text first second third)
    (hread : ofText text = .ok token) :
    first = Base64url.encodeText token.identity
      ∧ second = Base64url.encodeText token.expiration
        ∧ third = token.signature := by
  rw [ofText_of_isCut hcut] at hread
  exact ofPieces_eq_ok_iff.1 hread

/-- A text is read if the demands on its form and its spelling are met. -/
theorem exists_ofText_of_met
    (h : MetBefore now text salt key Demand.key.place) :
    ∃ token, ofText text = .ok token := by
  by_cases hcut : ∃ first second third, IsCut text first second third
  · obtain ⟨first, second, third, hcut⟩ := hcut
    rw [ofText_of_isCut hcut]
    cases hfirst : Base64url.decodeText first with
    | error e =>
        exact absurd (.identity hcut hfirst) (h .identity _ (by decide))
    | ok name =>
        cases hsecond : Base64url.decodeText second with
        | error e =>
            exact absurd (.expiration hcut hsecond)
              (h .expiration _ (by decide))
        | ok deadline =>
            exact ⟨⟨name, deadline, third⟩, ofPieces_eq_ok_iff.2
              ⟨Base64url.decodeText_eq_ok_iff.1 hfirst,
                Base64url.decodeText_eq_ok_iff.1 hsecond, rfl⟩⟩
  · exact absurd (.form hcut) (h .form _ (by decide))

/-- What is read is signed if the demands on the key and the signature are
met. -/
theorem signatureFor_of_met (hread : ofText text = .ok token)
    (h : MetBefore now text salt key Demand.timestamp.place) :
    signatureFor key token.identity token.expiration salt
      = .ok token.signature := by
  cases husable : key.usable? with
  | none => exact absurd (.key husable) (h .key _ (by decide))
  | some secret =>
      obtain ⟨signature, hsign⟩ : ∃ signature,
          signatureFor key token.identity token.expiration salt
            = .ok signature :=
        ⟨_, sign_eq_ok_iff.2 ⟨secret, husable, rfl⟩⟩
      by_cases hsame : signature = token.signature
      · rw [hsign, hsame]
      · exact absurd (.signature (isCut_of_ofText hread) hsign hsame)
          (h .signature _ (by decide))

-- ========================================================= the outcome

theorem validate_of_ofText (hread : ofText text = .ok token) :
    validate now text salt key = check now token salt key := by
  unfold validate
  rw [hread]

theorem validate_of_unreadable {reason : Refusal}
    (hread : ofText text = .error reason) :
    validate now text salt key = .error (.refused reason) := by
  unfold validate
  rw [hread]

/-- Without a key that signs there is nothing to compare. -/
theorem check_of_unusable (h : key.usable? = none) :
    check now token salt key = .error (.refused .signingFailed) := by
  unfold check signatureFor sign
  rw [h]

/-- A signature that is another one ends the check. -/
theorem check_of_other_signature {signature : String}
    (hsign : signatureFor key token.identity token.expiration salt
      = .ok signature)
    (hne : signature ≠ token.signature) :
    check now token salt key = .error (.refused .signatureMismatch) := by
  unfold check
  rw [hsign]
  show (if signature = token.signature then _ else _) = _
  rw [if_neg hne]

/-- Where all demands up to the signature are met, what the second piece
spells decides. -/
theorem validate_eq_checkExpiration {expiration : String}
    (hcut : IsCut text first second third)
    (hspells : Base64url.decodeText second = .ok expiration)
    (h : MetBefore now text salt key Demand.timestamp.place) :
    validate now text salt key = checkExpiration now expiration := by
  obtain ⟨token, hread⟩ := exists_ofText_of_met (h.mono (by decide))
  obtain ⟨-, hsecond, -⟩ := hcut.pieces_eq hread
  rw [hsecond, Base64url.decodeText_encodeText] at hspells
  cases hspells
  rw [validate_of_ofText hread,
    check_eq_checkExpiration (signatureFor_of_met hread h)]

/-- The first demand that is not met decides, since the judgement goes
through them in this order. -/
theorem validate_of_firstUnmet (h : FirstUnmet now text salt key failure) :
    validate now text salt key = .error failure := by
  obtain ⟨demand, hunmet, hfirst⟩ := h
  cases hunmet with
  | form hcut => exact validate_of_unreadable (ofText_of_not_isCut hcut)
  | identity hcut hspelling =>
      apply validate_of_unreadable
      rw [ofText_of_isCut hcut, ofPieces_of_identity hspelling]
  | @expiration first second third e hcut hspelling =>
      apply validate_of_unreadable
      cases hname : Base64url.decodeText first with
      | error e =>
          exact absurd (.identity hcut hname) (hfirst .identity _ (by decide))
      | ok name =>
          rw [ofText_of_isCut hcut, ofPieces_of_expiration hname hspelling]
  | key husable =>
      obtain ⟨token, hread⟩ := exists_ofText_of_met hfirst
      rw [validate_of_ofText hread, check_of_unusable husable]
  | signature hcut hsign hne =>
      obtain ⟨token, hread⟩ := exists_ofText_of_met (hfirst.mono (by decide))
      obtain ⟨rfl, rfl, rfl⟩ := hcut.pieces_eq hread
      rw [validate_of_ofText hread, check_of_other_signature hsign hne]
  | malformed hcut hspells hparse =>
      rw [validate_eq_checkExpiration hcut hspells hfirst,
        checkExpiration, hparse]
  | outOfRange hcut hspells hparse =>
      rw [validate_eq_checkExpiration hcut hspells hfirst,
        checkExpiration, hparse]
  | @lifetime first second third expiration deadline hcut hspells hparse
      hpast =>
      have hnot : ¬ now ≤ deadline := Nat.not_le_of_lt hpast
      rw [validate_eq_checkExpiration hcut hspells (hfirst.mono (by decide)),
        checkExpiration_of_parse hparse, if_neg hnot]

/-- A text of which all demands but the last are met passes up to an instant and
has expired after it. -/
theorem exists_deadline_of_met
    (h : MetBefore now text salt key Demand.lifetime.place) :
    ∃ first second third expiration deadline, IsCut text first second third
      ∧ Base64url.decodeText second = .ok expiration
      ∧ Timestamp.parse expiration = .ok deadline
      ∧ ∀ clock, validate clock text salt key
        = if clock ≤ deadline then .ok () else .error (.refused .expired) := by
  obtain ⟨token, hread⟩ := exists_ofText_of_met (h.mono (by decide))
  have hcut := isCut_of_ofText hread
  have hspells := Base64url.decodeText_encodeText token.expiration
  cases hparse : Timestamp.parse token.expiration with
  | error cause =>
      cases cause with
      | malformed =>
          exact absurd (.malformed hcut hspells hparse)
            (h .timestamp _ (by decide))
      | outOfRange =>
          exact absurd (.outOfRange hcut hspells hparse)
            (h .timestamp _ (by decide))
  | ok deadline =>
      refine ⟨_, _, _, _, deadline, hcut, hspells, hparse, fun clock => ?_⟩
      -- up to the signature no demand looks at the clock
      have hsigned : MetBefore clock text salt key Demand.timestamp.place := by
        intro demand failure hlt hunmet
        have hplace : demand.place < Demand.lifetime.place :=
          Nat.lt_trans hlt (by decide)
        exact h demand failure hplace ((unmet_iff_of_clock hplace).1 hunmet)
      rw [validate_eq_checkExpiration hcut hspells hsigned,
        checkExpiration_of_parse hparse]

/-- Where nothing is amiss the text passes. -/
theorem validate_of_met
    (h : ∀ demand failure, ¬ Unmet now text salt key demand failure) :
    validate now text salt key = .ok () := by
  obtain ⟨_, _, _, _, deadline, hcut, hspells, hparse, hclock⟩ :=
    exists_deadline_of_met fun demand failure _ => h demand failure
  have hle : now ≤ deadline := by
    apply Nat.le_of_not_lt
    intro hpast
    exact h .lifetime _ (.lifetime hcut hspells hparse hpast)
  rw [hclock, if_pos hle]

/-- A text fails by the first demand that is not met. -/
theorem validate_eq_error_iff :
    validate now text salt key = .error failure
      ↔ FirstUnmet now text salt key failure := by
  refine ⟨?_, validate_of_firstUnmet⟩
  intro h
  by_cases hunmet : ∃ demand other, Unmet now text salt key demand other
  · obtain ⟨demand, other, hunmet⟩ := hunmet
    obtain ⟨first, reported, -, hreported, hearlier⟩ := exists_firstUnmet hunmet
    have hfirst : FirstUnmet now text salt key reported :=
      ⟨first, hreported, hearlier⟩
    rw [validate_of_firstUnmet hfirst] at h
    cases h
    exact hfirst
  · rw [validate_of_met fun demand other hother =>
      hunmet ⟨demand, other, hother⟩] at h
    cases h

/-- A text passes when every demand is met. -/
theorem validate_eq_ok_iff_met :
    validate now text salt key = .ok ()
      ↔ ∀ demand failure, ¬ Unmet now text salt key demand failure := by
  refine ⟨?_, validate_of_met⟩
  intro h demand failure hunmet
  obtain ⟨first, reported, -, hreported, hearlier⟩ := exists_firstUnmet hunmet
  rw [validate_of_firstUnmet ⟨first, hreported, hearlier⟩] at h
  cases h

-- ======================================================== two judgements

/-- Two judgements have one outcome if they agree on all the demands up to a
place, and one of these is not met. -/
theorem FirstUnmet.of_same {bound : Nat}
    (hsame : ∀ demand failure, demand.place < bound →
      (Unmet now text salt key demand failure
        ↔ Unmet later text otherSalt otherKey demand failure))
    (hunmet : Unmet now text salt key demand failure)
    (hbound : demand.place < bound)
    (hfirst : MetBefore now text salt key demand.place) :
    FirstUnmet later text otherSalt otherKey failure := by
  refine ⟨demand, (hsame demand failure hbound).1 hunmet, ?_⟩
  intro earlier other hlt hearlier
  exact hfirst earlier other hlt
    ((hsame earlier other (Nat.lt_trans hlt hbound)).2 hearlier)

/-- What comes only of demands on which two judgements agree, comes of both. -/
theorem validate_of_same {bound : Nat}
    (hsame : ∀ demand failure, demand.place < bound →
      (Unmet now text salt key demand failure
        ↔ Unmet later text otherSalt otherKey demand failure))
    (hbound : ∀ demand, Unmet now text salt key demand failure →
      demand.place < bound)
    (h : validate now text salt key = .error failure) :
    validate later text otherSalt otherKey = .error failure := by
  obtain ⟨demand, hunmet, hfirst⟩ := validate_eq_error_iff.1 h
  apply validate_of_firstUnmet
  exact FirstUnmet.of_same hsame hunmet (hbound demand hunmet) hfirst

/-- What a text is refused for before the key is asked for, it is refused for
with every salt and every key and at every instant. -/
theorem validate_of_unmet_text {reason : Refusal}
    (hreason : reason ∈
      [Refusal.formatInvalid, .identityUndecodable, .expirationUndecodable])
    (h : validate now text salt key = .error (.refused reason))
    (later : Instant) (otherSalt : String) (otherKey : Key) :
    validate later text otherSalt otherKey = .error (.refused reason) := by
  refine validate_of_same (fun _ _ => unmet_iff_of_text) ?_ h
  intro demand hunmet
  cases hunmet with
  | form => decide
  | identity => decide
  | expiration => decide
  | _ => exact absurd hreason (by decide)

/-- What a text is refused for before its expiration is read, it is refused for
at every instant. -/
theorem validate_of_unmet_signature {reason : Refusal}
    (hreason : reason ∈ [Refusal.signingFailed, .signatureMismatch])
    (h : validate now text salt key = .error (.refused reason))
    (later : Instant) :
    validate later text salt key = .error (.refused reason) := by
  refine validate_of_same (fun _ _ => unmet_iff_of_clock) ?_ h
  intro demand hunmet
  cases hunmet with
  | key => decide
  | signature => decide
  | _ => exact absurd hreason (by decide)

/-- The clock has no say in what becomes of a text, or else the text passes up
to an instant and has expired after it. -/
theorem validate_over_time (text salt : String) (key : Key) :
    (∃ outcome, ∀ now, validate now text salt key = outcome)
      ∨ ∃ deadline, ∀ now, validate now text salt key
          = if now ≤ deadline then .ok () else .error (.refused .expired) := by
  by_cases hunmet : ∃ demand failure, demand.place < Demand.lifetime.place
      ∧ Unmet .first text salt key demand failure
  · left
    obtain ⟨demand, failure, hplace, hunmet⟩ := hunmet
    obtain ⟨first, reported, hle, hreported, hearlier⟩ :=
      exists_firstUnmet hunmet
    refine ⟨.error reported, fun now => validate_of_firstUnmet ?_⟩
    exact FirstUnmet.of_same (fun _ _ => unmet_iff_of_clock) hreported
      (Nat.lt_of_le_of_lt hle hplace) hearlier
  · right
    have hmet : MetBefore .first text salt key Demand.lifetime.place := by
      intro demand failure hplace hother
      exact hunmet ⟨demand, failure, hplace, hother⟩
    obtain ⟨_, _, _, _, deadline, -, -, -, hclock⟩ :=
      exists_deadline_of_met hmet
    exact ⟨deadline, hclock⟩

/-- The judgement of a text. It fails by the first demand that is not met, and
passes if all are met. What is wrong with its form or its spelling is wrong
with every salt and every key and at every instant; that the key cannot sign,
or that the signature is another one, is told at every instant, whatever the
expiration is; and as time goes by, the outcome stays as it is, or changes
once, at the end of the lifetime. -/
theorem validate_judged_in_order (text : String) :
    (∀ now salt key,
      (∀ failure, validate now text salt key = .error failure
        ↔ FirstUnmet now text salt key failure)
      ∧ (validate now text salt key = .ok ()
        ↔ ∀ demand failure, ¬ Unmet now text salt key demand failure))
    ∧ (∀ reason ∈ [Refusal.formatInvalid, .identityUndecodable,
        .expirationUndecodable],
        ∀ now salt key, validate now text salt key = .error (.refused reason) →
        ∀ later otherSalt otherKey,
          validate later text otherSalt otherKey = .error (.refused reason))
    ∧ (∀ reason ∈ [Refusal.signingFailed, .signatureMismatch],
        ∀ now salt key, validate now text salt key = .error (.refused reason) →
        ∀ later, validate later text salt key = .error (.refused reason))
    ∧ ∀ salt key,
        (∃ outcome, ∀ now, validate now text salt key = outcome)
        ∨ ∃ deadline, ∀ now, validate now text salt key
            = if now ≤ deadline then .ok ()
                else .error (.refused .expired) := by
  refine ⟨?first, ?text, ?signature, ?clock⟩
  case first =>
    intro now salt key
    exact ⟨fun failure => validate_eq_error_iff, validate_eq_ok_iff_met⟩
  case text =>
    intro reason hreason now salt key h
    exact validate_of_unmet_text hreason h
  case signature =>
    intro reason hreason now salt key h
    exact validate_of_unmet_signature hreason h
  case clock => exact validate_over_time text

/-- A text with an identity that is not spelled right, judged with no key that
could sign: the spelling comes first. -/
example (now : Instant) (salt : String) :
    validate now "!.AA.x" salt .other
      = .error (.refused .identityUndecodable) := by
  have hread : ofText "!.AA.x" = .error .identityUndecodable := by rfl
  exact validate_of_unreadable hread

end StatelessAuth.Token
