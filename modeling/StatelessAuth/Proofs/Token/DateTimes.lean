/-
Which expirations are honoured. A token passes, or counts as expired,
only if its expiration is read, and what is read are the date-times of
RFC 3339 but for leap seconds, and a few texts more
(`check_honours_dateTimes`).

# What is too much

The hours and the minutes of a day are asked for one by one. Of an
offset only the sum is: it has to be less than a day. So the hours of an
offset are in their bounds, and its minutes need not be, since 99
minutes are less than a day as well (`Timestamp.IsOverfull`). This is
the only text too many; whatever else is no date-time is refused as
unreadable, if it is signed.
-/
import StatelessAuth.Proofs.Timestamp.Exactness
import StatelessAuth.Proofs.Token.Failures

namespace StatelessAuth

namespace Timestamp

open Text

-- ============================================================== date-times

/-- The hours by which a clock is off, as they are spelt. -/
def Zone.hours : Zone → Nat
  | utc .. => 0
  | clock _ _ hours _ => hours.value

/-- The minutes beside the hours by which a clock is off, as they are spelt. -/
def Zone.minutes : Zone → Nat
  | utc .. => 0
  | clock _ _ _ minutes => minutes.value

namespace Spelling

/-- A date-time of RFC 3339: the date exists, and each part of the time
and of the offset is in its bounds. A minute may have a leap second. -/
structure IsDateTime (s : Spelling) : Prop where
  date : s.date.Occurs
  hour : s.hour.value ≤ 23
  minute : s.minute.value ≤ 59
  second : s.second.value ≤ 60
  zoneHours : s.zone.hours ≤ 23
  zoneMinutes : s.zone.minutes ≤ 59

end Spelling

/-- The text is a date-time of RFC 3339. -/
def IsDateTime (text : String) : Prop :=
  ∃ s : Spelling, s.chars = text.toList ∧ s.IsDateTime

/-- The text names a time that exists, and a whole hour or more stands in the
minutes of its offset. -/
def IsOverfull (text : String) : Prop :=
  ∃ s : Spelling, s.chars = text.toList ∧ s.Occurs ∧ 60 ≤ s.zone.minutes

theorem Zone.size_eq (zone : Zone) :
    zone.size = zone.hours * 60 + zone.minutes := by
  cases zone with
  | utc letter h => rfl
  | clock sign h hours minutes => rfl

/-- A time that exists has its parts in their bounds if its offset has. -/
theorem Spelling.Occurs.isDateTime {s : Spelling} (h : s.Occurs)
    (hminutes : s.zone.minutes ≤ 59) : s.IsDateTime := by
  have hzone := h.zone
  rw [Zone.size_eq] at hzone
  exact ⟨h.date, Nat.le_of_lt_succ h.hour, Nat.le_of_lt_succ h.minute,
    Nat.le_of_lt h.second, by omega, hminutes⟩

variable {text : String}

/-- What is read is a date-time, or its offset has a whole hour too many
in the minutes. -/
theorem isDateTime_or_isOverfull (h : parse text ≠ .error .malformed) :
    IsDateTime text ∨ IsOverfull text := by
  obtain ⟨s, hs⟩ := exists_spelling_of_parse h
  have hoccurs : s.Occurs := by
    by_contra hnot
    exact h ((parse_eq_malformed_iff hs).2 hnot)
  by_cases hminutes : s.zone.minutes ≤ 59
  · exact .inl ⟨s, hs, hoccurs.isDateTime hminutes⟩
  · exact .inr ⟨s, hs, hoccurs, Nat.lt_of_not_le hminutes⟩

/-- An overfull offset does not keep a text from being read. -/
theorem parse_ne_malformed_of_isOverfull (h : IsOverfull text) :
    parse text ≠ .error .malformed := by
  obtain ⟨s, hs, hoccurs, -⟩ := h
  intro hmalformed
  exact (parse_eq_malformed_iff hs).1 hmalformed hoccurs

/-- Two digits at the end of a text are the minutes of its offset. -/
theorem Spelling.zone_minutes_eq {s : Spelling} {front : List Char} {a b : Char}
    (h : s.chars = front ++ [a, b]) (hdigit : isDigit b = true) :
    s.zone.minutes = ofDigits [a, b] := by
  -- the offset stands at the end of a spelling
  obtain ⟨before, hbefore⟩ : ∃ before, s.chars = before ++ s.zone.chars :=
    ⟨s.year.digits ++ '-' ::
      (s.month.digits ++ '-' :: (s.dayOfMonth.digits ++ s.mark ::
        (s.hour.digits ++ ':' :: (s.minute.digits ++ ':' :: (s.second.digits
        ++ s.fraction.chars))))), by simp [Spelling.chars]⟩
  cases hzone : s.zone with
  | utc letter hletter =>
      -- a letter for UTC is no digit
      have hlast : letter = b := by
        rw [hbefore, hzone, Zone.chars] at h
        have := congrArg List.getLast? h
        simpa using this
      rw [← hlast] at hdigit
      rcases hletter with rfl | rfl
      · exact absurd hdigit (by decide)
      · exact absurd hdigit (by decide)
  | clock sign hsign hours minutes =>
      have hsuffix : (before ++ sign :: (hours.digits ++ [':']))
          ++ minutes.digits = front ++ [a, b] := by
        rw [← h, hbefore, hzone, Zone.chars]
        simp
      have hlength : minutes.digits.length = [a, b].length := minutes.length_eq
      obtain ⟨-, hminutes⟩ := List.append_inj' hsuffix hlength
      rw [Zone.minutes, Numeral.value, hminutes]

end Timestamp

namespace Token

variable {now : Instant} {token : Token} {salt : String} {key : Key}

/-- Of what is signed, that is unreadable whose expiration is
malformed. -/
theorem check_eq_unparseable_iff
    (hsigned : signatureFor key token.identity token.expiration salt
      = .ok token.signature) :
    check now token salt key = .error (.refused .expirationUnparseable)
      ↔ Timestamp.parse token.expiration = .error .malformed := by
  rw [check_eq_checkExpiration hsigned]
  unfold checkExpiration
  split
  case h_1 hparse => simp [hparse]
  case h_2 hparse => simp [hparse]
  case h_3 deadline hparse =>
    rw [hparse]
    split
    · simp
    · simp

/-- An expiration that is not read is no reason to call a token expired,
signed or not. -/
theorem check_of_malformed (now : Instant) (salt : String) (key : Key)
    (h : Timestamp.parse token.expiration = .error .malformed) :
    ∃ reason, reason ≠ .expired
      ∧ check now token salt key = .error (.refused reason) := by
  cases husable : key.usable? with
  | none => exact ⟨.signingFailed, nofun, check_of_unusable husable⟩
  | some secret =>
      obtain ⟨signature, hsign⟩ :
          ∃ signature, signatureFor key token.identity token.expiration salt
            = .ok signature :=
        ⟨_, sign_eq_ok_iff.2 ⟨secret, husable, rfl⟩⟩
      by_cases hsame : signature = token.signature
      · rw [hsame] at hsign
        exact ⟨.expirationUnparseable, nofun,
          (check_eq_unparseable_iff hsign).2 h⟩
      · exact ⟨.signatureMismatch, nofun, check_of_other_signature hsign hsame⟩

/-- What passes or has expired was read. -/
theorem parse_ne_malformed_of_check
    (h : check now token salt key = .ok ()
      ∨ check now token salt key = .error (.refused .expired)) :
    Timestamp.parse token.expiration ≠ .error .malformed := by
  intro hmalformed
  obtain ⟨reason, hother, hcheck⟩ := check_of_malformed now salt key hmalformed
  rw [hcheck] at h
  rcases h with h | h
  · cases h
  · cases h
    exact hother rfl

/-- What passes or has expired has a date-time for its expiration, or
one with an overfull offset. Any other expiration that is signed is
unreadable, and one with an overfull offset is not. What is signed
passes, has expired or is unreadable, unless its expiration leaves the
calendar. -/
theorem check_honours_dateTimes (now : Instant) (token : Token)
    (salt : String) (key : Key) :
    (check now token salt key = .ok ()
      ∨ check now token salt key = .error (.refused .expired) →
        Timestamp.IsDateTime token.expiration
        ∨ Timestamp.IsOverfull token.expiration)
      ∧ (signatureFor key token.identity token.expiration salt
          = .ok token.signature →
          (¬ Timestamp.IsDateTime token.expiration →
            (check now token salt key = .error (.refused .expirationUnparseable)
              ↔ ¬ Timestamp.IsOverfull token.expiration))
          ∧ (¬ Timestamp.LeavesCalendar token.expiration →
            check now token salt key = .ok ()
              ∨ check now token salt key = .error (.refused .expired)
              ∨ check now token salt key
                = .error (.refused .expirationUnparseable))) := by
  refine ⟨?honoured, fun hsigned => ⟨?others, ?kept⟩⟩
  case honoured =>
    intro h
    exact Timestamp.isDateTime_or_isOverfull (parse_ne_malformed_of_check h)
  case others =>
    intro hnot
    rw [check_eq_unparseable_iff hsigned]
    constructor
    · intro hmalformed hoverfull
      exact Timestamp.parse_ne_malformed_of_isOverfull hoverfull hmalformed
    · intro hnone
      by_contra hread
      rcases Timestamp.isDateTime_or_isOverfull hread with h | h
      · exact hnot h
      · exact hnone h
  case kept =>
    intro hkept
    cases hparse : Timestamp.parse token.expiration with
    | error cause =>
        cases cause with
        | malformed =>
            exact .inr (.inr ((check_eq_unparseable_iff hsigned).2 hparse))
        | outOfRange =>
            exact absurd (Timestamp.parse_eq_outOfRange_iff.1 hparse) hkept
    | ok deadline =>
        rw [check_of_signed hsigned hparse]
        by_cases hle : now ≤ deadline
        · exact .inl (if_pos hle)
        · exact .inr (.inl (if_neg hle))

/-- A token for the eightieth minute of an hour, signed all the same, is
refused as unreadable. -/
theorem check_honours_dateTimes_of_eightieth :
    ∃ token : Token, token.expiration = "2023-05-17T15:80:00Z"
      ∧ signatureFor (.bytes [107]) token.identity token.expiration "salt"
          = .ok token.signature
      ∧ ¬ Timestamp.IsDateTime token.expiration
      ∧ check .first token "salt" (.bytes [107])
          = .error (.refused .expirationUnparseable) := by
  obtain ⟨signature, hsigned⟩ : ∃ signature,
      signatureFor (.bytes [107]) "fx-ident-01" "2023-05-17T15:80:00Z" "salt"
        = .ok signature :=
    ⟨_, sign_eq_ok_iff.2 ⟨[107], rfl, rfl⟩⟩
  have hminute : ∀ s : Timestamp.Spelling,
      s.chars = "2023-05-17T15:80:00Z".toList → s.minute.value = 80 := by
    intro s hs
    have hscan := Timestamp.scan?_chars s
    rw [hs] at hscan
    have hread : (Timestamp.scan? "2023-05-17T15:80:00Z".toList).map
        (·.time.minute) = some 80 := by
      decide
    rw [hscan] at hread
    exact Option.some.inj hread
  have hnot : ¬ Timestamp.IsDateTime "2023-05-17T15:80:00Z" := by
    rintro ⟨s, hs, hdateTime⟩
    have := hdateTime.minute
    rw [hminute s hs] at this
    exact absurd this (by decide)
  have hnone : ¬ Timestamp.IsOverfull "2023-05-17T15:80:00Z" := by
    rintro ⟨s, hs, hoccurs, -⟩
    have := hoccurs.minute
    rw [hminute s hs] at this
    exact absurd this (by decide)
  obtain ⟨-, hothers⟩ := check_honours_dateTimes .first
    ⟨"fx-ident-01", "2023-05-17T15:80:00Z", signature⟩ "salt" (.bytes [107])
  exact ⟨⟨"fx-ident-01", "2023-05-17T15:80:00Z", signature⟩, rfl, hsigned, hnot,
    ((hothers hsigned).1 hnot).2 hnone⟩

/-- A token for the beginning of the year 2030 on a clock that is ninety-nine
minutes ahead, signed with the key of the one byte 107 and the salt "salt". -/
def overfull : Token :=
  ⟨"ana", "2030-01-01T00:00:00+00:99",
    "HfM8TE3m20L58krfLTStYzyreqci8xHq306DOKO5Gn3VEEIm5jT-yFcy5L1-q0fIhubSuMdsA1DiE5PBWcXTvQ"⟩

/-- At the beginning of the year 2024 it passes, and its expiration is no
date-time. -/
theorem overfull_passes :
    ¬ Timestamp.IsDateTime overfull.expiration
      ∧ check ⟨63839664000000000, by decide⟩ overfull "salt" (.bytes [107])
          = .ok () := by
  constructor
  · rintro ⟨s, hs, hdateTime⟩
    have hend : s.chars = "2030-01-01T00:00:00+00:".toList ++ ['9', '9'] := by
      rw [hs]
      decide
    have hminutes := hdateTime.zoneMinutes
    rw [Timestamp.Spelling.zone_minutes_eq hend (by decide)] at hminutes
    exact absurd hminutes (by decide)
  · decide +kernel

end Token

end StatelessAuth
