import SolrRequest.Proofs.Calendar.DayNumber
import SolrRequest.Proofs.DateFormat.Matching
import SolrRequest.Proofs.Number.Digits

/-!
# The parts of a date as text

Every numeric token shows a number of the date and time in some width. That number has no more
digits than the token takes, so that the text is one that the token takes. An offset of whole
minutes is shown in full.
-/

namespace SolrRequest

open Text Integer

namespace DateTime

/-- The width and the number in which a numeric token shows a date and time. -/
def field? (t : DateTime) : Token → Option (Nat × Nat)
  | .year => some (4, t.date.year)
  | .shortYear => some (2, t.date.year % 100)
  | .dayOfYear => some (1, t.date.dayOfYear)
  | .paddedDay => some (2, t.date.day)
  | .day => some (1, t.date.day)
  | .paddedMonth => some (2, t.date.month)
  | .month => some (1, t.date.month)
  | .paddedHour => some (2, t.time.hour)
  | .hour => some (1, t.time.hour)
  | .paddedClockHour => some (2, t.clockHour)
  | .clockHour => some (1, t.clockHour)
  | .paddedMinute => some (2, t.time.minute)
  | .minute => some (1, t.time.minute)
  | .fraction => some (3, t.time.micro / 1000)
  | .paddedSecond => some (2, t.time.second)
  | .second => some (1, t.time.second)
  | .halfDay => none
  | .offset => none
  | .epoch => none

/-- The text of a token; nothing if the date and time has none. -/
def shown (t : DateTime) (token : Token) : List Char :=
  ((t.part token).toOption.getD "").toList

variable {t : DateTime} {token : Token} {width n : Nat}

theorem part_of_field? (field : t.field? token = some (width, n)) :
    t.part token = .ok (padded width n) := by
  cases token <;> cases field <;> rfl

theorem shown_of_field? (field : t.field? token = some (width, n)) :
    t.shown token = (paddedDigits width n).map asciiDigit := by
  rw [shown, part_of_field? field]
  exact toList_padded width n

theorem clockHour_bounds (t : DateTime) : 1 ≤ t.clockHour ∧ t.clockHour ≤ 12 := by
  unfold clockHour
  split <;> omega

/-- A field fits the digits that its token takes. -/
theorem bounds_of_field? (field : t.field? token = some (width, n)) :
    n < 10 ^ (Element.digitBounds token).2 ∧ (Element.digitBounds token).1 ≤ width ∧
      width ≤ (Element.digitBounds token).2 ∧ 0 < width := by
  have year := t.date.year_bounds
  have dayOfYear := t.date.dayOfYear_le
  have month := t.date.month_bounds
  have day := t.date.day_bounds
  have dayBound := Calendar.daysInMonth_le t.date.year t.date.month
  have clockHour := t.clockHour_bounds
  have hour := t.time.hour_lt
  have minute := t.time.minute_lt
  have second := t.time.second_lt
  have micro := t.time.micro_lt
  have yearBound : (if Calendar.isLeap t.date.year then 366 else 365) ≤ 366 := by
    split <;> omega
  cases token <;> cases field <;> simp only [Element.digitBounds] <;> omega

theorem takes_of_field? (field : t.field? token = some (width, n)) :
    token.Takes (t.shown token) := by
  obtain ⟨bounded, least, most, positive⟩ := bounds_of_field? field
  have enough : (Element.digitBounds token).1 ≤ (paddedDigits width n).length := by
    rw [length_paddedDigits]
    exact Nat.le_trans least (Nat.le_max_left _ _)
  have fits : (paddedDigits width n).length ≤ (Element.digitBounds token).2 := by
    rw [length_paddedDigits]
    exact Nat.max_le.mpr ⟨most, length_digits_le (Nat.lt_of_lt_of_le positive most) bounded⟩
  rw [shown_of_field? field]
  cases token with
  | halfDay => cases field
  | offset => cases field
  | epoch => cases field
  | _ => exact ⟨_, rfl, enough, fits⟩

theorem takes_halfDay (t : DateTime) : Token.halfDay.Takes (t.shown .halfDay) := by
  by_cases afternoon : 12 ≤ t.time.hour
  · exact .inr (by simp [shown, part, afternoon, Except.toOption])
  · exact .inl (by simp [shown, part, afternoon, Except.toOption])

theorem takes_shown (notOffset : token ≠ .offset) (notEpoch : token ≠ .epoch) :
    token.Takes (t.shown token) := by
  cases token with
  | halfDay => exact t.takes_halfDay
  | offset => exact absurd rfl notOffset
  | epoch => exact absurd rfl notEpoch
  | _ => exact takes_of_field? rfl

/-! ## The offset -/

/-- The offset, if there is one, is of whole minutes and less than a day. -/
def HasTellableOffset (t : DateTime) : Prop :=
  ∀ o ∈ t.offset, o % 60 = 0 ∧ o.natAbs < 86400

/-- The sign, hours and minutes of an offset; of seconds none are left. -/
def offsetChars (o : Int) : List Char :=
  let h := o.natAbs / 3600
  let m := o.natAbs / 60 % 60
  [if o < 0 then '-' else '+', asciiDigit (h / 10), asciiDigit (h % 10), ':',
    asciiDigit (m / 10), asciiDigit (m % 10)]

theorem HasTellableOffset.getD (tellable : t.HasTellableOffset) :
    t.offset.getD 0 % 60 = 0 ∧ (t.offset.getD 0).natAbs < 86400 := by
  cases offset : t.offset with
  | none => decide
  | some o => exact tellable o offset

theorem offsetText_eq_ok (tellable : t.HasTellableOffset) :
    t.offsetText = .ok (String.ofList (offsetChars (t.offset.getD 0))) := by
  obtain ⟨_, bounded⟩ := tellable.getD
  have told : t.offsetToTell = .ok t.offset := by
    cases offset : t.offset with
    | none => rw [offsetToTell, offset]
    | some o =>
      rw [offset] at bounded
      rw [offsetToTell, offset]
      exact if_pos bounded
  have hours : (t.offset.getD 0).natAbs / 3600 < 100 := by omega
  have minutes : (t.offset.getD 0).natAbs / 60 % 60 < 100 := by omega
  rw [offsetText, told]
  refine congrArg Except.ok (String.toList_inj.mp ?_)
  simp only [String.toList_append, toList_padded, paddedDigits_two hours, paddedDigits_two minutes,
    String.toList_ofList, offsetChars]
  split <;> rfl

theorem shown_offset (tellable : t.HasTellableOffset) :
    t.shown .offset = offsetChars (t.offset.getD 0) := by
  rw [shown, part, offsetText_eq_ok tellable]
  exact String.toList_ofList

theorem isOffset_shown (tellable : t.HasTellableOffset) : IsOffset (t.shown .offset) := by
  rw [shown_offset tellable]
  refine ⟨_, _, _, _, _, ?_, rfl⟩
  split <;> decide

theorem part_eq_ok (tellable : t.HasTellableOffset) (notEpoch : token ≠ .epoch) :
    t.part token = .ok (String.ofList (t.shown token)) := by
  obtain ⟨text, told⟩ : ∃ text, t.part token = .ok text := by
    cases token with
    | offset => exact ⟨_, offsetText_eq_ok tellable⟩
    | epoch => exact absurd rfl notEpoch
    | _ => exact ⟨_, rfl⟩
  rw [shown, told]
  exact congrArg Except.ok String.ofList_toList.symm

end DateTime

end SolrRequest
