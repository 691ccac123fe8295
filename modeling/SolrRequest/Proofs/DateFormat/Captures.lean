import SolrRequest.DateFormat.Reading
import SolrRequest.Proofs.DateFormat.Spelling

/-!
# What a shown date and time denotes

Tokens that took the texts in which they show a date and time give its numbers back. Where a token
stands among the others plays no part.
-/

namespace SolrRequest

open Text Integer

theorem TimeOfDay.of_eq_ok {hour minute second micro : Nat} (hourBound : hour < 24)
    (minuteBound : minute < 60) (secondBound : second < 60) (microBound : micro < 1000000) :
    TimeOfDay.of hour minute second micro =
      .ok ⟨hour, minute, second, micro, hourBound, minuteBound, secondBound, microBound⟩ := by
  rw [TimeOfDay.of, dif_pos hourBound, dif_pos minuteBound, dif_pos secondBound]
  simp only [Nat.mod_eq_of_lt microBound]

namespace Captures

variable {c : Captures} {first date : Date} {time : TimeOfDay}

theorem toDateTime_of_month (noEpoch : c.last? .epoch = none)
    (noDayOfYear : c.number? .dayOfYear = none)
    (dated : Date.of c.year (c.numberOr .paddedMonth .month 1) (c.numberOr .paddedDay .day 1) =
      .ok date)
    (timed : TimeOfDay.of c.hour (c.numberOr .paddedMinute .minute 0)
      (c.numberOr .paddedSecond .second 0) c.micro = .ok time) :
    c.toDateTime = .ok ⟨date, time, (c.last? .offset).map offsetSeconds⟩ := by
  have noMillis : c.epoch? = none := by rw [epoch?, noEpoch, Option.map_none]
  simp only [toDateTime, noMillis, noDayOfYear, Option.isSome_none, Bool.false_eq_true, if_false,
    dated, timed]
  rfl

theorem toDateTime_of_dayOfYear {n : Nat} (noEpoch : c.last? .epoch = none)
    (dayOfYear : c.number? .dayOfYear = some n) (started : Date.of c.year 1 1 = .ok first)
    (counted : first.plusDays ((n : Int) - 1) = .ok date)
    (timed : TimeOfDay.of c.hour (c.numberOr .paddedMinute .minute 0)
      (c.numberOr .paddedSecond .second 0) c.micro = .ok time) :
    c.toDateTime = .ok ⟨date, time, (c.last? .offset).map offsetSeconds⟩ := by
  have noMillis : c.epoch? = none := by rw [epoch?, noEpoch, Option.map_none]
  simp only [toDateTime, noMillis, dayOfYear, Option.isSome_some, if_true, started, timed]
  simp only [bind, Except.bind, counted]
  rfl

end Captures

namespace DateTime

def captures (t : DateTime) (tokens : List Token) : Captures :=
  tokens.map fun token => (token, t.shown token)

variable {t : DateTime} {tokens : List Token} {token : Token}

theorem last?_captures (t : DateTime) (tokens : List Token) (token : Token) :
    (t.captures tokens).last? token = if token ∈ tokens then some (t.shown token) else none := by
  rw [Captures.last?, captures, ← List.map_reverse, List.find?_map]
  cases found : List.find? ((fun p => p.1 == token) ∘ fun token => (token, t.shown token))
      tokens.reverse with
  | none =>
    rw [List.find?_eq_none] at found
    rw [if_neg fun membership => found token (List.mem_reverse.mpr membership) (beq_self_eq_true _)]
    rfl
  | some other =>
    have same := List.find?_some found
    obtain rfl : other = token := beq_iff_eq.mp same
    rw [if_pos (List.mem_reverse.mp (List.mem_of_find?_eq_some found))]
    rfl

theorem offsetSeconds_offsetChars {o : Int} (whole : o % 60 = 0) (bounded : o.natAbs < 86400) :
    Captures.offsetSeconds (offsetChars o) = o := by
  have noDigit : digit? ':' = none := by decide
  have sign : ((if o < 0 then '-' else '+') == '-') = decide (o < 0) := by
    split <;> simp_all
  simp only [offsetChars, Captures.offsetSeconds, Captures.digitsOf, List.filterMap_cons,
    List.filterMap_nil, digit?_asciiDigit, noDigit, List.take, List.drop, ofDigits,
    List.foldl_cons, List.foldl_nil, sign, signed, decide_eq_true_eq]
  split <;> omega

theorem digitsOf_shown {width n : Nat} (field : t.field? token = some (width, n)) :
    Captures.digitsOf (t.shown token) = paddedDigits width n := by
  rw [shown_of_field? field, Captures.digitsOf, List.filterMap_map]
  conv_rhs => rw [← List.filterMap_some (l := paddedDigits width n)]
  refine List.filterMap_congr fun d membership => ?_
  exact digit?_asciiDigit_of_lt (lt_ten_of_mem_paddedDigits membership)

theorem number?_captures {width n : Nat} (field : t.field? token = some (width, n)) :
    (t.captures tokens).number? token = if token ∈ tokens then some n else none := by
  rw [Captures.number?, last?_captures]
  split
  · rw [Option.map_some, digitsOf_shown field, ofDigits_paddedDigits]
  · rfl

variable {padded bare : Token} {paddedWidth bareWidth n : Nat}

/-- Two tokens show the same number, in whatever width. -/
theorem or_number?_captures (paddedField : t.field? padded = some (paddedWidth, n))
    (bareField : t.field? bare = some (bareWidth, n)) :
    ((t.captures tokens).number? padded).or ((t.captures tokens).number? bare) =
      if padded ∈ tokens ∨ bare ∈ tokens then some n else none := by
  rw [number?_captures paddedField, number?_captures bareField]
  by_cases paddedStands : padded ∈ tokens
  · simp [paddedStands]
  · simp [paddedStands]

theorem numberOr_captures (paddedField : t.field? padded = some (paddedWidth, n))
    (bareField : t.field? bare = some (bareWidth, n)) (absent : Nat) :
    (t.captures tokens).numberOr padded bare absent =
      if padded ∈ tokens ∨ bare ∈ tokens then n else absent := by
  rw [Captures.numberOr, or_number?_captures paddedField bareField]
  split <;> rfl

theorem afternoon_captures (half : .halfDay ∈ tokens) :
    (t.captures tokens).afternoon = decide (12 ≤ t.time.hour) := by
  rw [Captures.afternoon, last?_captures, if_pos half]
  by_cases afternoon : 12 ≤ t.time.hour
  · simp [shown, part, afternoon, Except.toOption]
  · simp [shown, part, afternoon, Except.toOption]

/-- The hour on a clock with twelve hours and the half of the day make up the hour. -/
theorem hour_captures_of_clock (clock : .paddedClockHour ∈ tokens ∨ .clockHour ∈ tokens)
    (half : .halfDay ∈ tokens) : (t.captures tokens).hour = t.time.hour := by
  have bounded := t.time.hour_lt
  rw [Captures.hour, or_number?_captures (t := t) rfl rfl, if_pos clock]
  simp only [afternoon_captures half, decide_eq_true_eq, clockHour]
  split <;> split <;> omega

theorem hour_captures (noClock : ¬(.paddedClockHour ∈ tokens ∨ .clockHour ∈ tokens)) :
    (t.captures tokens).hour =
      if .paddedHour ∈ tokens ∨ .hour ∈ tokens then t.time.hour else 0 := by
  rw [Captures.hour, or_number?_captures (t := t) rfl rfl, if_neg noClock]
  exact numberOr_captures rfl rfl 0

theorem micro_captures : (t.captures tokens).micro =
    if .fraction ∈ tokens then t.time.micro / 1000 * 1000 else 0 := by
  have micro := t.time.micro_lt
  have length : (paddedDigits 3 (t.time.micro / 1000)).length = 3 := by
    rw [length_paddedDigits]
    exact Nat.max_eq_left (length_digits_le (by decide) (by omega))
  have all : (paddedDigits 3 (t.time.micro / 1000)).take 6 = paddedDigits 3 (t.time.micro / 1000) :=
    List.take_of_length_le (by omega)
  have digits : Captures.digitsOf (t.shown .fraction) = paddedDigits 3 (t.time.micro / 1000) :=
    digitsOf_shown rfl
  rw [Captures.micro, last?_captures]
  split_ifs with stands
  · simp [digits, all, length, ofDigits_paddedDigits]
  · rfl

theorem offset_captures (tellable : t.HasTellableOffset) :
    ((t.captures tokens).last? .offset).map Captures.offsetSeconds =
      if .offset ∈ tokens then some (t.offset.getD 0) else none := by
  obtain ⟨whole, bounded⟩ := tellable.getD
  rw [last?_captures]
  split
  · rw [Option.map_some, shown_offset tellable, offsetSeconds_offsetChars whole bounded]
  · rfl

end DateTime

end SolrRequest
