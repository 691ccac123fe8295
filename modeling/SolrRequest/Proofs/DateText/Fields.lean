import SolrRequest.Proofs.Calendar.DayOfYear
import SolrRequest.Proofs.DateFormat.Captures
import SolrRequest.Proofs.DateFormat.Tokens
import SolrRequest.Proofs.DateText.Conversion
import SolrRequest.Proofs.DateText.Failure

/-!
# Fields of a date that was read

A date that is read from a text shows the numbers that are written there, with two exceptions. The
hour of a clock with twelve hours is taken modulo twelve, and a day of the year is counted on into
other years. All other fields that are out of range keep the text from being read.
-/

namespace SolrRequest

open Calendar

namespace DateTime

def number? (t : DateTime) (token : Token) : Option Nat :=
  (t.field? token).map Prod.snd

end DateTime

theorem Date.eq_of_of {year month day : Nat} {d : Date} (dated : Date.of year month day = .ok d) :
    d.year = year ∧ d.month = month ∧ d.day = day := by
  unfold Date.of at dated
  split_ifs at dated
  cases dated
  exact ⟨rfl, rfl, rfl⟩

theorem TimeOfDay.eq_of_of {hour minute second micro : Nat} {time : TimeOfDay}
    (timed : TimeOfDay.of hour minute second micro = .ok time) :
    time.hour = hour ∧ time.minute = minute ∧ time.second = second := by
  unfold TimeOfDay.of at timed
  split_ifs at timed
  cases timed
  exact ⟨rfl, rfl, rfl⟩

namespace Captures

variable {c : Captures} {r : DateTime}

/-- The hour on a clock with twelve hours, if one is written, is on that clock. -/
def HasClockHour (c : Captures) : Prop :=
  ∀ h ∈ (c.number? .paddedClockHour).or (c.number? .clockHour), 1 ≤ h ∧ h ≤ 12

/-- The day of the year, if one is written, is in the year. -/
def HasDayOfYear (c : Captures) : Prop :=
  ∀ n ∈ c.number? .dayOfYear, 1 ≤ n ∧ n ≤ daysInYear c.year

/-- What it takes for the number of a token to stay the same. -/
def Keeps (c : Captures) : Token → Prop
  | .paddedClockHour | .clockHour => c.HasClockHour
  | .year | .shortYear | .dayOfYear => c.HasDayOfYear
  | _ => True

/-- The fields of a date and time that captures denote. -/
structure Denotes (c : Captures) (r : DateTime) : Prop where
  year : r.date.year = c.year ↔ c.HasDayOfYear
  shortYear : r.date.year % 100 = c.year % 100 ↔ c.HasDayOfYear
  dayOfYear : ∀ n ∈ c.number? .dayOfYear, r.date.dayOfYear = n ↔ c.HasDayOfYear
  month : c.number? .dayOfYear = none → r.date.month = c.numberOr .paddedMonth .month 1
  day : c.number? .dayOfYear = none → r.date.day = c.numberOr .paddedDay .day 1
  hour : r.time.hour = c.hour
  minute : r.time.minute = c.numberOr .paddedMinute .minute 0
  second : r.time.second = c.numberOr .paddedSecond .second 0

theorem eq_ok_of_month (noEpoch : c.last? .epoch = none) (noDayOfYear : c.number? .dayOfYear = none)
    (denoted : c.toDateTime = .ok r) :
    Date.of c.year (c.numberOr .paddedMonth .month 1) (c.numberOr .paddedDay .day 1) = .ok r.date ∧
      TimeOfDay.of c.hour (c.numberOr .paddedMinute .minute 0) (c.numberOr .paddedSecond .second 0)
        c.micro = .ok r.time := by
  have noMillis : c.epoch? = none := by rw [epoch?, noEpoch, Option.map_none]
  simp only [toDateTime, noMillis, noDayOfYear, Option.isSome_none, Bool.false_eq_true, if_false]
    at denoted
  obtain ⟨date, dated, denoted⟩ := bind_eq_ok.mp denoted
  obtain ⟨time, timed, denoted⟩ := bind_eq_ok.mp denoted
  cases denoted
  exact ⟨dated, timed⟩

theorem eq_ok_of_dayOfYear {n : Nat} (noEpoch : c.last? .epoch = none)
    (dayOfYear : c.number? .dayOfYear = some n) (denoted : c.toDateTime = .ok r) :
    (∃ first, Date.of c.year 1 1 = .ok first ∧ first.plusDays ((n : Int) - 1) = .ok r.date) ∧
      TimeOfDay.of c.hour (c.numberOr .paddedMinute .minute 0) (c.numberOr .paddedSecond .second 0)
        c.micro = .ok r.time := by
  have noMillis : c.epoch? = none := by rw [epoch?, noEpoch, Option.map_none]
  simp only [toDateTime, noMillis, dayOfYear, Option.isSome_some, if_true] at denoted
  obtain ⟨first, started, denoted⟩ := bind_eq_ok.mp denoted
  obtain ⟨time, timed, denoted⟩ := bind_eq_ok.mp denoted
  obtain ⟨date, counted, denoted⟩ := bind_eq_ok.mp denoted
  cases denoted
  exact ⟨⟨first, started, counted⟩, timed⟩

theorem denotes_of_toDateTime (noEpoch : c.last? .epoch = none)
    (few : ∀ n ∈ c.number? .dayOfYear, n < 1000) (denoted : c.toDateTime = .ok r) :
    c.Denotes r := by
  cases dayOfYear : c.number? .dayOfYear with
  | none =>
    obtain ⟨dated, timed⟩ := eq_ok_of_month noEpoch dayOfYear denoted
    obtain ⟨year, month, day⟩ := Date.eq_of_of dated
    obtain ⟨hour, minute, second⟩ := TimeOfDay.eq_of_of timed
    have within : c.HasDayOfYear := by simp [HasDayOfYear, dayOfYear]
    have shortYear : r.date.year % 100 = c.year % 100 := congrArg (· % 100) year
    refine ⟨iff_of_true year within, iff_of_true shortYear within, ?_, fun _ => month, fun _ => day,
      hour, minute, second⟩
    rw [dayOfYear]
    rintro n ⟨⟩
  | some n =>
    obtain ⟨⟨first, started, counted⟩, timed⟩ := eq_ok_of_dayOfYear noEpoch dayOfYear denoted
    obtain ⟨hour, minute, second⟩ := TimeOfDay.eq_of_of timed
    obtain ⟨positive, isDay⟩ := Date.isDayFrom_of_plusDays started counted
    have within : c.HasDayOfYear ↔ 1 ≤ n ∧ n ≤ daysInYear c.year := by
      simp [HasDayOfYear, dayOfYear]
    have given {p : Prop} : c.number? .dayOfYear = none → p := by
      rw [dayOfYear]
      rintro ⟨⟩
    refine ⟨(isDay.year_eq_iff positive).trans within.symm,
      (isDay.year_mod_eq_iff positive (few n dayOfYear)).trans within.symm, ?_, given, given, hour,
      minute, second⟩
    rw [dayOfYear]
    rintro m ⟨⟩
    exact (isDay.dayOfYear_eq_iff positive).trans within.symm

theorem year_of_shortYear {n : Nat} (noYear : c.number? .year = none)
    (shortYear : c.number? .shortYear = some n) (small : n < 100) : c.year % 100 = n := by
  rw [year, noYear, shortYear]
  dsimp only
  split <;> omega

theorem hour_of_clock {n : Nat}
    (clock : (c.number? .paddedClockHour).or (c.number? .clockHour) = some n) :
    c.hour % 12 = n % 12 := by
  rw [hour, clock]
  dsimp only
  split <;> omega

theorem hour_of_noClock (noPaddedClock : c.number? .paddedClockHour = none)
    (noClock : c.number? .clockHour = none) : c.hour = c.numberOr .paddedHour .hour 0 := by
  rw [hour, noPaddedClock, noClock]
  rfl

theorem Denotes.clockHour_eq_iff (denotes : c.Denotes r) {n : Nat}
    (clock : (c.number? .paddedClockHour).or (c.number? .clockHour) = some n) :
    r.clockHour = n ↔ c.HasClockHour := by
  have hour := hour_of_clock clock
  have onClock : c.HasClockHour ↔ 1 ≤ n ∧ n ≤ 12 := by simp [HasClockHour, clock]
  rw [DateTime.clockHour, denotes.hour, onClock]
  split <;> omega

/-- The token of a field shows the number that it took if and only if the number is kept. -/
theorem Denotes.number?_eq_iff (denotes : c.Denotes r) (once : c.TellOnce) {token : Token}
    {taken : List Char} (took : (token, taken) ∈ c) (tells : token.fields ≠ [])
    (bounded : written taken < 10 ^ (Element.digitBounds token).2) :
    r.number? token = some (written taken) ↔ c.Keeps token := by
  have shows {n : Nat} : some n = some (written taken) ↔ n = written taken := Option.some_inj
  cases token with
  | year =>
    have year : c.year = written taken := by
      rw [Captures.year, once.number?_of_mem took (.head _)]
    exact shows.trans (year ▸ denotes.year)
  | shortYear =>
    have noYear := once.number?_of_other took (.head _) (.head _) (by decide : Token.year ≠ _)
    have year := year_of_shortYear noYear (once.number?_of_mem took (.head _)) bounded
    exact shows.trans (year ▸ denotes.shortYear)
  | dayOfYear => exact shows.trans (denotes.dayOfYear _ (once.number?_of_mem took (.head _)))
  | paddedMonth | month =>
    have noDayOfYear :=
      once.number?_of_other took (.head _) (.head _) (by decide : Token.dayOfYear ≠ _)
    have month := denotes.month noDayOfYear
    rw [once.numberOr_of_mem took (by simp) (.head _) (.head _)] at month
    exact shows.trans (iff_true_intro month)
  | paddedDay | day =>
    have noDayOfYear :=
      once.number?_of_other took (.head _) (.tail _ (.head _)) (by decide : Token.dayOfYear ≠ _)
    have day := denotes.day noDayOfYear
    rw [once.numberOr_of_mem took (by simp) (.head _) (.head _)] at day
    exact shows.trans (iff_true_intro day)
  | paddedHour | hour =>
    have noPaddedClock :=
      once.number?_of_other took (.head _) (.head _) (by decide : Token.paddedClockHour ≠ _)
    have noClock := once.number?_of_other took (.head _) (.head _) (by decide : Token.clockHour ≠ _)
    have hour := denotes.hour
    rw [hour_of_noClock noPaddedClock noClock,
      once.numberOr_of_mem took (by simp) (.head _) (.head _)] at hour
    exact shows.trans (iff_true_intro hour)
  | paddedClockHour | clockHour =>
    have clock : (c.number? .paddedClockHour).or (c.number? .clockHour) = some (written taken) :=
      once.or_number?_of_mem took (by simp) (.head _) (.head _)
    exact shows.trans (denotes.clockHour_eq_iff clock)
  | paddedMinute | minute =>
    have minute := denotes.minute
    rw [once.numberOr_of_mem took (by simp) (.head _) (.head _)] at minute
    exact shows.trans (iff_true_intro minute)
  | paddedSecond | second =>
    have second := denotes.second
    rw [once.numberOr_of_mem took (by simp) (.head _) (.head _)] at second
    exact shows.trans (iff_true_intro second)
  | fraction | halfDay | offset | epoch => exact absurd rfl tells

/-- The date and time shows every number that is written for a field. -/
def ShownBy (c : Captures) (t : DateTime) : Prop :=
  ∀ token taken, (token, taken) ∈ c → token.fields ≠ [] → t.number? token = some (written taken)

section Shown

variable {t : DateTime}

theorem mem_of_number? {token : Token} {n : Nat} (number : c.number? token = some n) :
    ∃ taken, (token, taken) ∈ c ∧ n = written taken := by
  obtain ⟨taken, last, same⟩ := Option.map_eq_some_iff.mp number
  obtain ⟨p, found, rfl⟩ := Option.map_eq_some_iff.mp last
  have isToken : p.1 = token := beq_iff_eq.mp (List.find?_some found :)
  subst isToken
  exact ⟨p.2, List.mem_reverse.mp (List.mem_of_find?_eq_some found), same.symm⟩

theorem ShownBy.eq_of_number? (shown : c.ShownBy t) {token : Token} {m n : Nat}
    (tells : token.fields ≠ []) (number : c.number? token = some m)
    (field : t.number? token = some n) : m = n := by
  obtain ⟨taken, took, rfl⟩ := mem_of_number? number
  have same := (shown token taken took tells).symm.trans field
  exact Option.some.inj same

theorem ShownBy.numberOr (shown : c.ShownBy t) (padded bare : Token) {n : Nat}
    (tellsPadded : padded.fields ≠ []) (tellsBare : bare.fields ≠ [])
    (paddedField : t.number? padded = some n) (bareField : t.number? bare = some n) (absent : Nat) :
    c.numberOr padded bare absent = absent ∨ c.numberOr padded bare absent = n := by
  rw [Captures.numberOr]
  cases number : c.number? padded with
  | some m => exact .inr (shown.eq_of_number? tellsPadded number paddedField)
  | none =>
    cases bareNumber : c.number? bare with
    | some m => exact .inr (shown.eq_of_number? tellsBare bareNumber bareField)
    | none => exact .inl rfl

theorem ShownBy.hour_lt (shown : c.ShownBy t) : c.hour < 24 := by
  have bounded := t.time.hour_lt
  cases clock : (c.number? .paddedClockHour).or (c.number? .clockHour) with
  | some h =>
    rw [hour, clock]
    dsimp only
    split <;> omega
  | none =>
    obtain ⟨noPaddedClock, noClock⟩ := Option.or_eq_none_iff.mp clock
    rw [hour_of_noClock noPaddedClock noClock]
    have told :=
      shown.numberOr .paddedHour .hour (n := t.time.hour) (by decide) (by decide) rfl rfl 0
    omega

theorem ShownBy.exists_time (shown : c.ShownBy t) : ∃ time,
    TimeOfDay.of c.hour (c.numberOr .paddedMinute .minute 0) (c.numberOr .paddedSecond .second 0)
      c.micro = .ok time := by
  have minuteBound := t.time.minute_lt
  have secondBound := t.time.second_lt
  have minute :=
    shown.numberOr .paddedMinute .minute (n := t.time.minute) (by decide) (by decide) rfl rfl 0
  have second :=
    shown.numberOr .paddedSecond .second (n := t.time.second) (by decide) (by decide) rfl rfl 0
  rw [TimeOfDay.of, dif_pos shown.hour_lt, dif_pos (by omega), dif_pos (by omega)]
  exact ⟨_, rfl⟩

theorem ShownBy.exists_date (shown : c.ShownBy t) (year : t.date.year = c.year) : ∃ date,
    Date.of c.year (c.numberOr .paddedMonth .month 1) (c.numberOr .paddedDay .day 1) =
      .ok date := by
  have yearBounds := t.date.year_bounds
  have monthBounds := t.date.month_bounds
  have dayBounds := t.date.day_bounds
  have month :=
    shown.numberOr .paddedMonth .month (n := t.date.month) (by decide) (by decide) rfl rfl 1
  have day := shown.numberOr .paddedDay .day (n := t.date.day) (by decide) (by decide) rfl rfl 1
  rw [year] at yearBounds dayBounds
  have inMonth : c.numberOr .paddedDay .day 1 ≤
      daysInMonth c.year (c.numberOr .paddedMonth .month 1) := by
    rcases month with january | month
    · have short := daysInMonth_le c.year t.date.month
      have long : daysInMonth c.year 1 = 31 := rfl
      rw [january]
      omega
    · rw [month]
      omega
  rw [Date.of, dif_pos yearBounds, dif_pos (by omega), dif_pos (by omega)]
  exact ⟨_, rfl⟩

/-- The numbers of a date and time are read, if the year is the one that they denote. -/
theorem ShownBy.exists_toDateTime (shown : c.ShownBy t) (noEpoch : c.last? .epoch = none)
    (year : t.date.year = c.year) : ∃ r, c.toDateTime = .ok r := by
  obtain ⟨time, timed⟩ := shown.exists_time
  cases dayOfYear : c.number? .dayOfYear with
  | none =>
    obtain ⟨date, dated⟩ := shown.exists_date year
    exact ⟨_, toDateTime_of_month noEpoch dayOfYear dated timed⟩
  | some n =>
    obtain rfl := shown.eq_of_number? (by decide) dayOfYear rfl
    obtain ⟨first, started, counted⟩ := t.date.exists_newYear
    rw [year] at started
    exact ⟨_, toDateTime_of_dayOfYear noEpoch dayOfYear started counted timed⟩

end Shown

end Captures

namespace DateText

theorem read_of_fits (host : Host) {format s : String} {value : Value} {c : Captures}
    (word : value.word? = some s)
    (fits : Captures.ofText? (Element.ofItems (DateFormat.items format)) (Text.trim s.toList) =
      some c) (noEpoch : c.last? .epoch = none) :
    read host format value = .ok c.toDateTime.toOption := by
  rw [read_of_word word, ofText, DateFormat.read?, Text.strip, String.toList_ofList, fits,
    Option.map_some]
  cases denoted : c.toDateTime with
  | ok r => rfl
  | error e =>
    have caught : (host.fault e).escapes = false := by
      rw [Bool.eq_false_iff]
      intro escapes
      obtain ⟨digits, ⟨_, epoch, _⟩, _⟩ :=
        (c.escapes_fault_iff host).mp ⟨e, denoted, escapes⟩
      rw [noEpoch] at epoch
      cases epoch
    simp only [caught]
    rfl

/-- A text that fits a format with each field once is read as a date that shows the numbers of the
text, apart from an hour that is not on a clock with twelve hours and from a day of the year that is
not in the year, which also changes the year. It is read as none only if no date and time of that
year shows the numbers. -/
theorem read_keeps_numbers (host : Host) (format : String) (value : Value) (s : String)
    (c : Captures) (once : Token.TellOnce (DateFormat.tokens format))
    (noEpoch : Token.epoch ∉ DateFormat.tokens format) (word : value.word? = some s)
    (fits : Captures.ofText? (Element.ofItems (DateFormat.items format)) (Text.trim s.toList) =
      some c) :
    (∃ r, read host format value = .ok (some r) ∧
      ∀ token taken, (token, taken) ∈ c → token.fields ≠ [] →
        (r.number? token = some (Captures.written taken) ↔ c.Keeps token)) ∨
    (read host format value = .ok none ∧
      ¬ ∃ t : DateTime, t.date.year = c.year ∧ c.ShownBy t) := by
  have tokens : c.map Prod.fst = DateFormat.tokens format :=
    (Captures.tokens_ofText? fits).trans (Element.tokens_ofItems _)
  have tellOnce : c.TellOnce := by rwa [Captures.TellOnce, tokens]
  have noMillis : c.last? .epoch = none := Captures.last?_eq_none (tokens ▸ noEpoch)
  have few : ∀ n ∈ c.number? .dayOfYear, n < 1000 := by
    intro n number
    obtain ⟨taken, took, rfl⟩ := Captures.mem_of_number? number
    exact Captures.written_lt fits took (by decide)
  rw [read_of_fits host word fits noMillis]
  cases denoted : c.toDateTime with
  | ok r =>
    refine .inl ⟨r, rfl, fun token taken took tells => ?_⟩
    have denotes := Captures.denotes_of_toDateTime noMillis few denoted
    exact denotes.number?_eq_iff tellOnce took tells (Captures.written_lt fits took tells)
  | error e =>
    refine .inr ⟨rfl, ?_⟩
    rintro ⟨t, year, shown⟩
    obtain ⟨r, readable⟩ := shown.exists_toDateTime noMillis year
    cases denoted.symm.trans readable

/-- The sixtieth day of a leap year, at an hour of the clock with twelve hours. -/
theorem read_keeps_numbers_leapDay :
    let host := Host.standard ⟨2023, 7, 31, by decide, by decide, by decide⟩
    let c : Captures := [(.dayOfYear, ['0', '6', '0']), (.shortYear, ['2', '4']),
      (.paddedClockHour, ['1', '2']), (.minute, ['7'])]
    Token.TellOnce (DateFormat.tokens "DDD/YY hh:m") ∧
      Token.epoch ∉ DateFormat.tokens "DDD/YY hh:m" ∧
      Captures.ofText? (Element.ofItems (DateFormat.items "DDD/YY hh:m"))
        (Text.trim "060.24, 12-7".toList) = some c ∧
      ∃ r, read host "DDD/YY hh:m" (.text "060.24, 12-7") = .ok (some r) ∧
        r.number? .dayOfYear = some 60 ∧ r.number? .shortYear = some 24 ∧
        r.number? .paddedClockHour = some 12 ∧ r.number? .minute = some 7 := by
  intro host c
  have once : Token.TellOnce (DateFormat.tokens "DDD/YY hh:m") := by decide
  have noEpoch : Token.epoch ∉ DateFormat.tokens "DDD/YY hh:m" := by decide
  have fits : Captures.ofText? (Element.ofItems (DateFormat.items "DDD/YY hh:m"))
      (Text.trim "060.24, 12-7".toList) = some c := by decide
  have inYear : c.HasDayOfYear := by
    rintro n ⟨⟩
    decide
  have onClock : c.HasClockHour := by
    rintro h ⟨⟩
    decide
  let t : DateTime := ⟨⟨2024, 2, 29, by decide, by decide, by decide⟩,
    ⟨0, 7, 0, 0, by decide, by decide, by decide, by decide⟩, none⟩
  have shown : c.ShownBy t := by
    intro token taken took _
    simp only [c, List.mem_cons, Prod.mk.injEq, List.not_mem_nil, or_false] at took
    rcases took with ⟨rfl, rfl⟩ | ⟨rfl, rfl⟩ | ⟨rfl, rfl⟩ | ⟨rfl, rfl⟩
    all_goals decide
  obtain ⟨r, isRead, kept⟩ :=
    (read_keeps_numbers host "DDD/YY hh:m" (.text "060.24, 12-7") "060.24, 12-7" c once noEpoch
      (by decide) fits).resolve_right fun unread => unread.2 ⟨t, by decide, shown⟩
  refine ⟨once, noEpoch, fits, r, isRead, ?_, ?_, ?_, ?_⟩
  · exact (kept .dayOfYear ['0', '6', '0'] (by decide) (by decide)).mpr inYear
  · exact (kept .shortYear ['2', '4'] (by decide) (by decide)).mpr inYear
  · exact (kept .paddedClockHour ['1', '2'] (by decide) (by decide)).mpr onClock
  · exact (kept .minute ['7'] (by decide) (by decide)).mpr trivial

/-- The year 2021 has no day 366, and a clock with twelve hours has no hour 13. -/
theorem read_changes_numbers :
    let host := Host.standard ⟨2023, 7, 31, by decide, by decide, by decide⟩
    let newYear : DateTime := ⟨⟨2022, 1, 1, by decide, by decide, by decide⟩, .midnight, none⟩
    let early : DateTime := ⟨⟨1970, 1, 1, by decide, by decide, by decide⟩,
      ⟨1, 30, 0, 0, by decide, by decide, by decide, by decide⟩, none⟩
    (Token.TellOnce (DateFormat.tokens "YYYY-DDD") ∧
      Captures.ofText? (Element.ofItems (DateFormat.items "YYYY-DDD")) "2021-366".toList =
        some [(.year, ['2', '0', '2', '1']), (.dayOfYear, ['3', '6', '6'])] ∧
      read host "YYYY-DDD" (.text "2021-366") = .ok (some newYear) ∧
      newYear.number? .year = some 2022 ∧ newYear.number? .dayOfYear = some 1) ∧
    (Token.TellOnce (DateFormat.tokens "hh:mm") ∧
      Captures.ofText? (Element.ofItems (DateFormat.items "hh:mm")) "13:30".toList =
        some [(.paddedClockHour, ['1', '3']), (.paddedMinute, ['3', '0'])] ∧
      read host "hh:mm" (.text "13:30") = .ok (some early) ∧
      early.number? .paddedClockHour = some 1) := by
  intro host newYear early
  have ordinal : read host "YYYY-DDD" (.text "2021-366") = .ok (some newYear) :=
    read_text_of_told (by decide) (by decide +kernel)
  have clock : read host "hh:mm" (.text "13:30") = .ok (some early) :=
    read_text_of_told (by decide) (by decide +kernel)
  exact ⟨⟨by decide, by decide, ordinal, rfl, by decide⟩, by decide, by decide, clock, by decide⟩

end DateText

end SolrRequest
