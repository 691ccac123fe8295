import SolrRequest.Proofs.DateFormat.Captures

/-!
# What a layout tells

The tokens of a layout, seen as a choice of tokens for every part of a date and time. In whatever
order they stand, their texts denote the same date and the parts of the time that they tell. A part
that is left out is zero.
-/

namespace SolrRequest

/-- What the tokens of a layout tell, each in one of several ways. -/
inductive DatePart
  | year
  | day
  | hour
  | minute
  | second
  | fraction
deriving DecidableEq

namespace DatePart

def all : List DatePart := [.year, .day, .hour, .minute, .second, .fraction]

/-- The groups of tokens that tell a part. All but the year and the day may be left out. -/
def choices : DatePart → List (List Token)
  | year => [[.year]]
  | day => [[.paddedMonth, .paddedDay], [.paddedMonth, .day], [.month, .paddedDay], [.month, .day],
      [.dayOfYear]]
  | hour => [[], [.paddedHour], [.hour], [.paddedClockHour, .halfDay], [.clockHour, .halfDay]]
  | minute => [[], [.paddedMinute], [.minute]]
  | second => [[], [.paddedSecond], [.second]]
  | fraction => [[], [.fraction]]

/-- The part that a token tells, alone or in a group. -/
def of? : Token → Option DatePart
  | .year => some year
  | .paddedMonth | .month | .paddedDay | .day | .dayOfYear => some day
  | .paddedHour | .hour | .paddedClockHour | .clockHour | .halfDay => some hour
  | .paddedMinute | .minute => some minute
  | .paddedSecond | .second => some second
  | .fraction => some fraction
  | .shortYear | .offset | .epoch => none

theorem of?_eq_some (part : DatePart) :
    ∀ choice ∈ part.choices, ∀ token ∈ choice, of? token = some part := by
  cases part <;> decide

theorem mem_all (part : DatePart) : part ∈ all := by
  cases part <;> decide

end DatePart

structure Selection where
  tokens : DatePart → List Token
  allowed : ∀ part, tokens part ∈ part.choices

namespace Selection

def all (selection : Selection) : List Token :=
  DatePart.all.flatMap selection.tokens

variable {selection : Selection} {token : Token} {part : DatePart}

theorem mem_all : token ∈ selection.all ↔ ∃ part, token ∈ selection.tokens part := by
  simp [all, DatePart.mem_all]

theorem of?_of_mem_tokens (membership : token ∈ selection.tokens part) :
    DatePart.of? token = some part :=
  part.of?_eq_some _ (selection.allowed part) token membership

/-- A token stands in a selection only among the tokens of its own part. -/
theorem mem_all_iff (tells : DatePart.of? token = some part) :
    token ∈ selection.all ↔ token ∈ selection.tokens part := by
  rw [mem_all]
  constructor
  · rintro ⟨other, membership⟩
    have same := (of?_of_mem_tokens membership).symm.trans tells
    cases same
    exact membership
  · intro membership
    exact ⟨part, membership⟩

theorem not_mem_all (tells : DatePart.of? token = none) : token ∉ selection.all := by
  rw [mem_all]
  rintro ⟨part, membership⟩
  rw [of?_of_mem_tokens membership] at tells
  cases tells

/-- A number of a part, or zero if the part is left out. -/
def told (selection : Selection) (part : DatePart) (n : Nat) : Nat :=
  if selection.tokens part = [] then 0 else n

theorem told_le (selection : Selection) (part : DatePart) (n : Nat) :
    selection.told part n ≤ n := by
  unfold told
  split <;> omega

end Selection

namespace Selection

variable {selection : Selection} {tokens : List Token} {t : DateTime}

/-- Tokens among which those of every part are the selected ones, and no other part is told. -/
structure Arranges (selection : Selection) (tokens : List Token) : Prop where
  mem_iff : ∀ token {part}, DatePart.of? token = some part →
    (token ∈ tokens ↔ token ∈ selection.tokens part)
  noEpoch : .epoch ∉ tokens

namespace Arranges

theorem year (arranges : selection.Arranges tokens) : (t.captures tokens).year = t.date.year := by
  have stands : .year ∈ tokens := by
    have choice := selection.allowed .year
    simp only [DatePart.choices, List.mem_singleton] at choice
    rw [arranges.mem_iff _ rfl, choice]
    exact List.mem_singleton_self _
  rw [Captures.year, DateTime.number?_captures (t := t) rfl, if_pos stands]

theorem numberOr_captures {padded bare : Token} {paddedWidth bareWidth n : Nat} {part : DatePart}
    (arranges : selection.Arranges tokens) (paddedField : t.field? padded = some (paddedWidth, n))
    (bareField : t.field? bare = some (bareWidth, n))
    (tellsPadded : DatePart.of? padded = some part)
    (tellsBare : DatePart.of? bare = some part) (absent : Nat) :
    (t.captures tokens).numberOr padded bare absent =
      if padded ∈ selection.tokens part ∨ bare ∈ selection.tokens part then n else absent := by
  rw [DateTime.numberOr_captures paddedField bareField]
  exact if_congr (or_congr (arranges.mem_iff _ tellsPadded) (arranges.mem_iff _ tellsBare)) rfl rfl

theorem hour (arranges : selection.Arranges tokens) :
    (t.captures tokens).hour = selection.told .hour t.time.hour := by
  have clock := or_congr (arranges.mem_iff .paddedClockHour rfl) (arranges.mem_iff .clockHour rfl)
  have half := arranges.mem_iff .halfDay rfl
  have plain := or_congr (arranges.mem_iff .paddedHour rfl) (arranges.mem_iff .hour rfl)
  have choice := selection.allowed .hour
  simp only [DatePart.choices, List.mem_cons, List.not_mem_nil, or_false] at choice
  rcases choice with chosen | chosen | chosen | chosen | chosen
  · rw [DateTime.hour_captures (by simp [clock, chosen])]
    simp [plain, chosen, told]
  · rw [DateTime.hour_captures (by simp [clock, chosen])]
    simp [plain, chosen, told]
  · rw [DateTime.hour_captures (by simp [clock, chosen])]
    simp [plain, chosen, told]
  · rw [DateTime.hour_captures_of_clock (by simp [clock, chosen]) (by simp [half, chosen])]
    simp [chosen, told]
  · rw [DateTime.hour_captures_of_clock (by simp [clock, chosen]) (by simp [half, chosen])]
    simp [chosen, told]

/-- A part that one token tells, in one of two widths. -/
theorem numberOr_told {padded bare : Token} {paddedWidth bareWidth n : Nat}
    (arranges : selection.Arranges tokens) (part : DatePart)
    (choices : part.choices = [[], [padded], [bare]])
    (paddedField : t.field? padded = some (paddedWidth, n))
    (bareField : t.field? bare = some (bareWidth, n))
    (tellsPadded : DatePart.of? padded = some part) (tellsBare : DatePart.of? bare = some part) :
    (t.captures tokens).numberOr padded bare 0 = selection.told part n := by
  have choice := selection.allowed part
  simp only [choices, List.mem_cons, List.not_mem_nil, or_false] at choice
  rw [arranges.numberOr_captures paddedField bareField tellsPadded tellsBare, told]
  rcases choice with chosen | chosen | chosen
  · simp [chosen]
  · simp [chosen]
  · simp [chosen]

theorem micro (arranges : selection.Arranges tokens) :
    (t.captures tokens).micro = selection.told .fraction (t.time.micro / 1000 * 1000) := by
  have choice := selection.allowed .fraction
  simp only [DatePart.choices, List.mem_cons, List.not_mem_nil, or_false] at choice
  rw [DateTime.micro_captures, told, if_congr (arranges.mem_iff _ rfl) rfl rfl]
  rcases choice with chosen | chosen <;> simp [chosen]

theorem exists_time (arranges : selection.Arranges tokens) :
    ∃ time, TimeOfDay.of (t.captures tokens).hour
      ((t.captures tokens).numberOr .paddedMinute .minute 0)
      ((t.captures tokens).numberOr .paddedSecond .second 0) (t.captures tokens).micro = .ok time ∧
      time.hour = selection.told .hour t.time.hour ∧
      time.minute = selection.told .minute t.time.minute ∧
      time.second = selection.told .second t.time.second ∧
      time.micro = selection.told .fraction (t.time.micro / 1000 * 1000) := by
  have micro := t.time.micro_lt
  have minute := arranges.numberOr_told (t := t) .minute rfl rfl rfl rfl rfl
  have second := arranges.numberOr_told (t := t) .second rfl rfl rfl rfl rfl
  rw [arranges.hour, minute, second, arranges.micro]
  exact ⟨_, TimeOfDay.of_eq_ok (Nat.lt_of_le_of_lt (told_le _ _ _) t.time.hour_lt)
    (Nat.lt_of_le_of_lt (told_le _ _ _) t.time.minute_lt)
    (Nat.lt_of_le_of_lt (told_le _ _ _) t.time.second_lt)
    (Nat.lt_of_le_of_lt (told_le _ _ _) (by omega)), rfl, rfl, rfl, rfl⟩

theorem exists_dateTime (arranges : selection.Arranges tokens) : ∃ time : TimeOfDay,
    (t.captures tokens).toDateTime =
      .ok ⟨t.date, time, ((t.captures tokens).last? .offset).map Captures.offsetSeconds⟩ ∧
      time.hour = selection.told .hour t.time.hour ∧
      time.minute = selection.told .minute t.time.minute ∧
      time.second = selection.told .second t.time.second ∧
      time.micro = selection.told .fraction (t.time.micro / 1000 * 1000) := by
  have noEpoch : (t.captures tokens).last? .epoch = none := by
    rw [DateTime.last?_captures, if_neg arranges.noEpoch]
  obtain ⟨time, timed, parts⟩ := arranges.exists_time (t := t)
  refine ⟨time, ?_, parts⟩
  have dayOfYear : (t.captures tokens).number? .dayOfYear =
      if .dayOfYear ∈ selection.tokens .day then some t.date.dayOfYear else none := by
    rw [DateTime.number?_captures (t := t) rfl]
    exact if_congr (arranges.mem_iff _ rfl) rfl rfl
  by_cases chosen : selection.tokens .day = [.dayOfYear]
  · obtain ⟨first, started, counted⟩ := t.date.exists_newYear
    rw [chosen, if_pos (List.mem_singleton_self _)] at dayOfYear
    refine Captures.toDateTime_of_dayOfYear noEpoch dayOfYear ?_ counted timed
    rw [arranges.year, started]
  · have choice := selection.allowed .day
    simp only [DatePart.choices, List.mem_cons, List.not_mem_nil, or_false, chosen] at choice
    refine Captures.toDateTime_of_month noEpoch ?_ ?_ timed
    · rw [dayOfYear]
      rcases choice with chosen | chosen | chosen | chosen <;> simp [chosen]
    · have month : (t.captures tokens).numberOr .paddedMonth .month 1 = t.date.month := by
        rw [arranges.numberOr_captures (t := t) rfl rfl rfl rfl]
        rcases choice with chosen | chosen | chosen | chosen <;> simp [chosen]
      have day : (t.captures tokens).numberOr .paddedDay .day 1 = t.date.day := by
        rw [arranges.numberOr_captures (t := t) rfl rfl rfl rfl]
        rcases choice with chosen | chosen | chosen | chosen <;> simp [chosen]
      rw [arranges.year, month, day, Date.of_eq_ok]

end Arranges

end Selection

end SolrRequest
