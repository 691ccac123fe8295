import Mathlib.Data.String.Basic
import SolrRequest.Proofs.Calendar.Chronology
import SolrRequest.Proofs.DateRange.Bound

/-!
# Order of bounds

The bounds of two dates, as texts, are in the order of their instants. All numbers of a bound have a
fixed width and the largest unit comes first, so that the first character that differs belongs to
the first number that differs.
-/

namespace SolrRequest

open Integer

namespace DateTime

variable {t u : DateTime}

theorem indexText_append_lt (earlier : t.units < u.units) (mark : String) :
    t.indexText ++ mark < u.indexText ++ mark := by
  have year := u.date.year_bounds
  have month := u.date.month_bounds
  have day := u.date.day_bounds
  have dayBound := Calendar.daysInMonth_le u.date.year u.date.month
  have hour := u.time.hour_lt
  have minute := u.time.minute_lt
  have second := u.time.second_lt
  rw [String.lt_iff_toList_lt]
  simp only [indexText, String.toList_append, List.append_assoc]
  -- Each number leaves it to what stands behind the separator after it.
  apply padded_append_lt (by decide) (by omega) (units_lt_iff.mp earlier)
  intro ofMonth
  apply List.Lex.append_left
  apply padded_append_lt (by decide) (by omega) ofMonth
  intro ofDay
  apply List.Lex.append_left
  apply padded_append_lt (by decide) (by omega) ofDay
  intro ofHour
  apply List.Lex.append_left
  apply padded_append_lt (by decide) (by omega) ofHour
  intro ofMinute
  apply List.Lex.append_left
  apply padded_append_lt (by decide) (by omega) ofMinute
  intro ofSecond
  apply List.Lex.append_left
  exact padded_append_lt (by decide) (by omega) (.inl ofSecond) False.elim

theorem indexText_eq_of_units_eq (same : t.units = u.units) : t.indexText = u.indexText := by
  simp only [units, List.cons.injEq, and_true] at same
  obtain ⟨year, month, day, hour, minute, second⟩ := same
  rw [indexText, indexText, year, month, day, hour, minute, second]

/-- Texts, with the same mark behind them, and seconds are in the same order. -/
theorem indexText_order (t u : DateTime) (mark : String) :
    (t.indexText ++ mark < u.indexText ++ mark ↔ t.wallSecond < u.wallSecond) ∧
      (t.indexText ++ mark = u.indexText ++ mark ↔ t.wallSecond = u.wallSecond) ∧
      (u.indexText ++ mark < t.indexText ++ mark ↔ u.wallSecond < t.wallSecond) := by
  rcases lt_trichotomy t.units u.units with earlier | same | later
  · have text := indexText_append_lt earlier mark
    have second := wallSecond_lt earlier
    exact ⟨iff_of_true text second, iff_of_false text.ne second.ne,
      iff_of_false text.asymm second.asymm⟩
  · have text := indexText_eq_of_units_eq same
    have second := wallSecond_eq_of_units_eq same
    rw [text, second]
    exact ⟨iff_of_false (lt_irrefl _) (lt_irrefl _), iff_of_true rfl rfl,
      iff_of_false (lt_irrefl _) (lt_irrefl _)⟩
  · have text := indexText_append_lt later mark
    have second := wallSecond_lt later
    exact ⟨iff_of_false text.asymm second.asymm, iff_of_false text.ne' second.ne',
      iff_of_true text second⟩

theorem wallSecond_eq_second (told : u.wallMicros = t.instant) : u.wallSecond = t.second := by
  rw [wallSecond, second, told]

end DateTime

namespace DateRange

variable {host : Host} {input : String} {value : Value} {t u : DateTime}

/-- The text stands for the value in every range that the value starts or ends, if it is not the
asterisk. -/
structure StandsFor (host : Host) (input : String) (text : String) (value : Value) : Prop where
  start : ∀ last : Value, value.isWord = true ∨ last.isWord = true →
    between host input value last = (endBound host input last).map (bracketed (text ++ "Z"))
  finish : isWildcard value = false → ∀ first : Value, first.isWord = true ∨ value.isWord = true →
    between host input first value =
      (startBound host input first).map fun start => bracketed (start ++ "Z") text

theorem standsFor_indexText (sound : host.IsSound)
    (isRead : DateText.read host input value = .ok (some t))
    (small : t.HasSmallOffset) (told : u.wallMicros = t.instant) :
    StandsFor host input u.indexText value where
  start _ given := between_start sound isRead small told given
  finish notWildcard _ given := between_end sound notWildcard isRead small told given

/-- The texts that stand for two dates in ranges are in the order of the dates' instants, to the
second, as they are or with the letter Z behind both. The dates may be given in any way, and those
without an offset are in universal time. -/
theorem bounds_keep_order (host : Host) (sound : host.IsSound) (input otherInput : String)
    (value other : Value) (t r : DateTime) (isRead : DateText.read host input value = .ok (some t))
    (small : ∀ o ∈ t.offset, o.natAbs < 86400) (universal : DateTime.OnCalendar t.instant)
    (otherRead : DateText.read host otherInput other = .ok (some r))
    (otherSmall : ∀ o ∈ r.offset, o.natAbs < 86400)
    (otherUniversal : DateTime.OnCalendar r.instant) :
    ∃ a b : String, StandsFor host input a value ∧ StandsFor host otherInput b other ∧
      ∀ mark ∈ ["", "Z"], (a ++ mark < b ++ mark ↔ t.second < r.second) ∧
        (a ++ mark = b ++ mark ↔ t.second = r.second) ∧
        (b ++ mark < a ++ mark ↔ r.second < t.second) := by
  obtain ⟨u, told⟩ := DateTime.exists_wallMicros_eq universal
  obtain ⟨v, otherTold⟩ := DateTime.exists_wallMicros_eq otherUniversal
  refine ⟨u.indexText, v.indexText, standsFor_indexText sound isRead small told,
    standsFor_indexText sound otherRead otherSmall otherTold, ?_⟩
  intro mark _
  rw [← DateTime.wallSecond_eq_second told, ← DateTime.wallSecond_eq_second otherTold]
  exact u.indexText_order v mark

/-- The last second of a year, and midnight after it on a clock that is ahead. -/
theorem bounds_keep_order_newYear :
    let host := Host.standard ⟨2023, 7, 31, by decide, by decide, by decide⟩
    let eve : DateTime := ⟨⟨2023, 12, 31, by decide, by decide, by decide⟩,
      ⟨23, 59, 59, 999999, by decide, by decide, by decide, by decide⟩, none⟩
    let midnight : DateTime := ⟨⟨2024, 1, 1, by decide, by decide, by decide⟩,
      ⟨5, 30, 0, 0, by decide, by decide, by decide, by decide⟩, some 19800⟩
    host.IsSound ∧ (∀ o ∈ eve.offset, o.natAbs < 86400) ∧ DateTime.OnCalendar eve.instant ∧
      (∀ o ∈ midnight.offset, o.natAbs < 86400) ∧ DateTime.OnCalendar midnight.instant ∧
      ∃ a b : String, StandsFor host "ISO" a (.moment eve) ∧
        StandsFor host "ISO" b (.moment midnight) ∧ a ++ "Z" < b ++ "Z" := by
  intro host eve midnight
  have sound : host.IsSound := Host.isSound_standard _
  have small : ∀ o ∈ eve.offset, o.natAbs < 86400 := by
    rintro o ⟨⟩
  have universal : DateTime.OnCalendar eve.instant := by decide +kernel
  have otherSmall : ∀ o ∈ midnight.offset, o.natAbs < 86400 := by
    rintro o ⟨⟩
    decide
  have otherUniversal : DateTime.OnCalendar midnight.instant := by decide +kernel
  obtain ⟨a, b, standsFor, otherStandsFor, order⟩ :=
    bounds_keep_order host sound "ISO" "ISO" (.moment eve) (.moment midnight) eve midnight rfl small
      universal rfl otherSmall otherUniversal
  have earlier : eve.second < midnight.second := by decide +kernel
  exact ⟨sound, small, universal, otherSmall, otherUniversal, a, b, standsFor, otherStandsFor,
    (order "Z" (by decide)).1.mpr earlier⟩

end DateRange

end SolrRequest
