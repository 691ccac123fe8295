import SolrRequest.DateRange
import SolrRequest.Proofs.DateText.Rendering

/-!
# Bounds of ranges

The bound that a value gives is the universal time of the value's instant, to the second. A value
that stands for the same instant gives the same bound, whatever offset it is told with.
-/

namespace SolrRequest

namespace Integer

theorem length_padded {width n : Nat} (positive : 0 < width) (fits : n < 10 ^ width) :
    (padded width n).length = width := by
  rw [← String.length_toList, toList_padded, List.length_map, length_paddedDigits]
  exact Nat.max_eq_left (length_digits_le positive fits)

end Integer

namespace DateTime

/-- Date and time to the second, as they are written in the index. -/
def indexText (t : DateTime) : String :=
  Integer.padded 4 t.date.year ++ "-" ++ Integer.padded 2 t.date.month ++ "-" ++
    Integer.padded 2 t.date.day ++ "T" ++ Integer.padded 2 t.time.hour ++ ":" ++
    Integer.padded 2 t.time.minute ++ ":" ++ Integer.padded 2 t.time.second

theorem length_indexText (t : DateTime) : t.indexText.length = 19 := by
  have year := t.date.year_bounds
  have month := t.date.month_bounds
  have day := t.date.day_bounds
  have dayBound := Calendar.daysInMonth_le t.date.year t.date.month
  have hour := t.time.hour_lt
  have minute := t.time.minute_lt
  have second := t.time.second_lt
  have two : ∀ n < 100, (Integer.padded 2 n).length = 2 := fun n small =>
    Integer.length_padded (by decide) small
  have four : (Integer.padded 4 t.date.year).length = 4 :=
    Integer.length_padded (by decide) (by omega)
  simp only [indexText, String.length_append, four, two t.date.month (by omega),
    two t.date.day (by omega), two t.time.hour (by omega), two t.time.minute (by omega),
    two t.time.second (by omega)]
  rfl

theorem indexText_eq_of_wallMicros_eq {t u : DateTime} (same : t.wallMicros = u.wallMicros) :
    t.indexText = u.indexText := by
  change indexText { t with offset := none } = indexText { u with offset := none }
  rw [eq_of_wallMicros_eq same none]

end DateTime

namespace DateLayout

def index : DateLayout :=
  ⟨.year, monthAndDay ++ (.letterT, .paddedHour) :: minuteAndSecond, .absent⟩

end DateLayout

namespace DateRange

theorem items_indexFormat : DateFormat.items indexFormat = DateLayout.index.items :=
  DateLayout.items_eq rfl

theorem write_indexFormat (t : DateTime) : DateFormat.write indexFormat t = .ok t.indexText := by
  have items : DateLayout.index.items = [.token .year, .plain '-', .token .paddedMonth, .plain '-',
      .token .paddedDay, .plain 'T', .token .paddedHour, .plain ':', .token .paddedMinute,
      .plain ':', .token .paddedSecond] := rfl
  rw [DateFormat.write, items_indexFormat, items]
  simp only [DateFormat.writeItems, DateTime.itemText, DateTime.part, bind, Except.bind, pure,
    Except.pure, DateTime.indexText, String.append_assoc, String.append_empty]
  rfl

variable {host : Host} {input : String} {value : Value} {t u : DateTime}

theorem outputZone?_style (sound : host.IsSound) (input : String) :
    ∃ zone, (style input).outputZone? host = some zone ∧ zone.IsUniversal := by
  obtain ⟨zone, known, universal⟩ := sound.universal
  exact ⟨zone, DateText.outputZone?_eq rfl (by decide) known, universal⟩

/-- A date and time is told by the clock of universal time, a local one as it stands. -/
theorem convert_eq_ok (sound : host.IsSound)
    (isRead : DateText.read host input value = .ok (some t))
    (small : t.HasSmallOffset) (told : u.wallMicros = t.instant) :
    DateText.convert host (style input) (host.clock? value) t =
      .ok { u with offset := some 0 } := by
  obtain ⟨zone, zoned, universal⟩ := outputZone?_style sound input
  cases offset : t.offset with
  | some o =>
    by_cases own : host.clock? value = some zone.name
    · obtain ⟨name, known⟩ := DateText.exists_zone?_of_outputZone? zoned
      obtain rfl := universal.eq_zero_of_tells (sound.ofClock _ _ _ _ _ _ isRead offset own known)
      have same : u.wallMicros = t.wallMicros := by
        rw [told, DateTime.instant, offset]
        exact Int.sub_zero _
      rw [DateText.convert_eq_self zoned offset own, DateTime.eq_of_wallMicros_eq same (some 0),
        ← offset]
    · have unmoved : u.wallMicros = t.instant + zone.shiftAt t.second * 1000000 := by
        rw [universal.shiftAt, told]
        omega
      rw [DateText.convert_eq_inZone zoned offset own,
        DateTime.inZone_eq_ok small (told ▸ u.onCalendar_wallMicros) unmoved, universal.offsetAt]
  | none =>
    have same : t.wallMicros = u.wallMicros := by
      rw [told, DateTime.instant, offset]
      exact (Int.sub_zero _).symm
    rw [DateText.convert_eq_placedIn zoned rfl offset, DateTime.placedIn, universal.offsetAtWall,
      DateTime.eq_of_wallMicros_eq same (some 0)]

theorem startBound_eq_ok (sound : host.IsSound)
    (isRead : DateText.read host input value = .ok (some t))
    (small : t.HasSmallOffset) (told : u.wallMicros = t.instant) :
    startBound host input value = .ok u.indexText := by
  have styled : DateText.read host (style input).input value = .ok (some t) := isRead
  rw [startBound, DateText.render_eq styled, convert_eq_ok sound isRead small told,
    show (style input).output = indexFormat from rfl]
  exact write_indexFormat { u with offset := some 0 }

theorem endBound_eq_startBound (notWildcard : isWildcard value = false) :
    endBound host input value = startBound host input value := by
  rw [endBound, notWildcard]
  rfl

theorem isWord_eq {s : String} (text : value.text? = some s) :
    value.isWord = !Text.allBlank s := by
  rw [Value.isWord, Value.word?, text]
  cases blank : Text.allBlank s <;> simp [blank]

/-- A blank text is read as no date. -/
theorem read_of_blank {s : String} (text : value.text? = some s) (blank : Text.allBlank s = true) :
    DateText.read host input value = .ok none := by
  cases value with
  | text _ | field _ =>
    cases text
    exact if_pos blank
  | _ => cases text

theorem isWord_of_read {s : String} (text : value.text? = some s)
    (isRead : DateText.read host input value = .ok (some t)) : value.isWord = true := by
  by_contra blank
  rw [isWord_eq text, Bool.not_eq_true, Bool.not_eq_false'] at blank
  rw [read_of_blank text blank] at isRead
  cases isRead

theorem between_start (sound : host.IsSound)
    (isRead : DateText.read host input value = .ok (some t))
    (small : t.HasSmallOffset) (told : u.wallMicros = t.instant) {last : Value}
    (given : value.isWord = true ∨ last.isWord = true) :
    between host input value last =
      (endBound host input last).map (bracketed (u.indexText ++ "Z")) := by
  have words : (!value.isWord && !last.isWord) = false := by
    rcases given with word | word <;> simp [word]
  rw [between, words, startBound_eq_ok sound isRead small told]
  cases endBound host input last <;> rfl

theorem isWildcard_eq_false {s : String} (text : value.text? = some s) (other : s ≠ wildcard) :
    isWildcard value = false := by
  rw [isWildcard, text]
  simpa using other

theorem between_end (sound : host.IsSound) (notWildcard : isWildcard value = false)
    (isRead : DateText.read host input value = .ok (some t)) (small : t.HasSmallOffset)
    (told : u.wallMicros = t.instant) {first : Value}
    (given : first.isWord = true ∨ value.isWord = true) :
    between host input first value =
      (startBound host input first).map fun start => bracketed (start ++ "Z") u.indexText := by
  have words : (!first.isWord && !value.isWord) = false := by
    rcases given with word | word <;> simp [word]
  rw [between, words, endBound_eq_startBound notWildcard, startBound_eq_ok sound isRead small told]
  cases startBound host input first <;> rfl

theorem fromToday_eq_ok (sound : host.IsSound) (word : value.isWord = true)
    (notWildcard : isWildcard value = false)
    (isRead : DateText.read host input value = .ok (some t)) (small : t.HasSmallOffset)
    (told : u.wallMicros = t.instant) :
    fromToday host input value = .ok (bracketed "NOW/DAY" u.indexText) := by
  rw [fromToday, word, endBound_eq_startBound notWildcard, startBound_eq_ok sound isRead small told]
  rfl

/-- Where a value denotes a date and time on the calendar of universal time, the bound that stands
for it in a range is the universal time of its instant, in nineteen characters and without the
fraction of the second. Every value with the same instant has this bound. -/
theorem bounds_tell_instant (host : Host) (sound : host.IsSound) (input : String) (value : Value)
    (t : DateTime) (isRead : DateText.read host input value = .ok (some t))
    (small : ∀ o ∈ t.offset, o.natAbs < 86400) (universal : DateTime.OnCalendar t.instant) :
    ∃ u : DateTime, u.wallMicros = t.instant ∧ u.indexText.length = 19 ∧
      (∀ last : Value, value.isWord = true ∨ last.isWord = true →
        between host input value last =
          (endBound host input last).map (bracketed (u.indexText ++ "Z"))) ∧
      (∀ s, value.text? = some s → s ≠ wildcard →
        (∀ first, between host input first value =
          (startBound host input first).map fun a => bracketed (a ++ "Z") u.indexText) ∧
        fromToday host input value = .ok (bracketed "NOW/DAY" u.indexText)) ∧
      ∀ otherInput other r, DateText.read host otherInput other = .ok (some r) →
        (∀ o ∈ r.offset, o.natAbs < 86400) → r.instant = t.instant →
        startBound host otherInput other = .ok u.indexText ∧
          (isWildcard other = false → endBound host otherInput other = .ok u.indexText) := by
  obtain ⟨u, told⟩ := DateTime.exists_wallMicros_eq universal
  refine ⟨u, told, u.length_indexText, ?_, ?_, ?_⟩
  · intro last given
    exact between_start sound isRead small told given
  · intro s text other
    have word := isWord_of_read text isRead
    have notWildcard := isWildcard_eq_false text other
    exact ⟨fun _ => between_end sound notWildcard isRead small told (.inr word),
      fromToday_eq_ok sound word notWildcard isRead small told⟩
  · intro otherInput other r otherRead otherSmall same
    have bound := startBound_eq_ok sound otherRead otherSmall (told.trans same.symm)
    refine ⟨bound, fun notWildcard => ?_⟩
    rw [endBound_eq_startBound notWildcard, bound]

/-- An offset that moves the last hour of a leap day into the next month. -/
theorem bounds_tell_instant_leapDay :
    let host := Host.standard ⟨2023, 7, 31, by decide, by decide, by decide⟩
    let value : Value := .text "2024-02-29T23:30:00.500-05:30"
    let t : DateTime := ⟨⟨2024, 2, 29, by decide, by decide, by decide⟩,
      ⟨23, 30, 0, 500000, by decide, by decide, by decide, by decide⟩, some (-19800)⟩
    host.IsSound ∧ DateText.read host "ISO" value = .ok (some t) ∧
      (∀ o ∈ t.offset, o.natAbs < 86400) ∧ DateTime.OnCalendar t.instant ∧
      fromToday host "ISO" value = .ok "[NOW/DAY TO 2024-03-01T05:00:00]" := by
  intro host value t
  have sound : host.IsSound := Host.isSound_standard _
  have isRead : DateText.read host "ISO" value = .ok (some t) :=
    DateText.read_text_of_told (by decide) (by decide +kernel)
  have small : ∀ o ∈ t.offset, o.natAbs < 86400 := by
    rintro o ⟨⟩
    decide
  have universal : DateTime.OnCalendar t.instant := by decide +kernel
  obtain ⟨u, told, _, _, atEnd, _⟩ :=
    bounds_tell_instant host sound "ISO" value t isRead small universal
  let march : DateTime := ⟨⟨2024, 3, 1, by decide, by decide, by decide⟩,
    ⟨5, 0, 0, 500000, by decide, by decide, by decide, by decide⟩, none⟩
  have sameInstant : march.wallMicros = t.instant := by decide +kernel
  have shown : u.indexText = "2024-03-01T05:00:00" := by
    rw [DateTime.indexText_eq_of_wallMicros_eq (told.trans sameInstant.symm)]
    decide +kernel
  refine ⟨sound, isRead, small, universal, ?_⟩
  rw [(atEnd _ rfl (by decide)).2, shown]
  rfl

end DateRange

end SolrRequest
