import SolrRequest.Proofs.DateFormat.RoundTrip
import SolrRequest.Proofs.Faults
import SolrRequest.Proofs.Host

/-!
# Conversion between zones

A date and time with an offset, written on the clock of a zone, is read back as the same instant to
the millisecond. The offset that is written tells the two hours apart that a clock shows twice when
it is set back. The conversion goes through universal time and fails where that leaves the calendar,
even if the clock of the zone could tell the instant. Only a date that is on that clock already is
written as it stands.
-/

namespace SolrRequest

namespace DateText

theorem read_text_of_fits {host : Host} {format s : String} {t : DateTime}
    (visible : Text.allBlank s = false)
    (fits : DateFormat.read? format (Text.strip s) = some (.ok t)) :
    read host format (.text s) = .ok (some t) := by
  simp only [read, Value.text?, visible, Bool.false_eq_true, if_false, ofText, fits]

-- The hypothesis is one that can be decided, for the texts of the examples.
theorem read_text_of_told {host : Host} {format s : String} {t : DateTime}
    (visible : Text.allBlank s = false)
    (told : (DateFormat.read? format (Text.strip s)).map Except.toOption = some (some t)) :
    read host format (.text s) = .ok (some t) := by
  obtain ⟨x, found, value⟩ := Option.map_eq_some_iff.mp told
  exact read_text_of_fits visible (found.trans (congrArg some (eq_ok_of_toOption value)))

end DateText

namespace DateLayout

theorem exists_read {format : String} {layout : DateLayout} {selection : Selection} {t : DateTime}
    (resolved : DateFormat.resolve format = layout.text)
    (arranged : layout.tokens.Perm selection.all) (tellable : t.HasTellableOffset) :
    ∃ text r, DateFormat.write format t = .ok text ∧
      (∀ host, DateText.read host format (.text text) = .ok (some r)) ∧
      Recovers selection layout.place t r := by
  have takes := takes_shown (t := t) arranged
  have trimmed := isTrimmed_shown tellable takes
  obtain ⟨r, denoted, recovers⟩ := exists_recovered arranged tellable
  refine ⟨_, r, write_eq_ok resolved tellable takes, fun host => ?_, recovers⟩
  refine DateText.read_text_of_fits trimmed.allBlank_eq_false ?_
  rw [trimmed.strip_eq, DateFormat.read?, items_eq resolved, ofItems, String.toList_ofList,
    layout.ofText?_spell takes (DateTime.isOffset_shown tellable)]
  exact congrArg some denoted

/-- The layout of ISO tells every part of a date and time. -/
def isoSelection : Selection :=
  .named [.paddedMonth, .paddedDay] (by decide) true true

theorem resolve_iso : DateFormat.resolve "ISO" = iso.text := rfl

theorem arranged_iso : iso.tokens.Perm isoSelection.all := by decide

theorem told_isoSelection (part : DatePart) (n : Nat) : isoSelection.told part n = n := by
  cases part <;> rfl

end DateLayout

namespace Recovers

variable {t r : DateTime}

theorem wallMicros {place : OffsetPlace} (recovers : Recovers DateLayout.isoSelection place t r) :
    r.wallMicros = t.wallMicros / 1000 * 1000 := by
  obtain ⟨date, hour, minute, second, micro, _⟩ := recovers
  simp only [DateLayout.told_isoSelection] at hour minute second micro
  simp only [DateTime.wallMicros, TimeOfDay.micros, DateTime.dayMicros, date, hour, minute, second,
    micro]
  omega

theorem instant (recovers : Recovers DateLayout.isoSelection DateLayout.iso.place t r) :
    r.instant = t.instant / 1000 * 1000 := by
  have wall := recovers.wallMicros
  have offset : r.offset.getD 0 = t.offset.getD 0 := by
    rw [recovers.offset]
    rfl
  rw [DateTime.instant, DateTime.instant, wall, offset]
  omega

end Recovers

theorem DateTime.hasTellableOffset_of_eq {t : DateTime} {o : Int} (aware : t.offset = some o)
    (wholeMinutes : o % 60 = 0) (bounded : o.natAbs < 86400) : t.HasTellableOffset := by
  rw [HasTellableOffset, aware]
  rintro o ⟨⟩
  exact ⟨wholeMinutes, bounded⟩

namespace DateText

variable {host : Host} {style : Style} {value : Value} {clock : Option String} {t : DateTime}
  {zone : Zone}

theorem zone?_of_name {name : String} (nonempty : name ≠ "")
    (known : host.zone? name = some zone) :
    (Style.zoneName? (some name)).bind host.zone? = some zone := by
  have filled : name.toList.isEmpty = false := by simpa using nonempty
  rw [Style.zoneName?, Option.filter_some, filled]
  exact known

theorem outputZone?_eq {name : String} (output : style.outputZone = some name)
    (nonempty : name ≠ "") (known : host.zone? name = some zone) :
    style.outputZone? host = some zone := by
  rw [Style.outputZone?, output]
  exact zone?_of_name nonempty known

theorem inputZone?_eq {name : String} (input : style.inputZone = some name)
    (nonempty : name ≠ "") (known : host.zone? name = some zone) :
    style.inputZone? host = some zone := by
  rw [Style.inputZone?, input]
  exact zone?_of_name nonempty known

theorem exists_zone?_of_outputZone? (zoned : style.outputZone? host = some zone) :
    ∃ name, host.zone? name = some zone := by
  obtain ⟨name, _, known⟩ := Option.bind_eq_some_iff.mp zoned
  exact ⟨name, known⟩

theorem render_eq (isRead : read host style.input value = .ok (some t)) :
    render host style value =
      convert host style (host.clock? value) t >>= DateFormat.write style.output := by
  rw [render, isRead]
  rfl

theorem convert_eq_inZone (zoned : style.outputZone? host = some zone) {o : Int}
    (aware : t.offset = some o) (foreign : clock ≠ some zone.name) :
    convert host style clock t = t.inZone zone := by
  rw [convert, zoned, aware]
  exact if_neg (by simpa using foreign)

theorem convert_eq_self (zoned : style.outputZone? host = some zone) {o : Int}
    (aware : t.offset = some o) (own : clock = some zone.name) :
    convert host style clock t = .ok t := by
  rw [convert, zoned, aware]
  exact if_pos (by simpa using own)

theorem render_eq_error (isRead : read host style.input value = .ok (some t))
    (zoned : style.outputZone? host = some zone) (foreign : host.clock? value ≠ some zone.name)
    {o : Int} (aware : t.offset = some o) (small : o.natAbs < 86400)
    (outside : ¬ DateTime.OnCalendar t.instant) :
    render host style value = .error .leftCalendar := by
  have smallOffset := DateTime.hasSmallOffset_of_eq aware small
  rw [render_eq isRead, convert_eq_inZone zoned aware foreign,
    DateTime.inZone_eq_error smallOffset outside]
  rfl

theorem exists_read_iso (tellable : t.HasTellableOffset) :
    ∃ text r, DateFormat.write "ISO" t = .ok text ∧
      (∀ later, read later "ISO" (.text text) = .ok (some r)) ∧
      r.instant = t.instant / 1000 * 1000 ∧ r.offset = some (t.offset.getD 0) := by
  obtain ⟨text, r, written, readBack, recovers⟩ :=
    DateLayout.exists_read DateLayout.resolve_iso DateLayout.arranged_iso tellable
  exact ⟨text, r, written, readBack, recovers.instant, recovers.offset⟩

/-- Whatever offsets a zone has, what is written on its clock is read back as the same instant to
the millisecond. -/
theorem exists_read_inZone (small : t.HasSmallOffset) (universal : DateTime.OnCalendar t.instant)
    (tells : zone.TellsShift t.second)
    (converted : DateTime.OnCalendar (t.instant + zone.offsetAt t.second * 1000000))
    (bounded : (zone.offsetAt t.second).natAbs < 86400)
    (wholeMinutes : zone.offsetAt t.second % 60 = 0) :
    ∃ text r, t.inZone zone >>= DateFormat.write "ISO" = .ok text ∧
      (∀ later, read later "ISO" (.text text) = .ok (some r)) ∧
      r.instant = t.instant / 1000 * 1000 ∧ r.offset = some (zone.offsetAt t.second) := by
  obtain ⟨u, told, sameInstant, offset⟩ := DateTime.exists_inZone small universal tells converted
  have tellable := DateTime.hasTellableOffset_of_eq offset wholeMinutes bounded
  obtain ⟨text, r, written, readBack, instant, readOffset⟩ := exists_read_iso tellable
  refine ⟨text, r, ?_, readBack, ?_, ?_⟩
  · rw [told]
    exact written
  · rw [instant, sameInstant]
  · rw [readOffset, offset]
    rfl

/-- A date and time with an offset is written on the clock of a known zone exactly if universal time
tells it too, or if it is on that clock already. What was written is read back as the same instant
to the millisecond, with the offset of the zone at that instant, or with the one that the date had
on the clock of the zone. -/
theorem render_keeps_instant (host : Host) (sound : host.IsSound) (style : Style) (value : Value)
    (t : DateTime) (o : Int) (name : String) (zone : Zone)
    (isRead : read host style.input value = .ok (some t)) (aware : t.offset = some o)
    (small : o.natAbs < 86400) (iso : style.output = "ISO")
    (output : style.outputZone = some name) (nonempty : name ≠ "")
    (known : host.zone? name = some zone) (tells : zone.TellsShift t.second)
    (wholeMinutes : zone.offsetAt t.second % 60 = 0)
    (converted : DateTime.OnCalendar (t.instant + zone.offsetAt t.second * 1000000)) :
    (host.clock? value ≠ some zone.name →
      (DateTime.OnCalendar t.instant → ∃ text r, render host style value = .ok text ∧
        (∀ later, read later "ISO" (.text text) = .ok (some r)) ∧
        r.instant = t.instant / 1000 * 1000 ∧ r.offset = some (zone.offsetAt t.second)) ∧
      (¬ DateTime.OnCalendar t.instant → render host style value = .error .leftCalendar)) ∧
    (host.clock? value = some zone.name → o % 60 = 0 →
      ∃ text r, render host style value = .ok text ∧
        (∀ later, read later "ISO" (.text text) = .ok (some r)) ∧
        r.instant = t.instant / 1000 * 1000 ∧ r.offset = some o) := by
  have zoned := outputZone?_eq output nonempty known
  constructor
  · intro foreign
    refine ⟨fun universal => ?_, render_eq_error isRead zoned foreign aware small⟩
    have bounded := (sound.bounded name zone known).offsetAt t.second
    rw [render_eq isRead, convert_eq_inZone zoned aware foreign, iso]
    exact exists_read_inZone (DateTime.hasSmallOffset_of_eq aware small) universal tells converted
      bounded wholeMinutes
  · intro own ownMinutes
    have tellable := DateTime.hasTellableOffset_of_eq aware ownMinutes small
    obtain ⟨text, r, written, readBack, instant, offset⟩ := exists_read_iso tellable
    refine ⟨text, r, ?_, readBack, instant, ?_⟩
    · rw [render_eq isRead, convert_eq_self zoned aware own, iso]
      exact written
    · rw [offset, aware]
      rfl

/-- The second of two hours that the clock of Madrid tells alike. -/
theorem render_keeps_instant_repeatedHour :
    let host := Host.standard ⟨2023, 7, 31, by decide, by decide, by decide⟩
    let style : Style := ⟨"ISO", "ISO", some "Europe/Madrid", none⟩
    let value : Value := .text "2020-10-25T01:30:00.250Z"
    let madrid := (Timetable.withSaving "Europe/Madrid" (-884) 3600 3600 Timetable.european).zone
    let t : DateTime := ⟨⟨2020, 10, 25, by decide, by decide, by decide⟩,
      ⟨1, 30, 0, 250000, by decide, by decide, by decide, by decide⟩, some 0⟩
    host.IsSound ∧ read host style.input value = .ok (some t) ∧
      host.zone? "Europe/Madrid" = some madrid ∧ madrid.TellsShift t.second ∧
      madrid.offsetAt t.second = 3600 ∧ madrid.offsetAt (t.second - 3600) = 7200 ∧
      DateTime.OnCalendar (t.instant + madrid.offsetAt t.second * 1000000) ∧
      host.clock? value ≠ some madrid.name ∧ DateTime.OnCalendar t.instant ∧
      ∃ text r, render host style value = .ok text ∧
        (∀ later, read later "ISO" (.text text) = .ok (some r)) ∧ r.instant = t.instant ∧
        r.offset = some 3600 := by
  intro host style value madrid t
  have sound : host.IsSound := Host.isSound_standard _
  have isRead : read host style.input value = .ok (some t) :=
    read_text_of_told (by decide) (by decide +kernel)
  have known : host.zone? "Europe/Madrid" = some madrid := rfl
  have tells : madrid.TellsShift t.second := Timetable.tellsShift_zone _ _
  have standard : madrid.offsetAt t.second = 3600 := by decide +kernel
  have summer : madrid.offsetAt (t.second - 3600) = 7200 := by decide +kernel
  have converted : DateTime.OnCalendar (t.instant + madrid.offsetAt t.second * 1000000) := by
    rw [standard]
    decide +kernel
  have foreign : host.clock? value ≠ some madrid.name := nofun
  have universal : DateTime.OnCalendar t.instant := by decide +kernel
  obtain ⟨text, r, written, readBack, instant, offset⟩ :=
    ((render_keeps_instant host sound style value t 0 "Europe/Madrid" madrid isRead rfl (by decide)
      rfl rfl (by decide) known tells (by rw [standard]; rfl) converted).1 foreign).1 universal
  rw [show t.instant / 1000 * 1000 = t.instant by decide +kernel] at instant
  rw [standard] at offset
  exact ⟨sound, isRead, known, tells, standard, summer, converted, foreign, universal, text, r,
    written, readBack, instant, offset⟩

/-- In New York the last evening of the year 9999 is still told when the year 10000 has begun in
universal time. -/
theorem render_leaves_calendar :
    let host := Host.standard ⟨2023, 7, 31, by decide, by decide, by decide⟩
    let style : Style := ⟨"ISO", "ISO", some "America/New_York", none⟩
    let value : Value := .text "9999-12-31T23:30:00.000-01:00"
    let newYork := (Timetable.withSaving "America/New_York" (-17762) (-18000) 3600
      (Timetable.northAmerican 7200 7200)).zone
    let t : DateTime := ⟨⟨9999, 12, 31, by decide, by decide, by decide⟩,
      ⟨23, 30, 0, 0, by decide, by decide, by decide, by decide⟩, some (-3600)⟩
    read host style.input value = .ok (some t) ∧
      host.zone? "America/New_York" = some newYork ∧ newYork.offsetAt t.second = -18000 ∧
      DateTime.OnCalendar (t.instant + newYork.offsetAt t.second * 1000000) ∧
      render host style value = .error .leftCalendar := by
  intro host style value newYork t
  have isRead : read host style.input value = .ok (some t) :=
    read_text_of_told (by decide) (by decide +kernel)
  have known : host.zone? "America/New_York" = some newYork := rfl
  have standard : newYork.offsetAt t.second = -18000 := by decide +kernel
  have converted : DateTime.OnCalendar (t.instant + newYork.offsetAt t.second * 1000000) := by
    rw [standard]
    decide +kernel
  have outside : ¬ DateTime.OnCalendar t.instant := by decide +kernel
  exact ⟨isRead, known, standard, converted,
    render_eq_error isRead (outputZone?_eq rfl (by decide) known) nofun rfl (by decide) outside⟩

end DateText

end SolrRequest
