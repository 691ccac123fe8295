import SolrRequest.Proofs.DateText.Rendering

/-!
# Local dates and the zone of the input

The zone of the input says at which instant a local date is shown, provided that there is a known
zone for the output. Without one the wall time is written as universal time, so that the instant is
shifted by the offset of the zone of the input.
-/

namespace SolrRequest

namespace DateTime

variable {t : DateTime} {told : Zone} {i : Int}

/-- A local date is placed at the first instant at which the clock shows it. -/
theorem instant_placedIn (reads : told.ReadsFirst t.wallMicros)
    (first : IsLeast {j | told.Shows j t.wallMicros} i) : (t.placedIn told).instant = i :=
  (reads.eq_sub first).symm

theorem offset_placedIn (reads : told.ReadsFirst t.wallMicros)
    (first : IsLeast {j | told.Shows j t.wallMicros} i) :
    (t.placedIn told).offset = some (told.shiftAt (secondOf i)) :=
  congrArg some (reads i first)

theorem instant_of_naive (naive : t.offset = none) : t.instant = t.wallMicros := by
  rw [instant, naive]
  exact Int.sub_zero _

theorem hasTellableOffset_of_naive (naive : t.offset = none) : t.HasTellableOffset := by
  rw [HasTellableOffset, naive]
  rintro o ⟨⟩

end DateTime

namespace DateText

/-- What is written denotes an instant, told with an offset, as a text of ISO. -/
def Renders (host : Host) (style : Style) (value : Value) (instant offset : Int) : Prop :=
  ∃ text r, render host style value = .ok text ∧
    (∀ later, read later "ISO" (.text text) = .ok (some r)) ∧
    r.instant = instant ∧ r.offset = some offset

variable {host : Host} {style : Style} {value : Value} {clock : Option String} {t : DateTime}
  {zone told : Zone} {i : Int}

theorem convert_of_naive (zoned : style.outputZone? host = some zone)
    (toldIn : style.inputZone? host = some told) (naive : t.offset = none) :
    convert host style clock t =
      if told.name = zone.name then .ok (t.placedIn zone) else (t.placedIn told).inZone zone := by
  rw [convert, zoned, naive, toldIn]
  simp only [Option.getD_some, beq_iff_eq]

/-- On the clock that it was told by, a date is written as it stands. -/
theorem renders_sameZone (isRead : read host style.input value = .ok (some t))
    (naive : t.offset = none) (iso : style.output = "ISO")
    (toldIn : style.inputZone? host = some told) (bounded : told.IsBounded)
    (reads : told.ReadsFirst t.wallMicros) (first : IsLeast {j | told.Shows j t.wallMicros} i)
    (zoned : style.outputZone? host = some told) (tells : told.TellsShift (secondOf i))
    (wholeMinutes : told.offsetAt (secondOf i) % 60 = 0) :
    Renders host style value (i / 1000 * 1000) (told.offsetAt (secondOf i)) := by
  have offset := DateTime.offset_placedIn reads first
  rw [← tells] at offset
  have tellable := DateTime.hasTellableOffset_of_eq offset wholeMinutes (bounded.offsetAt _)
  obtain ⟨text, r, written, readBack, instant, readOffset⟩ := exists_read_iso tellable
  rw [DateTime.instant_placedIn reads first] at instant
  rw [offset] at readOffset
  refine ⟨text, r, ?_, readBack, instant, readOffset⟩
  rw [render_eq isRead, convert_of_naive zoned toldIn naive, if_pos rfl, iso]
  exact written

theorem render_otherZone (isRead : read host style.input value = .ok (some t))
    (naive : t.offset = none) (iso : style.output = "ISO")
    (toldIn : style.inputZone? host = some told) (zoned : style.outputZone? host = some zone)
    (other : told.name ≠ zone.name) :
    render host style value = (t.placedIn told).inZone zone >>= DateFormat.write "ISO" := by
  rw [render_eq isRead, convert_of_naive zoned toldIn naive, if_neg other, iso]

theorem renders_otherZone (sound : host.IsSound)
    (isRead : read host style.input value = .ok (some t)) (naive : t.offset = none)
    (iso : style.output = "ISO") (toldIn : style.inputZone? host = some told)
    (bounded : told.IsBounded) (reads : told.ReadsFirst t.wallMicros)
    (first : IsLeast {j | told.Shows j t.wallMicros} i)
    (zoned : style.outputZone? host = some zone) (other : told.name ≠ zone.name)
    (tells : zone.TellsShift (secondOf i)) (wholeMinutes : zone.offsetAt (secondOf i) % 60 = 0)
    (universal : DateTime.OnCalendar i)
    (converted : DateTime.OnCalendar (i + zone.offsetAt (secondOf i) * 1000000)) :
    Renders host style value (i / 1000 * 1000) (zone.offsetAt (secondOf i)) := by
  have small : (t.placedIn told).HasSmallOffset := DateTime.hasSmallOffset_placedIn bounded
  have boundedOutput := (Style.isBounded_outputZone sound zoned).offsetAt (secondOf i)
  obtain rfl := DateTime.instant_placedIn reads first
  rw [Renders, render_otherZone isRead naive iso toldIn zoned other]
  exact exists_read_inZone small universal tells converted boundedOutput wholeMinutes

/-- Without a known zone for the output, a local date is written as universal time. -/
theorem renders_of_noZone (isRead : read host style.input value = .ok (some t))
    (naive : t.offset = none) (iso : style.output = "ISO")
    (noZone : style.outputZone? host = none) :
    Renders host style value (t.wallMicros / 1000 * 1000) 0 := by
  obtain ⟨text, r, written, readBack, instant, offset⟩ :=
    exists_read_iso (DateTime.hasTellableOffset_of_naive naive)
  rw [DateTime.instant_of_naive naive] at instant
  rw [naive] at offset
  refine ⟨text, r, ?_, readBack, instant, offset⟩
  rw [render_eq isRead, convert, noZone, iso]
  exact written

theorem wall_eq_instant_iff (shown : told.Shows i t.wallMicros) :
    t.wallMicros / 1000 * 1000 = i / 1000 * 1000 ↔ told.shiftAt (secondOf i) = 0 := by
  rw [Zone.Shows] at shown
  omega

theorem eq_of_zones (sound : host.IsSound) {name : String} (known : host.zone? name = some told)
    (zoned : style.outputZone? host = some zone) (same : told.name = zone.name) : told = zone := by
  obtain ⟨other, knownOutput⟩ := exists_zone?_of_outputZone? zoned
  exact sound.sameZone name other told zone known knownOutput same

/-- With a known zone for the output, what is written denotes the first instant at which the clock
of the input zone shows the local date, unless universal time has to tell that instant and cannot.
Without one it denotes the wall time as universal time, which is another instant unless the input
zone has no offset then. -/
theorem render_reads_inputZone (host : Host) (sound : host.IsSound) (style : Style) (value : Value)
    (t : DateTime) (name : String) (told : Zone) (i : Int)
    (isRead : read host style.input value = .ok (some t)) (naive : t.offset = none)
    (iso : style.output = "ISO") (input : style.inputZone = some name) (nonempty : name ≠ "")
    (known : host.zone? name = some told) (reads : told.ReadsFirst t.wallMicros)
    (first : IsLeast {j | told.Shows j t.wallMicros} i) :
    (∀ zone, style.outputZone? host = some zone → zone.TellsShift (secondOf i) →
      zone.offsetAt (secondOf i) % 60 = 0 →
      DateTime.OnCalendar (i + zone.offsetAt (secondOf i) * 1000000) →
      (zone = told ∨ DateTime.OnCalendar i →
        Renders host style value (i / 1000 * 1000) (zone.offsetAt (secondOf i))) ∧
      (zone ≠ told → ¬ DateTime.OnCalendar i →
        render host style value = .error .leftCalendar)) ∧
    (style.outputZone? host = none → Renders host style value (t.wallMicros / 1000 * 1000) 0 ∧
      (t.wallMicros / 1000 * 1000 = i / 1000 * 1000 ↔ told.shiftAt (secondOf i) = 0)) := by
  have toldIn := inputZone?_eq input nonempty known
  have bounded := sound.bounded name told known
  constructor
  · intro zone zoned tells wholeMinutes converted
    by_cases same : told.name = zone.name
    · obtain rfl := eq_of_zones sound known zoned same
      refine ⟨fun _ => ?_, fun differs => (differs rfl).elim⟩
      exact renders_sameZone isRead naive iso toldIn bounded reads first zoned tells wholeMinutes
    · have differs : zone ≠ told := by
        rintro rfl
        exact same rfl
      constructor
      · intro universal
        exact renders_otherZone sound isRead naive iso toldIn bounded reads first zoned same tells
          wholeMinutes (universal.resolve_left differs) converted
      · intro _ outside
        rw [← DateTime.instant_placedIn reads first] at outside
        have small : (t.placedIn told).HasSmallOffset := DateTime.hasSmallOffset_placedIn bounded
        rw [render_otherZone isRead naive iso toldIn zoned same,
          DateTime.inZone_eq_error small outside]
        rfl
  · intro noZone
    exact ⟨renders_of_noZone isRead naive iso noZone, wall_eq_instant_iff first.1⟩

/-- The hour that the clock of Madrid shows twice, the first time, on the clock of New York. -/
theorem render_reads_inputZone_repeatedHour :
    let host := Host.standard ⟨2023, 7, 31, by decide, by decide, by decide⟩
    let style : Style := ⟨"SIMPLE_ISO", "ISO", some "America/New_York", some "Europe/Madrid"⟩
    let value : Value := .text "2020-10-25 02:30:00"
    let madrid := (Timetable.withSaving "Europe/Madrid" (-884) 3600 3600 Timetable.european).zone
    let newYork := (Timetable.withSaving "America/New_York" (-17762) (-18000) 3600
      (Timetable.northAmerican 7200 7200)).zone
    let t : DateTime := ⟨⟨2020, 10, 25, by decide, by decide, by decide⟩,
      ⟨2, 30, 0, 0, by decide, by decide, by decide, by decide⟩, none⟩
    let i := t.wallMicros - 7200 * 1000000
    host.IsSound ∧ read host style.input value = .ok (some t) ∧
      host.zone? "Europe/Madrid" = some madrid ∧ madrid.ReadsFirst t.wallMicros ∧
      IsLeast {j | madrid.Shows j t.wallMicros} i ∧ madrid.Shows (i + 3600 * 1000000) t.wallMicros ∧
      style.outputZone? host = some newYork ∧ newYork.TellsShift (secondOf i) ∧
      newYork.offsetAt (secondOf i) = -14400 ∧ DateTime.OnCalendar i ∧
      DateTime.OnCalendar (i + newYork.offsetAt (secondOf i) * 1000000) ∧
      Renders host style value i (-14400) := by
  intro host style value madrid newYork t i
  have sound : host.IsSound := Host.isSound_standard _
  have isRead : read host style.input value = .ok (some t) :=
    read_text_of_told (by decide) (by decide +kernel)
  have known : host.zone? "Europe/Madrid" = some madrid := rfl
  have regular := Timetable.isRegular_of_mem_all
    (Timetable.withSaving "Europe/Madrid" (-884) 3600 3600 Timetable.european)
    (.tail _ (.tail _ (.head _)))
  have reads : madrid.ReadsFirst t.wallMicros := regular.readsFirst_zone _
  have summer : madrid.offsetAtWall (secondOf t.wallMicros) = 7200 := by decide +kernel
  have shown : madrid.Shows i t.wallMicros := by
    rw [Zone.Shows]
    decide +kernel
  have shownAgain : madrid.Shows (i + 3600 * 1000000) t.wallMicros := by
    rw [Zone.Shows]
    decide +kernel
  have first : IsLeast {j | madrid.Shows j t.wallMicros} i := regular.isLeast_zone summer shown
  have zoned : style.outputZone? host = some newYork := rfl
  have tells : newYork.TellsShift (secondOf i) := Timetable.tellsShift_zone _ _
  have daylight : newYork.offsetAt (secondOf i) = -14400 := by decide +kernel
  have universal : DateTime.OnCalendar i := by decide +kernel
  have converted : DateTime.OnCalendar (i + newYork.offsetAt (secondOf i) * 1000000) := by
    rw [daylight]
    decide +kernel
  have renders := ((render_reads_inputZone host sound style value t "Europe/Madrid" madrid i isRead
    rfl rfl rfl (by decide) known reads first).1 newYork zoned tells (by rw [daylight]; rfl)
    converted).1 (.inr universal)
  rw [daylight, show i / 1000 * 1000 = i by decide +kernel] at renders
  exact ⟨sound, isRead, known, reads, first, shownAgain, zoned, tells, daylight, universal,
    converted, renders⟩

/-- In Madrid the clock showed noon at ten o'clock of universal time, and not at noon. -/
theorem render_forgets_inputZone :
    let host := Host.standard ⟨2023, 7, 31, by decide, by decide, by decide⟩
    let style : Style := ⟨"SIMPLE_ISO", "ISO", none, some "Europe/Madrid"⟩
    let value : Value := .text "2020-07-22 12:00:00"
    let madrid := (Timetable.withSaving "Europe/Madrid" (-884) 3600 3600 Timetable.european).zone
    let t : DateTime := ⟨⟨2020, 7, 22, by decide, by decide, by decide⟩,
      ⟨12, 0, 0, 0, by decide, by decide, by decide, by decide⟩, none⟩
    let i := t.wallMicros - 7200 * 1000000
    read host style.input value = .ok (some t) ∧ host.zone? "Europe/Madrid" = some madrid ∧
      IsLeast {j | madrid.Shows j t.wallMicros} i ∧
      render host style value = .ok "2020-07-22T12:00:00.000+00:00" ∧
      ∃ r, (∀ later, read later "ISO" (.text "2020-07-22T12:00:00.000+00:00") = .ok (some r)) ∧
        r.instant ≠ i / 1000 * 1000 := by
  intro host style value madrid t i
  have isRead : read host style.input value = .ok (some t) :=
    read_text_of_told (by decide) (by decide +kernel)
  have known : host.zone? "Europe/Madrid" = some madrid := rfl
  have summer : madrid.offsetAtWall (secondOf t.wallMicros) = 7200 := by decide +kernel
  have shown : madrid.Shows i t.wallMicros := by
    rw [Zone.Shows]
    decide +kernel
  have regular := Timetable.isRegular_of_mem_all
    (Timetable.withSaving "Europe/Madrid" (-884) 3600 3600 Timetable.european)
    (.tail _ (.tail _ (.head _)))
  have first : IsLeast {j | madrid.Shows j t.wallMicros} i := regular.isLeast_zone summer shown
  have written : render host style value = .ok "2020-07-22T12:00:00.000+00:00" := by
    rw [render_eq isRead]
    exact eq_ok_of_toOption (by decide +kernel)
  obtain ⟨text, r, rendered, readBack, instant, _⟩ := renders_of_noZone isRead rfl rfl rfl
  rw [written] at rendered
  obtain rfl := Except.ok.inj rendered
  refine ⟨isRead, known, first, written, r, readBack, ?_⟩
  rw [instant]
  decide +kernel

end DateText

end SolrRequest
