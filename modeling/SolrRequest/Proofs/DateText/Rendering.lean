import SolrRequest.Proofs.DateText.Conversion
import SolrRequest.Proofs.Faults

/-!
# Dates that can be written

Two things keep a date that was read from being written. Its offset is a day or more and is asked
for, or the calendar ends before the clock of a zone tells its instant.
-/

namespace SolrRequest

def Token.tellsOffset : Token → Bool
  | offset | epoch => true
  | _ => false

def Item.tellsOffset : Item → Bool
  | token t => t.tellsOffset
  | plain _ => false

def DateFormat.tellsOffset (format : String) : Bool :=
  (items format).any Item.tellsOffset

namespace DateTime

variable {t : DateTime} {e : DateError}

theorem offsetToTell_eq_error_iff :
    t.offsetToTell = .error e ↔ ¬ t.HasSmallOffset ∧ e = .offsetTooLarge := by
  by_cases small : t.HasSmallOffset
  · simp [offsetToTell_eq_ok small, small]
  · obtain ⟨o, aware, large⟩ : ∃ o ∈ t.offset, ¬ o.natAbs < 86400 := by
      simpa [HasSmallOffset] using small
    rw [Option.mem_def] at aware
    simp [offsetToTell, aware, large, small, eq_comm]

theorem part_eq_error_iff {token : Token} : t.part token = .error e ↔
    token.tellsOffset = true ∧ ¬ t.HasSmallOffset ∧ e = .offsetTooLarge := by
  cases token with
  | offset =>
    rw [part, offsetText, bind_eq_error, offsetToTell_eq_error_iff]
    simp [Token.tellsOffset, pure, Except.pure]
  | epoch =>
    rw [part, map_eq_error, epochMillis, bind_eq_error, offsetToTell_eq_error_iff]
    simp [Token.tellsOffset, pure, Except.pure]
  | _ => simp [part, Token.tellsOffset]

theorem itemText_eq_error_iff {item : Item} : t.itemText item = .error e ↔
    item.tellsOffset = true ∧ ¬ t.HasSmallOffset ∧ e = .offsetTooLarge := by
  cases item with
  | token token => exact part_eq_error_iff
  | plain c => simp [itemText, Item.tellsOffset]

theorem exists_itemText {item : Item} :
    (∃ s, t.itemText item = .ok s) ↔ (item.tellsOffset = true → t.HasSmallOffset) := by
  simp only [exists_ok_iff, ne_eq, itemText_eq_error_iff]
  constructor
  · intro noFault tells
    by_contra large
    exact noFault .offsetTooLarge ⟨tells, large, rfl⟩
  · rintro small e ⟨tells, large, _⟩
    exact large (small tells)

end DateTime

namespace DateFormat

variable {t : DateTime} {e : DateError}

theorem writeItems_eq_error_iff {items : List Item} : writeItems t items = .error e ↔
    items.any Item.tellsOffset = true ∧ ¬ t.HasSmallOffset ∧ e = .offsetTooLarge := by
  induction items with
  | nil => simp [writeItems]
  | cons item items inductionHypothesis =>
    have rest (s : String) : (do return s ++ (← writeItems t items)) = Except.error e ↔
        writeItems t items = .error e := by
      rw [bind_eq_error]
      simp [pure, Except.pure]
    rw [writeItems, bind_eq_error]
    simp only [rest, exists_and_right, DateTime.exists_itemText, DateTime.itemText_eq_error_iff,
      inductionHypothesis, List.any_cons, Bool.or_eq_true]
    tauto

theorem write_eq_error_iff {format : String} : write format t = .error e ↔
    tellsOffset format = true ∧ ¬ t.HasSmallOffset ∧ e = .offsetTooLarge :=
  writeItems_eq_error_iff

end DateFormat

namespace DateTime

variable {t u : DateTime} {zone : Zone} {e : DateError}

/-- The instant is on the calendar, as universal time tells it and as the clock of the zone does. -/
def IsToldIn (t : DateTime) (zone : Zone) : Prop :=
  OnCalendar t.instant ∧ OnCalendar (t.instant + zone.shiftAt t.second * 1000000)

theorem inZone_eq_error_iff : t.inZone zone = .error e ↔
    ¬ t.HasSmallOffset ∧ e = .offsetTooLarge ∨
      t.HasSmallOffset ∧ ¬ t.IsToldIn zone ∧ e = .leftCalendar := by
  by_cases small : t.HasSmallOffset
  · by_cases universal : OnCalendar t.instant
    · by_cases converted : OnCalendar (t.instant + zone.shiftAt t.second * 1000000)
      · obtain ⟨u, shown⟩ := exists_wallMicros_eq converted
        simp [inZone_eq_ok small universal shown, small, IsToldIn, universal, converted]
      · rw [inZone_eq small universal, ofWallMicros_eq_error converted]
        simp [small, IsToldIn, converted, eq_comm]
    · rw [inZone_eq_error small universal]
      simp [small, IsToldIn, universal, eq_comm]
  · rw [inZone, offsetToTell_eq_error_iff.mpr ⟨small, rfl⟩]
    simp [small, bind, Except.bind, eq_comm]

theorem hasSmallOffset_inZone (bounded : zone.IsBounded) (told : t.inZone zone = .ok u) :
    u.HasSmallOffset := by
  rw [inZone] at told
  obtain ⟨_, _, told⟩ := bind_eq_ok.mp told
  obtain ⟨universal, _, told⟩ := bind_eq_ok.mp told
  apply hasSmallOffset_of_eq (eq_of_ofWallMicros told).2
  exact bounded.offsetAt universal.wallSecond

theorem hasSmallOffset_placedIn (bounded : zone.IsBounded) : (t.placedIn zone).HasSmallOffset := by
  apply hasSmallOffset_of_eq rfl
  exact bounded.offsetAtWall t.wallSecond

end DateTime

namespace DateText

namespace Style

/-- The offset of a date is asked for, to convert the date or to write it. -/
def asksOffset (style : Style) (host : Host) : Bool :=
  (style.outputZone? host).isSome || DateFormat.tellsOffset style.output

/-- An offset that is asked for is less than a day. -/
def FitsOffset (style : Style) (host : Host) (t : DateTime) : Prop :=
  style.asksOffset host = true → t.HasSmallOffset

/-- The instant is told by the clock of the output zone, unless the date is local or is on that
clock, by the name `clock`, already. -/
def FitsCalendar (style : Style) (host : Host) (clock : Option String) (t : DateTime) : Prop :=
  ∀ zone ∈ style.outputZone? host, t.offset.isSome = true → clock ≠ some zone.name →
    t.IsToldIn zone

theorem isBounded_outputZone {host : Host} {style : Style} {zone : Zone} (sound : host.IsSound)
    (zoned : style.outputZone? host = some zone) : zone.IsBounded := by
  obtain ⟨name, known⟩ := exists_zone?_of_outputZone? zoned
  exact sound.bounded name zone known

end Style

variable {host : Host} {style : Style} {value : Value} {clock : Option String} {t u : DateTime}
  {zone : Zone} {e : DateError}

theorem convert_eq_placedIn (zoned : style.outputZone? host = some zone)
    (noInput : style.inputZone = none) (naive : t.offset = none) :
    convert host style clock t = .ok (t.placedIn zone) := by
  have told : (style.inputZone? host).getD zone = zone := by
    rw [Style.inputZone?, noInput]
    rfl
  rw [convert, zoned, naive]
  simp only [told, beq_self_eq_true, if_true]

/-- A date on the clock of the output zone has an offset of less than a day. -/
theorem hasSmallOffset_of_own (sound : host.IsSound)
    (isRead : read host style.input value = .ok (some t))
    (zoned : style.outputZone? host = some zone) (own : host.clock? value = some zone.name) :
    t.HasSmallOffset := by
  obtain ⟨name, known⟩ := exists_zone?_of_outputZone? zoned
  intro o aware
  exact (sound.bounded name zone known).of_tells
    (sound.ofClock _ value t name zone o isRead aware own known)

theorem hasSmallOffset_convert (sound : host.IsSound)
    (isRead : read host style.input value = .ok (some t))
    (zoned : style.outputZone? host = some zone) (noInput : style.inputZone = none)
    (converted : convert host style (host.clock? value) t = .ok u) : u.HasSmallOffset := by
  have bounded := Style.isBounded_outputZone sound zoned
  cases offset : t.offset with
  | none =>
    rw [convert_eq_placedIn zoned noInput offset] at converted
    cases converted
    exact DateTime.hasSmallOffset_placedIn bounded
  | some o =>
    by_cases own : host.clock? value = some zone.name
    · rw [convert_eq_self zoned offset own] at converted
      cases converted
      exact hasSmallOffset_of_own sound isRead zoned own
    · rw [convert_eq_inZone zoned offset own] at converted
      exact DateTime.hasSmallOffset_inZone bounded converted

theorem convert_eq_error_iff (sound : host.IsSound)
    (isRead : read host style.input value = .ok (some t)) (noInput : style.inputZone = none) :
    convert host style (host.clock? value) t = .error e ↔
      (style.outputZone? host).isSome = true ∧ ¬ t.HasSmallOffset ∧ e = .offsetTooLarge ∨
        t.HasSmallOffset ∧ ¬ style.FitsCalendar host (host.clock? value) t ∧ e = .leftCalendar := by
  cases zoned : style.outputZone? host with
  | none => simp [convert, zoned, Style.FitsCalendar]
  | some zone =>
    cases offset : t.offset with
    | none =>
      have small : t.HasSmallOffset := by simp [DateTime.HasSmallOffset, offset]
      simp [convert_eq_placedIn zoned noInput offset, small, Style.FitsCalendar, offset]
    | some o =>
      by_cases own : host.clock? value = some zone.name
      · have small := hasSmallOffset_of_own sound isRead zoned own
        rw [convert_eq_self zoned offset own]
        simp [small, Style.FitsCalendar, zoned, own]
      · rw [convert_eq_inZone zoned offset own, DateTime.inZone_eq_error_iff]
        simp [Style.FitsCalendar, zoned, offset, own]

theorem render_eq_error_iff (sound : host.IsSound) (noInput : style.inputZone = none)
    (isRead : read host style.input value = .ok (some t)) : render host style value = .error e ↔
      ¬ style.FitsOffset host t ∧ e = .offsetTooLarge ∨
        style.FitsOffset host t ∧ ¬ style.FitsCalendar host (host.clock? value) t ∧
          e = .leftCalendar := by
  rw [render_eq isRead, bind_eq_error, convert_eq_error_iff sound isRead noInput]
  cases zoned : style.outputZone? host with
  | none =>
    simp [convert, zoned, DateFormat.write_eq_error_iff, Style.FitsOffset, Style.asksOffset,
      Style.FitsCalendar, and_assoc]
  | some zone =>
    have written : ¬ ∃ u, convert host style (host.clock? value) t = .ok u ∧
        DateFormat.write style.output u = .error e := by
      rintro ⟨u, converted, failed⟩
      have large := (DateFormat.write_eq_error_iff.mp failed).2.1
      exact large (hasSmallOffset_convert sound isRead zoned noInput converted)
    simp [written, Style.FitsOffset, Style.asksOffset, zoned]

theorem render_returns_iff (sound : host.IsSound) (noInput : style.inputZone = none)
    (isRead : read host style.input value = .ok (some t)) :
    (∃ s, render host style value = .ok s) ↔
      style.FitsOffset host t ∧ style.FitsCalendar host (host.clock? value) t := by
  simp only [exists_ok_iff, ne_eq, render_eq_error_iff sound noInput isRead]
  constructor
  · intro noFault
    have small := noFault .offsetTooLarge
    have told := noFault .leftCalendar
    simp only [reduceCtorEq, and_true, and_false, or_false, false_or] at small told
    tauto
  · tauto

/-- A text without a date stays as it is. -/
theorem render_of_none (isRead : read host style.input value = .ok none) {s : String}
    (text : value.text? = some s) : render host style value = .ok s := by
  rw [render, isRead]
  change value.write.mapError DateError.number = .ok s
  rw [Value.write_of_text? text]
  rfl

end DateText

end SolrRequest
