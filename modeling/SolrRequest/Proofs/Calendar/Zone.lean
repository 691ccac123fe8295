import SolrRequest.Calendar.Zone
import SolrRequest.Proofs.Calendar.WallClock

/-!
# Clocks of zones

An instant that is told by the clock of a zone stays the same instant, if the clock tells the offset
by which it is ahead. It is told only if universal time tells it as well.
-/

namespace SolrRequest

namespace Zone

/-- Every offset that the clock tells is less than a day either way. -/
structure IsBounded (z : Zone) : Prop where
  offsetAt : ∀ second, (z.offsetAt second).natAbs < 86400
  offsetAtWall : ∀ wall, (z.offsetAtWall wall).natAbs < 86400

/-- At an instant the clock tells the offset by which it is ahead. -/
def TellsShift (z : Zone) (second : Int) : Prop :=
  z.offsetAt second = z.shiftAt second

end Zone

namespace DateTime

def second (t : DateTime) : Int :=
  (t.instant - epochMicros).fdiv 1000000

/-- The offset, if there is one, is less than a day either way. -/
def HasSmallOffset (t : DateTime) : Prop :=
  ∀ o ∈ t.offset, o.natAbs < 86400

theorem hasSmallOffset_of_eq {t : DateTime} {o : Int} (aware : t.offset = some o)
    (small : o.natAbs < 86400) : t.HasSmallOffset := by
  rw [HasSmallOffset, aware]
  rintro o ⟨⟩
  exact small

theorem offsetToTell_eq_ok {t : DateTime} (small : t.HasSmallOffset) :
    t.offsetToTell = .ok t.offset := by
  unfold offsetToTell
  split
  · next noOffset => rw [noOffset]
  · next o aware => rw [if_pos (small o aware), aware]

/-- The clock of a zone is set by the shift that holds at the instant. -/
theorem inZone_eq {t : DateTime} {zone : Zone} (small : t.HasSmallOffset)
    (universal : OnCalendar t.instant) : t.inZone zone =
      ofWallMicros (t.instant + zone.shiftAt t.second * 1000000)
        (some (zone.offsetAt t.second)) := by
  obtain ⟨v, instant⟩ := exists_wallMicros_eq universal
  have second : DateTime.wallSecond { v with offset := none } = t.second := by
    rw [wallSecond, second, ← instant]
    rfl
  rw [inZone, offsetToTell_eq_ok small, ofWallMicros_eq_ok instant]
  simp only [bind, Except.bind, second]

theorem inZone_eq_ok {t u : DateTime} {zone : Zone} (small : t.HasSmallOffset)
    (universal : OnCalendar t.instant)
    (told : u.wallMicros = t.instant + zone.shiftAt t.second * 1000000) :
    t.inZone zone = .ok { u with offset := some (zone.offsetAt t.second) } := by
  rw [inZone_eq small universal]
  exact ofWallMicros_eq_ok told _

/-- An instant outside the years 1 to 9999 of universal time is told by no clock. -/
theorem inZone_eq_error {t : DateTime} {zone : Zone} (small : t.HasSmallOffset)
    (outside : ¬ OnCalendar t.instant) : t.inZone zone = .error .leftCalendar := by
  rw [inZone, offsetToTell_eq_ok small, ofWallMicros_eq_error outside]
  rfl

theorem exists_inZone {t : DateTime} {zone : Zone} (small : t.HasSmallOffset)
    (universal : OnCalendar t.instant) (told : zone.TellsShift t.second)
    (converted : OnCalendar (t.instant + zone.offsetAt t.second * 1000000)) :
    ∃ u, t.inZone zone = .ok u ∧ u.instant = t.instant ∧
      u.offset = some (zone.offsetAt t.second) := by
  obtain ⟨u, shown⟩ := exists_wallMicros_eq converted
  have moved : u.wallMicros = t.instant + zone.shiftAt t.second * 1000000 := by
    rw [shown, told]
  refine ⟨_, inZone_eq_ok small universal moved, ?_, rfl⟩
  change u.wallMicros - zone.offsetAt t.second * 1000000 = t.instant
  omega

end DateTime

end SolrRequest
