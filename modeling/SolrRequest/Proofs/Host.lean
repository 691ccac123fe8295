import SolrRequest.DateText
import SolrRequest.Host.Standard
import SolrRequest.Proofs.Calendar.Timetable

/-!
# What is relied on of a host

Universal time is known under its name and has no offset, the offsets of zones are less than a day,
and an asterisk is no date. A host with timetables is like that.
-/

namespace SolrRequest

/-- The offset is one that the clock of the zone tells at some time. -/
def Zone.Tells (z : Zone) (offset : Int) : Prop :=
  ∃ second, offset = z.offsetAt second ∨ offset = z.offsetAtWall second

structure Zone.IsUniversal (z : Zone) : Prop where
  shiftAt : ∀ second, z.shiftAt second = 0
  offsetAt : ∀ second, z.offsetAt second = 0
  offsetAtWall : ∀ wall, z.offsetAtWall wall = 0

namespace Host

structure IsSound (host : Host) : Prop where
  universal : ∃ zone, host.zone? "UTC" = some zone ∧ zone.IsUniversal
  bounded : ∀ name zone, host.zone? name = some zone → zone.IsBounded
  sameZone : ∀ name other zone otherZone, host.zone? name = some zone →
    host.zone? other = some otherZone → zone.name = otherZone.name → zone = otherZone
  /-- The offset of a date on the clock of a zone is told by that clock. -/
  ofClock : ∀ format value t name zone o, DateText.read host format value = .ok (some t) →
    t.offset = some o → host.clock? value = some zone.name → host.zone? name = some zone →
      zone.Tells o
  noDate : host.freeDate? "*" = none

end Host

theorem Zone.IsBounded.of_tells {z : Zone} (bounded : z.IsBounded) {o : Int} (tells : z.Tells o) :
    o.natAbs < 86400 := by
  obtain ⟨second, rfl | rfl⟩ := tells
  · exact bounded.offsetAt second
  · exact bounded.offsetAtWall second

theorem Zone.IsUniversal.eq_zero_of_tells {z : Zone} (universal : z.IsUniversal) {o : Int}
    (tells : z.Tells o) : o = 0 := by
  obtain ⟨second, rfl | rfl⟩ := tells
  · exact universal.offsetAt second
  · exact universal.offsetAtWall second

/-! ## The host with timetables -/

theorem Timetable.isUniversal_zone : Timetable.universal.zone.IsUniversal :=
  ⟨fun _ => rfl, fun _ => rfl, fun _ => rfl⟩

theorem FreeDate.read?_asterisk (today : Date) : read? today "*" = none := by
  have words : words "*" = [['*']] := by decide
  rw [read?, words]
  simp only [Draft.readWords]
  rfl

namespace Host

variable {today : Date} {name : String} {zone : Zone}

theorem exists_timetable (known : (standard today).zone? name = some zone) :
    ∃ z ∈ Timetable.all, z.name = name ∧ z.zone = zone := by
  obtain ⟨z, found, rfl⟩ := Option.map_eq_some_iff.mp known
  obtain ⟨listed, named⟩ := Timetable.mem_all_of_ofName? found
  exact ⟨z, listed, named, rfl⟩

theorem isSound_standard (today : Date) : (standard today).IsSound where
  universal := ⟨_, rfl, Timetable.isUniversal_zone⟩
  bounded := by
    intro name zone known
    obtain ⟨z, listed, _, rfl⟩ := exists_timetable known
    exact (Timetable.isBounded_of_mem_all z listed).zone
  sameZone := by
    intro name other zone otherZone known otherKnown same
    obtain ⟨z, _, rfl, rfl⟩ := exists_timetable known
    obtain ⟨w, _, rfl, rfl⟩ := exists_timetable otherKnown
    have sameName : z.name = w.name := same
    rw [sameName, otherKnown] at known
    exact (Option.some.inj known).symm
  ofClock := by
    intro format value t name zone o _ _ onClock
    cases onClock
  noDate := FreeDate.read?_asterisk today

end Host

end SolrRequest
