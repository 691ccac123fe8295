import Mathlib.Data.List.Chain
import SolrRequest.Calendar.Timetable
import SolrRequest.Proofs.Calendar.WallTime

/-!
# Clocks with a timetable

If no period is shorter than two days, the offset that is chosen for a wall time is the one of the
first instant at which the clock shows it. The timetables that are known by name are like that, and
have offsets of less than a day.
-/

namespace SolrRequest

namespace Timetable

/-! ## Offsets -/

/-- Every offset is less than a day either way. -/
structure IsBounded (z : Timetable) : Prop where
  standard : z.standard.natAbs < 86400
  periods : ∀ p ∈ z.periods, p.offset.natAbs < 86400

theorem IsBounded.offsetAt {z : Timetable} (bounded : z.IsBounded) (second : Int) :
    (z.offsetAt second).natAbs < 86400 := by
  unfold Timetable.offsetAt
  cases found : z.periods.find? fun p => second < p.ending with
  | none => exact bounded.standard
  | some p => exact bounded.periods p (List.mem_of_find?_eq_some found)

theorem IsBounded.offsetAtWall {z : Timetable} (bounded : z.IsBounded) (wall : Int) :
    (z.offsetAtWall wall).natAbs < 86400 := by
  unfold Timetable.offsetAtWall
  cases found : z.periods.find? fun p => wall - p.offset < p.ending with
  | none => exact bounded.standard
  | some p => exact bounded.periods p (List.mem_of_find?_eq_some found)

theorem offset_of_mem_yearPeriods {standard saving : Int} {seasons : List Season} {year : Nat}
    {p : Period} (membership : p ∈ yearPeriods standard saving seasons year) :
    p.offset = standard ∨ p.offset = standard + saving := by
  unfold yearPeriods at membership
  split at membership
  · cases membership
  · dsimp only at membership
    split at membership
    all_goals
      simp only [List.mem_cons, List.not_mem_nil, or_false] at membership
      rcases membership with rfl | rfl <;> simp

theorem isBounded_fixed (name : String) {mean standard : Int} (meanBound : mean.natAbs < 86400)
    (standardBound : standard.natAbs < 86400) : (fixed name mean standard).IsBounded where
  standard := standardBound
  periods := List.forall_mem_singleton.mpr meanBound

theorem isBounded_withSaving (name : String) {mean standard saving : Int} (seasons : List Season)
    (meanBound : mean.natAbs < 86400) (standardBound : standard.natAbs < 86400)
    (savingBound : (standard + saving).natAbs < 86400) :
    (withSaving name mean standard saving seasons).IsBounded where
  standard := standardBound
  periods := by
    refine List.forall_mem_cons.mpr ⟨meanBound, List.forall_mem_cons.mpr ⟨standardBound, ?_⟩⟩
    intro p membership
    obtain ⟨year, _, inYear⟩ := List.mem_flatMap.mp membership
    rcases offset_of_mem_yearPeriods inYear with offset | offset
    · rwa [offset]
    · rwa [offset]

theorem isBounded_of_mem_all : ∀ z ∈ all, z.IsBounded := by
  have universal (name : String) : IsBounded { universal with name } :=
    ⟨Nat.zero_lt_succ _, List.forall_mem_nil _⟩
  simp only [all, List.forall_mem_cons]
  exact ⟨universal "UTC", universal "GMT",
    isBounded_withSaving _ european (by decide) (by decide) (by decide),
    isBounded_withSaving _ (northAmerican 7200 7200) (by decide) (by decide) (by decide),
    isBounded_withSaving _ (northAmerican 60 7200) (by decide) (by decide) (by decide),
    isBounded_fixed _ (by decide) (by decide), isBounded_fixed _ (by decide) (by decide),
    isBounded_fixed _ (by decide) (by decide),
    isBounded_withSaving _ lordHowe (by decide) (by decide) (by decide),
    isBounded_withSaving _ newZealand (by decide) (by decide) (by decide), List.forall_mem_nil _⟩

/-! ## Wall times -/

/-- Every period lasts for two days or more, and every offset is less than a day. -/
structure IsRegular (z : Timetable) : Prop extends z.IsBounded where
  lasting : z.periods.IsChain fun p q => p.ending + 172800 ≤ q.ending

theorem offsetAt_cons (name : String) (p : Period) (periods : List Period) (standard second : Int) :
    offsetAt ⟨name, p :: periods, standard⟩ second =
      if second < p.ending then p.offset else offsetAt ⟨name, periods, standard⟩ second := by
  rw [offsetAt, List.find?_cons]
  split
  · next within => rw [if_pos (of_decide_eq_true within)]; rfl
  · next past => rw [if_neg (of_decide_eq_false past)]; rfl

theorem offsetAtWall_cons (name : String) (p : Period) (periods : List Period)
    (standard wall : Int) : offsetAtWall ⟨name, p :: periods, standard⟩ wall =
      if wall - p.offset < p.ending then p.offset
      else offsetAtWall ⟨name, periods, standard⟩ wall := by
  rw [offsetAtWall, List.find?_cons]
  split
  · next within => rw [if_pos (of_decide_eq_true within)]; rfl
  · next past => rw [if_neg (of_decide_eq_false past)]; rfl

theorem IsRegular.tail {name : String} {p : Period} {periods : List Period} {standard : Int}
    (regular : IsRegular ⟨name, p :: periods, standard⟩) :
    IsRegular ⟨name, periods, standard⟩ where
  standard := regular.standard
  periods := (List.forall_mem_cons.mp regular.periods).2
  lasting := regular.lasting.tail

/-- Shortly after a period, the next one has begun, and the clock is read by it. -/
theorem IsRegular.offsetAtWall_of_soon {name : String} {p : Period} {periods : List Period}
    {standard wall o : Int} (regular : IsRegular ⟨name, p :: periods, standard⟩)
    (shown : offsetAt ⟨name, periods, standard⟩ (wall - o) = o)
    (soon : wall - o < p.ending + 172800) : offsetAtWall ⟨name, periods, standard⟩ wall = o := by
  cases periods with
  | nil => exact shown
  | cons q periods =>
    have next := (List.isChain_cons_cons.mp regular.lasting).1
    have within : wall - o < q.ending := by omega
    rw [offsetAt_cons, if_pos within] at shown
    rw [offsetAtWall_cons, shown, if_pos within]

/-- If the clock shows a wall time at all, it does so with the offset that is chosen for it, and
with no greater one. -/
theorem IsRegular.offsetAt_sub_offsetAtWall {z : Timetable} (regular : z.IsRegular) {wall o : Int}
    (shown : z.offsetAt (wall - o) = o) :
    z.offsetAt (wall - z.offsetAtWall wall) = z.offsetAtWall wall ∧ o ≤ z.offsetAtWall wall := by
  obtain ⟨name, periods, standard⟩ := z
  induction periods with
  | nil =>
    have only : standard = o := shown
    exact ⟨rfl, only.ge⟩
  | cons p periods inductionHypothesis =>
    have bounded := regular.tail.toIsBounded.offsetAt (wall - o)
    have boundedWall := regular.tail.toIsBounded.offsetAtWall wall
    rw [offsetAtWall_cons]
    split
    · next within =>
      -- The period at hand is the first one that can show the wall time.
      rw [offsetAt_cons, if_pos within]
      rw [offsetAt_cons] at shown
      split at shown
      · exact ⟨rfl, shown.ge⟩
      · next past => exact ⟨rfl, by omega⟩
    · next past =>
      rw [offsetAt_cons] at shown
      have later : ¬ wall - o < p.ending := by
        intro within
        rw [if_pos within] at shown
        omega
      rw [if_neg later] at shown
      obtain ⟨consistent, greatest⟩ := inductionHypothesis regular.tail shown
      have laterChosen : ¬ wall - offsetAtWall ⟨name, periods, standard⟩ wall < p.ending := by
        intro within
        rw [shown] at bounded
        have chosen := regular.offsetAtWall_of_soon shown (by omega)
        omega
      rw [offsetAt_cons, if_neg laterChosen]
      exact ⟨consistent, greatest⟩

theorem isRegular_of_mem_all : ∀ z ∈ all, z.IsRegular := by
  have lasting : ∀ z ∈ all, z.periods.IsChain fun p q => p.ending + 172800 ≤ q.ending := by
    decide +kernel
  intro z known
  exact ⟨isBounded_of_mem_all z known, lasting z known⟩

theorem mem_all_of_ofName? {name : String} {z : Timetable} (known : ofName? name = some z) :
    z ∈ all ∧ z.name = name := by
  have passed := List.find?_some known
  exact ⟨List.mem_of_find?_eq_some known, beq_iff_eq.mp passed⟩

/-! ## The clock -/

theorem IsBounded.zone {z : Timetable} (bounded : z.IsBounded) : z.zone.IsBounded :=
  ⟨bounded.offsetAt, bounded.offsetAtWall⟩

theorem tellsShift_zone (z : Timetable) (second : Int) : z.zone.TellsShift second := rfl

theorem IsRegular.readsFirst_zone {z : Timetable} (regular : z.IsRegular) (wall : Int) :
    z.zone.ReadsFirst wall := by
  intro instant first
  have told := first.1.eq_sub
  obtain ⟨consistent, greatest⟩ :=
    regular.offsetAt_sub_offsetAtWall ((Zone.shows_iff told).mp first.1)
  have least : instant ≤ wall - z.offsetAtWall (secondOf wall) * 1000000 :=
    first.2 ((Zone.shows_iff rfl).mpr consistent)
  change z.offsetAtWall (secondOf wall) = _
  change z.zone.shiftAt (secondOf instant) ≤ _ at greatest
  omega

/-- If the clock shows a wall time with the offset that is chosen for it, it shows it so first. -/
theorem IsRegular.isLeast_zone {z : Timetable} (regular : z.IsRegular) {wall o : Int}
    (chosen : z.zone.offsetAtWall (secondOf wall) = o)
    (shown : z.zone.Shows (wall - o * 1000000) wall) :
    IsLeast {i | z.zone.Shows i wall} (wall - o * 1000000) := by
  refine ⟨shown, ?_⟩
  intro instant other
  have told := Zone.Shows.eq_sub other
  have greatest := (regular.offsetAt_sub_offsetAtWall ((Zone.shows_iff told).mp other)).2
  change z.zone.shiftAt (secondOf instant) ≤ z.zone.offsetAtWall (secondOf wall) at greatest
  rw [chosen] at greatest
  omega

end Timetable

end SolrRequest
