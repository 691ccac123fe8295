import Mathlib.Order.Bounds.Basic
import SolrRequest.Proofs.Calendar.Zone

/-!
# Instants of a wall time

A clock that is set forward leaves out wall times, and one that is set back shows some of them
twice. The offset that a zone gives to a wall time should be that of the first instant at which its
clock shows it.
-/

namespace SolrRequest

/-- The whole seconds since 1970 of an instant, which is told in microseconds since the year 1. -/
def secondOf (instant : Int) : Int :=
  (instant - DateTime.epochMicros).fdiv 1000000

theorem secondOf_sub (instant o : Int) :
    secondOf (instant - o * 1000000) = secondOf instant - o := by
  rw [secondOf, secondOf, Int.fdiv_eq_ediv_of_nonneg _ (by decide),
    Int.fdiv_eq_ediv_of_nonneg _ (by decide)]
  omega

namespace Zone

variable {z : Zone} {wall instant o : Int}

/-- At an instant the clock of the zone shows a wall time. -/
def Shows (z : Zone) (instant wall : Int) : Prop :=
  wall = instant + z.shiftAt (secondOf instant) * 1000000

/-- A wall time that the clock shows is read as the first instant at which it does. -/
def ReadsFirst (z : Zone) (wall : Int) : Prop :=
  ∀ instant, IsLeast {i | z.Shows i wall} instant →
    z.offsetAtWall (secondOf wall) = z.shiftAt (secondOf instant)

theorem shows_iff (told : instant = wall - o * 1000000) :
    z.Shows instant wall ↔ z.shiftAt (secondOf wall - o) = o := by
  rw [Shows, told, secondOf_sub]
  omega

theorem Shows.eq_sub (shown : z.Shows instant wall) :
    instant = wall - z.shiftAt (secondOf instant) * 1000000 := by
  rw [Shows] at shown
  omega

theorem ReadsFirst.eq_sub (reads : z.ReadsFirst wall)
    (first : IsLeast {i | z.Shows i wall} instant) :
    instant = wall - z.offsetAtWall (secondOf wall) * 1000000 := by
  rw [reads instant first]
  exact first.1.eq_sub

end Zone

end SolrRequest
