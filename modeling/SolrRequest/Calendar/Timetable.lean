import SolrRequest.Calendar.Zone

/-!
# Timetables of zones

A timetable lists, in ascending order, the periods of a zone that end, each with the offset that
holds until its end; after the last one the standard offset holds. The periods of a zone with
daylight saving time are made from the rules for its changeovers in the years 1999 to 2037; before
those it keeps standard time, and before that local mean time.
-/

namespace SolrRequest

/-- The offset in seconds that holds until an instant, in seconds of universal time since 1970. -/
structure Period where
  ending : Int
  offset : Int

structure Timetable where
  name : String
  periods : List Period
  /-- The offset after the last period that ends. -/
  standard : Int

namespace Timetable

def offsetAt (z : Timetable) (second : Int) : Int :=
  ((z.periods.find? fun p => second < p.ending).map Period.offset).getD z.standard

/-- A wall time that occurs twice is taken the first time. -/
def offsetAtWall (z : Timetable) (wall : Int) : Int :=
  ((z.periods.find? fun p => wall - p.offset < p.ending).map Period.offset).getD z.standard

/-- The clock tells the offset by which it is ahead. -/
def zone (z : Timetable) : Zone :=
  ⟨z.name, z.offsetAt, z.offsetAt, z.offsetAtWall⟩

end Timetable

/-! ## Rules for changeovers -/

inductive Sunday
  | last
  | onOrAfter (day : Nat)

/-- What the time of day of a changeover is told in. -/
inductive Reference
  | universal
  | standard
  | wall

structure Changeover where
  month : Nat
  sunday : Sunday
  second : Int
  reference : Reference

/-- Daylight saving from one changeover to another, in the years `first` to `last`. -/
structure Season where
  first : Nat
  last : Nat
  start : Changeover
  finish : Changeover

namespace Changeover

open Calendar

def day (c : Changeover) (year : Nat) : Int :=
  let before : Int := daysBeforeYear year + daysBeforeMonth year c.month
  let onOrAfter (d : Nat) : Int :=
    let n := before + d
    n + (7 - n % 7) % 7
  let n := match c.sunday with
    | .onOrAfter d => onOrAfter d
    | .last => onOrAfter (daysInMonth year c.month - 6)
  n - 719163

/-- The instant, where `standard` and `wall` are the offsets in force before it. -/
def instant (c : Changeover) (year : Nat) (standard wall : Int) : Int :=
  c.day year * 86400 + c.second - match c.reference with
    | .universal => 0
    | .standard => standard
    | .wall => wall

end Changeover

namespace Timetable

/-- The instant before which every zone keeps local mean time. -/
def meanTimeEnd : Int := -2147483648

/-- The start of the last day of 1998, from which the rules for changeovers hold. -/
def rulesStart : Int := 915062400

def fixed (name : String) (mean standard : Int) : Timetable :=
  { name, periods := [⟨meanTimeEnd, mean⟩], standard }

/-- The two periods of a year that end, in the order in which they end. -/
def yearPeriods (standard saving : Int) (seasons : List Season) (year : Nat) : List Period :=
  match seasons.find? fun s => s.first ≤ year && year ≤ s.last with
  | none => []
  | some s =>
    let start := s.start.instant year standard standard
    let finish := s.finish.instant year standard (standard + saving)
    if start ≤ finish then [⟨start, standard⟩, ⟨finish, standard + saving⟩]
    else [⟨finish, standard + saving⟩, ⟨start, standard⟩]

def withSaving (name : String) (mean standard saving : Int) (seasons : List Season) : Timetable :=
  { name
    periods := ⟨meanTimeEnd, mean⟩ :: ⟨rulesStart, standard⟩ ::
      (List.range' 1999 39).flatMap (yearPeriods standard saving seasons)
    standard }

/-- From the last Sunday of March to the last of October, at one o'clock universal time. -/
def european : List Season :=
  [⟨1999, 2037, ⟨3, .last, 3600, .universal⟩, ⟨10, .last, 3600, .universal⟩⟩]

/-- The dates of North America, at a time of day on the wall clock that changed once. -/
def northAmerican (early late : Int) : List Season :=
  [⟨1999, 2006, ⟨4, .onOrAfter 1, early, .wall⟩, ⟨10, .last, early, .wall⟩⟩,
    ⟨2007, 2010, ⟨3, .onOrAfter 8, early, .wall⟩, ⟨11, .onOrAfter 1, early, .wall⟩⟩,
    ⟨2011, 2011, ⟨3, .onOrAfter 8, early, .wall⟩, ⟨11, .onOrAfter 1, late, .wall⟩⟩,
    ⟨2012, 2037, ⟨3, .onOrAfter 8, late, .wall⟩, ⟨11, .onOrAfter 1, late, .wall⟩⟩]

def newZealand : List Season :=
  [⟨1999, 2006, ⟨10, .onOrAfter 1, 7200, .standard⟩, ⟨3, .onOrAfter 15, 7200, .standard⟩⟩,
    ⟨2007, 2007, ⟨9, .last, 7200, .standard⟩, ⟨3, .onOrAfter 15, 7200, .standard⟩⟩,
    ⟨2008, 2037, ⟨9, .last, 7200, .standard⟩, ⟨4, .onOrAfter 1, 7200, .standard⟩⟩]

def lordHowe : List Season :=
  [⟨1999, 1999, ⟨10, .last, 7200, .wall⟩, ⟨3, .last, 7200, .wall⟩⟩,
    ⟨2000, 2000, ⟨8, .last, 7200, .wall⟩, ⟨3, .last, 7200, .wall⟩⟩,
    ⟨2001, 2005, ⟨10, .last, 7200, .wall⟩, ⟨3, .last, 7200, .wall⟩⟩,
    ⟨2006, 2006, ⟨10, .last, 7200, .wall⟩, ⟨4, .onOrAfter 1, 7200, .wall⟩⟩,
    ⟨2007, 2007, ⟨10, .last, 7200, .wall⟩, ⟨3, .last, 7200, .wall⟩⟩,
    ⟨2008, 2037, ⟨10, .onOrAfter 1, 7200, .wall⟩, ⟨4, .onOrAfter 1, 7200, .wall⟩⟩]

def universal : Timetable := ⟨"UTC", [], 0⟩

def all : List Timetable :=
  [universal, { universal with name := "GMT" },
    withSaving "Europe/Madrid" (-884) 3600 3600 european,
    withSaving "America/New_York" (-17762) (-18000) 3600 (northAmerican 7200 7200),
    withSaving "America/St_Johns" (-12652) (-12600) 3600 (northAmerican 60 7200),
    fixed "Asia/Kolkata" 21208 19800,
    fixed "Asia/Kathmandu" 20476 20700,
    fixed "Asia/Tokyo" 33539 32400,
    withSaving "Australia/Lord_Howe" 38180 37800 1800 lordHowe,
    withSaving "Pacific/Auckland" 41944 43200 3600 newZealand]

/-- Names are told apart by case. -/
def ofName? (name : String) : Option Timetable :=
  all.find? (·.name == name)

end Timetable

end SolrRequest
