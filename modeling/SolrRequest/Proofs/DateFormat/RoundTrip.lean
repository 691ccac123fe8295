import SolrRequest.DateText
import SolrRequest.Host.Standard
import SolrRequest.Proofs.DateFormat.Selection
import SolrRequest.Proofs.DateFormat.Writing

/-!
# Reading what was written

A date and time that is written in a layout of a year, a day and parts of a time is read back by the
same format. Everything that the layout tells is recovered, and the parts of the time that it leaves
out are zero.
-/

namespace SolrRequest

open Text

/-- The date, the parts of the time that the tokens tell, and the offset if one is written. -/
structure Recovers (selection : Selection) (place : OffsetPlace) (t r : DateTime) : Prop where
  date : r.date = t.date
  hour : r.time.hour = selection.told .hour t.time.hour
  minute : r.time.minute = selection.told .minute t.time.minute
  second : r.time.second = selection.told .second t.time.second
  micro : r.time.micro = selection.told .fraction (t.time.micro / 1000 * 1000)
  offset : r.offset = if place.tokens = [] then none else some (t.offset.getD 0)

namespace DateLayout

variable {layout : DateLayout} {selection : Selection} {t : DateTime}

theorem eq_offset_of_mem_place {place : OffsetPlace} {token : Token}
    (membership : token ∈ place.tokens) : token = .offset := by
  cases place with
  | absent => cases membership
  | attached => exact List.mem_singleton.mp membership
  | joined joint => exact List.mem_singleton.mp membership

theorem arranges (arranged : layout.tokens.Perm selection.all) :
    selection.Arranges (layout.tokens ++ layout.place.tokens) := by
  have inPlace : ∀ token, token ≠ .offset →
      (token ∈ layout.tokens ++ layout.place.tokens ↔ token ∈ selection.all) := by
    intro token notOffset
    rw [List.mem_append, arranged.mem_iff]
    exact or_iff_left fun membership => notOffset (eq_offset_of_mem_place membership)
  refine ⟨?_, ?_⟩
  · intro token part tells
    rw [inPlace token (by rintro rfl; cases tells), Selection.mem_all_iff tells]
  · rw [inPlace .epoch (by decide)]
    exact Selection.not_mem_all rfl

theorem offset_mem_iff (arranged : layout.tokens.Perm selection.all) :
    .offset ∈ layout.tokens ++ layout.place.tokens ↔ layout.place.tokens ≠ [] := by
  have noOffset : .offset ∉ layout.tokens := fun membership =>
    Selection.not_mem_all rfl (arranged.mem_iff.mp membership)
  cases place : layout.place <;> simp [OffsetPlace.tokens, noOffset]

theorem takes_shown (arranged : layout.tokens.Perm selection.all) :
    ∀ token ∈ layout.tokens, token.Takes (t.shown token) := by
  intro token membership
  rw [arranged.mem_iff] at membership
  refine DateTime.takes_shown ?_ ?_
  · rintro rfl
    exact Selection.not_mem_all rfl membership
  · rintro rfl
    exact Selection.not_mem_all rfl membership

theorem exists_recovered (arranged : layout.tokens.Perm selection.all)
    (tellable : t.HasTellableOffset) : ∃ r,
      (t.captures (layout.tokens ++ layout.place.tokens)).toDateTime = .ok r ∧
        Recovers selection layout.place t r := by
  obtain ⟨time, denoted, hour, minute, second, micro⟩ :=
    (arranges arranged).exists_dateTime (t := t)
  refine ⟨_, denoted, rfl, hour, minute, second, micro, ?_⟩
  rw [DateTime.offset_captures tellable, if_congr (offset_mem_iff arranged) rfl rfl]
  exact ite_not _ _ _

end DateLayout

/-! ## Formats with a name -/

namespace DateLayout

def monthAndDay : List Link :=
  [(.ofChar '-' (by decide), .paddedMonth), (.ofChar '-' (by decide), .paddedDay)]

def minuteAndSecond : List Link :=
  [(.ofChar ':' (by decide), .paddedMinute), (.ofChar ':' (by decide), .paddedSecond)]

def calendarDate : DateLayout :=
  ⟨.year, monthAndDay, .absent⟩

def ordinalDate : DateLayout :=
  ⟨.year, [(.ofChar '-' (by decide), .dayOfYear)], .absent⟩

def simpleIso : DateLayout :=
  ⟨.year, monthAndDay ++ (.ofChar ' ' (by decide), .paddedHour) :: minuteAndSecond, .absent⟩

def iso : DateLayout :=
  ⟨.year, monthAndDay ++ (.letterT, .paddedHour) :: minuteAndSecond ++
    [(.ofChar '.' (by decide), .fraction)], .attached⟩

end DateLayout

/-- The tokens of the formats that have a name, with or without a time and a fraction. -/
def Selection.named (day : List Token) (known : day ∈ DatePart.day.choices)
    (timed fractional : Bool) : Selection where
  tokens
    | .year => [.year]
    | .day => day
    | .hour => if timed then [.paddedHour] else []
    | .minute => if timed then [.paddedMinute] else []
    | .second => if timed then [.paddedSecond] else []
    | .fraction => if fractional then [.fraction] else []
  allowed part := by
    cases part with
    | day => exact known
    | year => exact List.mem_singleton_self _
    | hour => cases timed <;> simp [DatePart.choices]
    | minute => cases timed <;> simp [DatePart.choices]
    | second => cases timed <;> simp [DatePart.choices]
    | fraction => cases fractional <;> simp [DatePart.choices]

namespace DateFormat

theorem resolve_eq {format : String} {layout : DateLayout}
    (stands : format = layout.text ∨ (format, layout.text) ∈ named) :
    resolve format = layout.text := by
  have resolved : ∀ entry ∈ named, resolve entry.1 = entry.2 := by decide
  rcases stands with rfl | membership
  · exact layout.resolve_text
  · exact resolved _ membership

/-- Every format with a name, except for that of milliseconds, is the text of a layout. -/
theorem exists_layout_of_named {name text : String} (membership : (name, text) ∈ named)
    (notMillis : name ≠ "MILLIS") : ∃ (layout : DateLayout) (selection : Selection),
      layout.text = text ∧ layout.tokens.Perm selection.all := by
  simp only [named, List.mem_cons, List.not_mem_nil, or_false, Prod.mk.injEq] at membership
  rcases membership with ⟨rfl, rfl⟩ | ⟨rfl, rfl⟩ | ⟨rfl, rfl⟩ | ⟨rfl, rfl⟩ | ⟨rfl, rfl⟩
  · exact ⟨.simpleIso, .named [.paddedMonth, .paddedDay] (by decide) true false, rfl, by decide⟩
  · exact ⟨.ordinalDate, .named [.dayOfYear] (by decide) false false, rfl, by decide⟩
  · exact absurd rfl notMillis
  · exact ⟨.iso, .named [.paddedMonth, .paddedDay] (by decide) true true, rfl, by decide⟩
  · exact ⟨.calendarDate, .named [.paddedMonth, .paddedDay] (by decide) false false, rfl,
      by decide⟩

/-- A date and time that was written fits the same format again, and what the format tells of it is
read back. Its tokens stand in any order, and the format may be given by its name. -/
theorem read_write (format : String) (layout : DateLayout) (selection : Selection)
    (stands : format = layout.text ∨ (format, layout.text) ∈ named)
    (arranged : layout.tokens.Perm selection.all) (t : DateTime)
    (tellable : t.HasTellableOffset) (host : Host) : ∃ text r,
      write format t = .ok text ∧ read? format (strip text) = some (.ok r) ∧
        DateText.read host format (.text text) = .ok (some r) ∧
        Recovers selection layout.place t r := by
  have resolved := resolve_eq stands
  have takes := DateLayout.takes_shown (t := t) arranged
  have trimmed := DateLayout.isTrimmed_shown tellable takes
  obtain ⟨r, denoted, recovers⟩ := DateLayout.exists_recovered arranged tellable
  have fits : read? format (String.ofList (layout.spell t.shown)) = some (.ok r) := by
    rw [read?, DateLayout.items_eq resolved, DateLayout.ofItems, String.toList_ofList,
      layout.ofText?_spell takes (DateTime.isOffset_shown tellable)]
    exact congrArg some denoted
  refine ⟨_, r, DateLayout.write_eq_ok resolved tellable takes, ?_, ?_, recovers⟩
  · rw [trimmed.strip_eq, fits]
  · simp only [DateText.read, Value.text?, trimmed.allBlank_eq_false, trimmed.strip_eq,
      Bool.false_eq_true, if_false, DateText.ofText, fits]

/-- A day of the year and a clock with twelve hours, with signs among the separators. -/
def ordinalLayout : DateLayout where
  first := .dayOfYear
  links := [(.ofChar '/' (by decide), .year), (.letterT, .paddedClockHour),
    (.ofChar ' ' (by decide), .halfDay), (.ofChar '+' (by decide), .minute)]
  place := .joined (.ofChar '-' (by decide))

def ordinalSelection : Selection where
  tokens
    | .year => [.year]
    | .day => [.dayOfYear]
    | .hour => [.paddedClockHour, .halfDay]
    | .minute => [.minute]
    | .second => []
    | .fraction => []
  allowed part := by cases part <;> decide

/-- An afternoon of the last day of February, west of Greenwich. -/
def leapDay : DateTime where
  date := ⟨2024, 2, 29, by decide, by decide, by decide⟩
  time := ⟨13, 7, 5, 250000, by decide, by decide, by decide, by decide⟩
  offset := some (-19800)

theorem read_write_leapDay : "DDD/YYYYThh A+m-Z" = ordinalLayout.text ∧
    ordinalLayout.tokens.Perm ordinalSelection.all ∧ leapDay.HasTellableOffset ∧
    ∃ text r, write "DDD/YYYYThh A+m-Z" leapDay = .ok text ∧
      read? "DDD/YYYYThh A+m-Z" (strip text) = some (.ok r) ∧
      DateText.read (.standard leapDay.date) "DDD/YYYYThh A+m-Z" (.text text) = .ok (some r) ∧
      Recovers ordinalSelection ordinalLayout.place leapDay r := by
  have arranged : ordinalLayout.tokens.Perm ordinalSelection.all := by decide
  have tellable : leapDay.HasTellableOffset := by
    rintro o ⟨⟩
    decide
  exact ⟨rfl, arranged, tellable, read_write _ ordinalLayout ordinalSelection (.inl rfl) arranged
    leapDay tellable (.standard leapDay.date)⟩

example : write "DDD/YYYYThh A+m-Z" leapDay = .ok "60/2024T01 PM+7--05:30" := by cbv

end DateFormat

end SolrRequest
