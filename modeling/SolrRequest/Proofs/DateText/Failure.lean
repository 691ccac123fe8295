import SolrRequest.DateText
import SolrRequest.Host.Standard
import SolrRequest.Proofs.Calendar.Epoch
import SolrRequest.Proofs.Faults

/-!
# Values that fail to be read

A value that denotes no date is read as none, whatever the reason, with one exception: a text whose
milliseconds lie so far away that the year does not fit thirty-two bits, while the seconds still fit
sixty-four. A host that lets the first number of seconds through that does not fit fails there too.
-/

namespace SolrRequest

namespace DateError

theorem escapes_iff {e : DateError} : e.escapes = true ↔ e = yearTooLarge := by
  cases e <;> simp [escapes]

/-- Only milliseconds can lie so far away. -/
def IsFar (e : DateError) : Prop :=
  e = yearTooLarge ∨ e = secondsAtLimit

end DateError

theorem Host.escapes_fault_iff {host : Host} {e : DateError} : (host.fault e).escapes = true ↔
    e = .yearTooLarge ∨ e = .secondsAtLimit ∧ host.takesLimit = true := by
  rw [DateError.escapes_iff]
  cases e with
  | secondsAtLimit => cases limit : host.takesLimit <;> simp [fault, limit]
  | _ => simp [fault]

section

variable {e : DateError}

theorem Date.of_ne_error_of_isFar (far : e.IsFar) (year month day : Nat) :
    Date.of year month day ≠ .error e := by
  unfold Date.of
  rcases far with rfl | rfl <;> split_ifs <;> simp

theorem Date.plusDays_ne_error_of_isFar (far : e.IsFar) (d : Date) (days : Int) :
    d.plusDays days ≠ .error e := by
  unfold Date.plusDays
  rcases far with rfl | rfl <;> split <;> simp

theorem TimeOfDay.of_ne_error_of_isFar (far : e.IsFar) (hour minute second micro : Nat) :
    TimeOfDay.of hour minute second micro ≠ .error e := by
  unfold TimeOfDay.of
  rcases far with rfl | rfl <;> split_ifs <;> simp

end

namespace Captures

theorem toDateTime_of_epoch {c : Captures} {digits : List Char}
    (epoch : c.last? .epoch = some digits) : c.toDateTime =
      (Integer.read (String.ofList digits)).mapError DateError.number >>=
        DateTime.ofEpochMillis := by
  have millis : c.epoch? =
      some ((Integer.read (String.ofList digits)).mapError DateError.number) := by
    rw [epoch?, epoch, Option.map_some]
  rw [toDateTime, millis]

theorem toDateTime_ne_error {c : Captures} (noEpoch : c.last? .epoch = none) {e : DateError}
    (far : e.IsFar) : c.toDateTime ≠ .error e := by
  have noMillis : c.epoch? = none := by rw [epoch?, noEpoch, Option.map_none]
  rw [toDateTime, noMillis]
  intro failure
  simp only [bind_eq_error, Date.of_ne_error_of_isFar far, TimeOfDay.of_ne_error_of_isFar far,
    false_or] at failure
  obtain ⟨date, _, time, _, failure⟩ := failure
  split at failure
  · next n _ =>
    rcases bind_eq_error.mp failure with leaves | ⟨_, _, failure⟩
    · exact date.plusDays_ne_error_of_isFar far _ leaves
    · cases failure
  · cases failure

/-- The last token for milliseconds took the digits of a number. -/
def GivesMillis (c : Captures) (millis : Int) : Prop :=
  ∃ digits, c.last? .epoch = some digits ∧ Integer.read (String.ofList digits) = .ok millis

theorem toDateTime_eq_error_iff (c : Captures) {e : DateError} (far : e.IsFar) :
    c.toDateTime = .error e ↔
      ∃ millis, c.GivesMillis millis ∧ DateTime.ofEpochMillis millis = .error e := by
  unfold GivesMillis
  cases epoch : c.last? .epoch with
  | none => simp [toDateTime_ne_error epoch far]
  | some digits =>
    have other (fault : Integer.Fault) : DateError.number fault ≠ e := by
      rcases far with rfl | rfl <;> simp
    rw [toDateTime_of_epoch epoch]
    cases number : Integer.read (String.ofList digits) with
    | error fault => simp [Except.mapError, bind, Except.bind, number, other]
    | ok millis => simp [Except.mapError, bind, Except.bind, number]

/-- Milliseconds were given whose year does not fit, as the host finds it. -/
def GivesFarMillis (host : Host) (c : Captures) : Prop :=
  ∃ millis, c.GivesMillis millis ∧ (DateTime.IsBeyondYears millis ∨
    host.takesLimit = true ∧ DateTime.IsAtLimit millis)

theorem escapes_fault_iff (host : Host) (c : Captures) :
    (∃ e, c.toDateTime = .error e ∧ (host.fault e).escapes = true) ↔ c.GivesFarMillis host := by
  have years := c.toDateTime_eq_error_iff (.inl rfl)
  have limit := c.toDateTime_eq_error_iff (.inr rfl)
  simp only [DateTime.ofEpochMillis_eq_yearTooLarge_iff] at years
  simp only [DateTime.ofEpochMillis_eq_secondsAtLimit_iff] at limit
  simp only [Host.escapes_fault_iff, GivesFarMillis]
  constructor
  · rintro ⟨e, failed, rfl | ⟨rfl, takes⟩⟩
    · obtain ⟨millis, given, far⟩ := years.mp failed
      exact ⟨millis, given, .inl far⟩
    · obtain ⟨millis, given, far⟩ := limit.mp failed
      exact ⟨millis, given, .inr ⟨takes, far⟩⟩
  · rintro ⟨millis, given, far | ⟨takes, far⟩⟩
    · exact ⟨_, years.mpr ⟨millis, given, far⟩, .inl rfl⟩
    · exact ⟨_, limit.mpr ⟨millis, given, far⟩, .inr ⟨rfl, takes⟩⟩

end Captures

namespace DateText

/-- A text fits the format and gives such milliseconds. -/
def GivesFarMillis (host : Host) (format : String) (value : Value) : Prop :=
  ∃ s captures, value.word? = some s ∧
    Captures.ofText? (Element.ofItems (DateFormat.items format)) (Text.trim s.toList) =
      some captures ∧ captures.GivesFarMillis host

theorem ofText_eq_error_iff (host : Host) (format s : String) (e : DateError) :
    ofText host format (Text.strip s) = .error e ↔ e = .yearTooLarge ∧
      ∃ captures, Captures.ofText? (Element.ofItems (DateFormat.items format))
        (Text.trim s.toList) = some captures ∧ captures.GivesFarMillis host := by
  rw [ofText, DateFormat.read?, Text.strip, String.toList_ofList]
  cases Captures.ofText? (Element.ofItems (DateFormat.items format)) (Text.trim s.toList) with
  | none => simp
  | some captures =>
    simp only [← Captures.escapes_fault_iff, Option.some.injEq, exists_eq_left', Option.map_some]
    cases captures.toDateTime with
    | ok t => simp
    | error fault =>
      simp only [Except.error.injEq, exists_eq_left']
      split
      · next escapes =>
        have far := DateError.escapes_iff.mp escapes
        rw [far, Except.error.injEq, and_iff_left (by rfl), eq_comm]
      · next caught => simp [caught]

variable {host : Host} {format : String} {value : Value}

theorem read_of_word {s : String} (word : value.word? = some s) :
    read host format value = ofText host format (Text.strip s) := by
  obtain ⟨text, visible⟩ := Option.filter_eq_some_iff.mp word
  rw [Bool.not_eq_true'] at visible
  cases value with
  | text _ | field _ =>
    cases text
    simp [read, Value.text?, visible]
  | _ => cases text

theorem exists_read_of_not_word (host : Host) (format : String) (noWord : value.word? = none) :
    ∃ result, read host format value = .ok result := by
  unfold read
  split
  · exact ⟨_, rfl⟩
  · split
    · next s text =>
      have blank : Text.allBlank s = true := by simpa [Value.word?, text] using noWord
      exact ⟨none, if_pos blank⟩
    · exact ⟨_, rfl⟩

theorem read_eq_error_iff (host : Host) (format : String) (value : Value) (e : DateError) :
    read host format value = .error e ↔ e = .yearTooLarge ∧ GivesFarMillis host format value := by
  cases word : value.word? with
  | none =>
    obtain ⟨result, returned⟩ := exists_read_of_not_word host format word
    simp [returned, GivesFarMillis, word]
  | some s =>
    rw [read_of_word word, ofText_eq_error_iff]
    simp [GivesFarMillis, word]

/-- Reading returns, with a date or with none, unless a text of the format gives milliseconds whose
year does not fit thirty-two bits while their seconds fit sixty-four, or are the first that do not
and the host lets them through. There it fails for the year. -/
theorem read_returns_iff (host : Host) (format : String) (value : Value) :
    ((∃ result, read host format value = .ok result) ↔ ¬ GivesFarMillis host format value) ∧
      ∀ e, read host format value = .error e ↔
        e = .yearTooLarge ∧ GivesFarMillis host format value := by
  refine ⟨?_, read_eq_error_iff host format value⟩
  rw [exists_ok_iff]
  constructor
  · intro noFault far
    exact noFault .yearTooLarge ((read_eq_error_iff host format value .yearTooLarge).mpr ⟨rfl, far⟩)
  · intro near e failed
    exact near ((read_eq_error_iff host format value e).mp failed).2

/-- The year of these milliseconds is about three thousand million. -/
theorem read_fails_of_farMillis :
    let host := Host.standard ⟨2023, 7, 31, by decide, by decide, by decide⟩
    read host "x" (.text "99999999999999999999") = .error .yearTooLarge := by
  intro host
  rw [read_eq_error_iff]
  refine ⟨rfl, "99999999999999999999", [(.epoch, "99999999999999999999".toList)], by decide,
    by decide, 99999999999999999999, ⟨"99999999999999999999".toList, rfl, by rfl⟩, .inl (by decide)⟩

end DateText

end SolrRequest
