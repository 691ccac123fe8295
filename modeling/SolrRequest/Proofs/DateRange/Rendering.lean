import SolrRequest.Proofs.DateRange.Bound
import SolrRequest.Proofs.DateText.Failure
import SolrRequest.Proofs.DateText.Rendering

/-!
# Bounds that can be written

A range between two bounds that are read fails only for what keeps a date from being told in
universal time. An asterisk is never such a date: no token takes it, so that it is read as none or
as a local date.
-/

namespace SolrRequest

open Text

namespace Element

/-- Of an asterisk, or of nothing, a token takes nothing, and anything else takes all. -/
theorem splits_asterisk {s : List Char} (short : s = [] ∨ s = ['*']) {e : Element}
    {split : List Char × List Char} (membership : split ∈ e.splits s) :
    (∀ t, e ≠ token t) ∧ split.2 = [] := by
  have nothing (t : Token) : tokenRuns t s = [] := by
    rcases short with rfl | rfl <;> cases t <;> decide
  have separator : isSeparator '*' = true := by decide
  cases e with
  | token t =>
    rw [splits, nothing] at membership
    cases membership
  | separator =>
    rcases short with rfl | rfl
    · cases membership
    · obtain rfl : split = (['*'], []) := by simpa [splits, runs, separator] using membership
      exact ⟨by simp, rfl⟩
  | letter c =>
    rcases short with rfl | rfl
    · cases membership
    · obtain ⟨_, rfl⟩ : sameLetter c '*' = true ∧ split = (['*'], []) := by
        simpa [splits, exactly] using membership
      exact ⟨by simp, rfl⟩

end Element

theorem Captures.eq_nil_of_asterisk {es : List Element} {s : List Char} {c : Captures}
    (short : s = [] ∨ s = ['*']) (fits : ofText? es s = some c) : c = [] := by
  induction es generalizing s c with
  | nil =>
    cases s with
    | nil =>
      cases fits
      rfl
    | cons _ _ => cases fits
  | cons e es inductionHypothesis =>
    rw [ofText?.eq_def] at fits
    obtain ⟨split, membership, taken⟩ := List.exists_of_findSome?_eq_some fits
    obtain ⟨later, rest, rfl⟩ := Option.map_eq_some_iff.mp taken
    obtain ⟨noToken, nothingLeft⟩ := Element.splits_asterisk short membership
    rw [inductionHypothesis (.inl nothingLeft) rest]
    cases e with
    | token t => exact absurd rfl (noToken t)
    | separator => rfl
    | letter c => rfl

namespace DateRange

variable {host : Host} {input : String} {value first last : Value} {t : DateTime} {e : DateError}

theorem read_wildcard (sound : host.IsSound) (input : String)
    (text : value.text? = some wildcard) :
    ∃ result, DateText.read host input value = .ok result ∧ ∀ t ∈ result, t.offset = none := by
  have word : value.word? = some wildcard := by
    rw [Value.word?, text]
    decide
  have strip : Text.strip wildcard = wildcard := by decide
  rw [DateText.read_of_word word, strip, DateText.ofText, DateFormat.read?]
  cases captured : Captures.ofText? (Element.ofItems (DateFormat.items input)) wildcard.toList with
  | none => exact ⟨none, congrArg Except.ok sound.noDate, by simp⟩
  | some c =>
    obtain rfl := Captures.eq_nil_of_asterisk (.inr rfl) captured
    refine ⟨_, rfl, ?_⟩
    rintro t ⟨⟩
    rfl

/-- An asterisk, or a text that is read as a date. -/
def IsBound (host : Host) (input : String) (value : Value) : Prop :=
  ∃ s, value.text? = some s ∧
    (s = wildcard ∨ ∃ t, DateText.read host input value = .ok (some t))

/-- The date in a bound, if there is one, can be told in universal time. -/
def IsTellable (host : Host) (input : String) (value : Value) : Prop :=
  ∀ t, DateText.read host input value = .ok (some t) →
    t.HasSmallOffset ∧ (t.offset.isSome = true → DateTime.OnCalendar t.instant)

theorem fits_iff (sound : host.IsSound) (isRead : DateText.read host input value = .ok (some t)) :
    (style input).FitsOffset host t ∧ (style input).FitsCalendar host (host.clock? value) t ↔
      t.HasSmallOffset ∧ (t.offset.isSome = true → DateTime.OnCalendar t.instant) := by
  obtain ⟨zone, zoned, universal⟩ := outputZone?_style sound input
  -- On the clock of universal time, the wall time of a date is its instant.
  have onClock (own : host.clock? value = some zone.name) (aware : t.offset.isSome = true) :
      DateTime.OnCalendar t.instant := by
    obtain ⟨o, offset⟩ := Option.isSome_iff_exists.mp aware
    obtain ⟨name, known⟩ := DateText.exists_zone?_of_outputZone? zoned
    obtain rfl := universal.eq_zero_of_tells (sound.ofClock _ _ _ _ _ _ isRead offset own known)
    have told := t.onCalendar_wallMicros
    rwa [DateTime.instant, offset, Option.getD_some, Int.zero_mul, Int.sub_zero]
  by_cases own : host.clock? value = some zone.name
  · simp +contextual [DateText.Style.FitsOffset, DateText.Style.asksOffset,
      DateText.Style.FitsCalendar, zoned, own, onClock own]
  · simp [DateText.Style.FitsOffset, DateText.Style.asksOffset, DateText.Style.FitsCalendar, zoned,
      own, DateTime.IsToldIn, universal.shiftAt]

theorem isTellable_of_wildcard (sound : host.IsSound) (text : value.text? = some wildcard) :
    IsTellable host input value := by
  obtain ⟨result, isRead, naive⟩ := read_wildcard sound input text
  intro t isDate
  rw [isRead] at isDate
  cases isDate
  simp [DateTime.HasSmallOffset, naive]

theorem IsBound.exists_read (sound : host.IsSound) (bound : IsBound host input value) :
    ∃ result, DateText.read host input value = .ok result := by
  obtain ⟨s, text, rfl | ⟨t, isRead⟩⟩ := bound
  · obtain ⟨result, isRead, _⟩ := read_wildcard sound input text
    exact ⟨result, isRead⟩
  · exact ⟨some t, isRead⟩

theorem IsBound.isWord (bound : IsBound host input value) : value.isWord = true := by
  obtain ⟨s, text, rfl | ⟨t, isRead⟩⟩ := bound
  · rw [Value.isWord, Value.word?, text]
    decide
  · exact isWord_of_read text isRead

theorem startBound_returns_iff (sound : host.IsSound) (bound : IsBound host input value) :
    (∃ s, startBound host input value = .ok s) ↔ IsTellable host input value := by
  obtain ⟨result, isRead⟩ := bound.exists_read sound
  have styled : DateText.read host (style input).input value = .ok result := isRead
  rw [IsTellable, isRead, startBound]
  cases result with
  | none =>
    obtain ⟨s, text, _⟩ := bound
    simp [DateText.render_of_none styled text]
  | some t =>
    rw [DateText.render_returns_iff sound rfl styled, fits_iff sound isRead]
    simp

theorem startBound_fault (sound : host.IsSound) (bound : IsBound host input value)
    (failed : startBound host input value = .error e) :
    e = .offsetTooLarge ∨ e = .leftCalendar := by
  obtain ⟨result, isRead⟩ := bound.exists_read sound
  have styled : DateText.read host (style input).input value = .ok result := isRead
  rw [startBound] at failed
  cases result with
  | none =>
    obtain ⟨s, text, _⟩ := bound
    rw [DateText.render_of_none styled text] at failed
    cases failed
  | some t =>
    rw [DateText.render_eq_error_iff sound rfl styled] at failed
    tauto

theorem endBound_returns_iff (sound : host.IsSound) (bound : IsBound host input value) :
    (∃ s, endBound host input value = .ok s) ↔ IsTellable host input value := by
  rw [endBound]
  split
  · next asterisk =>
    have text : value.text? = some wildcard := by simpa [isWildcard] using asterisk
    exact iff_of_true ⟨wildcard, rfl⟩ (isTellable_of_wildcard sound text)
  · exact startBound_returns_iff sound bound

theorem endBound_fault (sound : host.IsSound) (bound : IsBound host input value)
    (failed : endBound host input value = .error e) : e = .offsetTooLarge ∨ e = .leftCalendar := by
  rw [endBound] at failed
  split at failed
  · cases failed
  · exact startBound_fault sound bound failed

theorem between_eq (bound : IsBound host input first) : between host input first last = do
    let a ← startBound host input first
    let b ← endBound host input last
    return bracketed (a ++ "Z") b := by
  rw [between, bound.isWord]
  rfl

theorem fromToday_eq (bound : IsBound host input last) :
    fromToday host input last = (endBound host input last).map (bracketed "NOW/DAY") := by
  rw [fromToday, bound.isWord]
  cases endBound host input last <;> rfl

theorem between_returns_iff (sound : host.IsSound) (start : IsBound host input first)
    (finish : IsBound host input last) :
    (∃ s, between host input first last = .ok s) ↔
      IsTellable host input first ∧ IsTellable host input last := by
  rw [between_eq start, ← startBound_returns_iff sound start, ← endBound_returns_iff sound finish]
  cases startBound host input first <;> cases endBound host input last <;>
    simp [bind, Except.bind, pure, Except.pure]

theorem fromToday_returns_iff (sound : host.IsSound) (finish : IsBound host input last) :
    (∃ s, fromToday host input last = .ok s) ↔ IsTellable host input last := by
  rw [fromToday_eq finish, ← endBound_returns_iff sound finish]
  cases endBound host input last <;> simp [Except.map]

theorem between_fault (sound : host.IsSound) (start : IsBound host input first)
    (finish : IsBound host input last) (failed : between host input first last = .error e) :
    e = .offsetTooLarge ∨ e = .leftCalendar := by
  rw [between_eq start, bind_eq_error] at failed
  rcases failed with failed | ⟨a, _, failed⟩
  · exact startBound_fault sound start failed
  · rcases bind_eq_error.mp failed with failed | ⟨b, _, failed⟩
    · exact endBound_fault sound finish failed
    · cases failed

/-- What is read as a date is written exactly if its offset is less than a day, where it is asked
for, and its instant is on the calendar of the clocks it is converted by. A range between bounds
that are read is written exactly if universal time tells each of them. Nothing else keeps them from
it. -/
theorem accepted_written_iff (host : Host) (sound : host.IsSound) (input : String) :
    (∀ (style : DateText.Style) (value : Value) (t : DateTime), style.input = input →
      style.inputZone = none → DateText.read host input value = .ok (some t) →
      ((∃ s, DateText.render host style value = .ok s) ↔
        style.FitsOffset host t ∧ style.FitsCalendar host (host.clock? value) t) ∧
      ∀ e, DateText.render host style value = .error e ↔
        ¬ style.FitsOffset host t ∧ e = .offsetTooLarge ∨
          style.FitsOffset host t ∧ ¬ style.FitsCalendar host (host.clock? value) t ∧
            e = .leftCalendar) ∧
    (∀ first last, IsBound host input first → IsBound host input last →
      ((∃ s, between host input first last = .ok s) ↔
        IsTellable host input first ∧ IsTellable host input last) ∧
      ∀ e, between host input first last = .error e → e = .offsetTooLarge ∨ e = .leftCalendar) ∧
    ∀ last, IsBound host input last →
      ((∃ s, fromToday host input last = .ok s) ↔ IsTellable host input last) := by
  refine ⟨?_, ?_, ?_⟩
  · rintro style value t rfl noInput isRead
    exact ⟨DateText.render_returns_iff sound noInput isRead,
      fun e => DateText.render_eq_error_iff sound noInput isRead⟩
  · intro first last start finish
    exact ⟨between_returns_iff sound start finish, fun e => between_fault sound start finish⟩
  · intro last finish
    exact fromToday_returns_iff sound finish

/-- An offset of almost a day, told in universal time and as it stands. -/
theorem accepted_written_iff_farEast :
    let host := Host.standard ⟨2023, 7, 31, by decide, by decide, by decide⟩
    let style : DateText.Style := ⟨"ISO", "ISO", some "UTC", none⟩
    let value : Value := .text "2020-01-22T12:00:00.000+23:59"
    let t : DateTime := ⟨⟨2020, 1, 22, by decide, by decide, by decide⟩,
      ⟨12, 0, 0, 0, by decide, by decide, by decide, by decide⟩, some 86340⟩
    host.IsSound ∧ DateText.read host "ISO" value = .ok (some t) ∧
      style.FitsOffset host t ∧ style.FitsCalendar host (host.clock? value) t ∧
      (∃ s, DateText.render host style value = .ok s) ∧
      IsBound host "ISO" value ∧ IsBound host "ISO" (.text "*") ∧
      (∃ s, between host "ISO" value (.text "*") = .ok s) ∧
      ∃ s, fromToday host "ISO" value = .ok s := by
  intro host style value t
  have sound : host.IsSound := Host.isSound_standard _
  have isRead : DateText.read host "ISO" value = .ok (some t) :=
    DateText.read_text_of_told (by decide) (by decide +kernel)
  have small : t.HasSmallOffset := DateTime.hasSmallOffset_of_eq rfl (by decide)
  have universal : DateTime.OnCalendar t.instant := by decide +kernel
  have fitsCalendar : style.FitsCalendar host (host.clock? value) t := by
    rintro zone ⟨⟩ _ _
    exact ⟨universal, by decide +kernel⟩
  have bound : IsBound host "ISO" value := ⟨_, rfl, .inr ⟨t, isRead⟩⟩
  have asterisk : IsBound host "ISO" (.text "*") := ⟨_, rfl, .inl rfl⟩
  have tellable : IsTellable host "ISO" value := by
    intro u isDate
    obtain rfl : t = u := by simpa [isRead] using isDate
    exact ⟨small, fun _ => universal⟩
  obtain ⟨written, range, fromNow⟩ := accepted_written_iff host sound "ISO"
  refine ⟨sound, isRead, fun _ => small, fitsCalendar, ?_, bound, asterisk, ?_, ?_⟩
  · exact (written style value t rfl rfl isRead).1.mpr ⟨fun _ => small, fitsCalendar⟩
  · exact (range _ _ bound asterisk).1.mpr ⟨tellable, isTellable_of_wildcard sound rfl⟩
  · exact (fromNow _ bound).mpr tellable

/-- An offset of a whole day is read but cannot be told. -/
theorem between_fails_of_dayOffset :
    let host := Host.standard ⟨2023, 7, 31, by decide, by decide, by decide⟩
    let value : Value := .text "2020-01-22T12:00:00.000+24:00"
    let t : DateTime := ⟨⟨2020, 1, 22, by decide, by decide, by decide⟩,
      ⟨12, 0, 0, 0, by decide, by decide, by decide, by decide⟩, some 86400⟩
    DateText.read host "ISO" value = .ok (some t) ∧
      DateText.render host ⟨"ISO", "ISO", none, none⟩ value = .error .offsetTooLarge ∧
      between host "ISO" value (.text "*") = .error .offsetTooLarge := by
  intro host value t
  have sound : host.IsSound := Host.isSound_standard _
  have isRead : DateText.read host "ISO" value = .ok (some t) :=
    DateText.read_text_of_told (by decide) (by decide +kernel)
  have large : ¬ t.HasSmallOffset := fun small => absurd (small 86400 rfl) (by decide)
  have asIso : ¬ DateText.Style.FitsOffset ⟨"ISO", "ISO", none, none⟩ host t := fun fits =>
    large (fits (by decide))
  have asBound : ¬ (style "ISO").FitsOffset host t := fun fits => large (fits rfl)
  refine ⟨isRead, (DateText.render_eq_error_iff sound rfl isRead).mpr (.inl ⟨asIso, rfl⟩), ?_⟩
  have bound : startBound host "ISO" value = .error .offsetTooLarge :=
    (DateText.render_eq_error_iff sound rfl isRead).mpr (.inl ⟨asBound, rfl⟩)
  rw [between_eq ⟨_, rfl, .inr ⟨t, isRead⟩⟩, bound]
  rfl

end DateRange

end SolrRequest
