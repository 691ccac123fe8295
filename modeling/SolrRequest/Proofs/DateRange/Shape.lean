import SolrRequest.Proofs.DateRange.Rendering

/-!
# Shape of ranges

A range is well formed if each of its bounds is an asterisk or a date. Between bounds that are
blank, asterisks or dates this is so exactly if both are blank, which makes no range, or if the
range starts with a date and its end is not blank. A start is always followed by the letter Z, also
where it is an asterisk, and a blank bound stays blank beside one that is not.
-/

namespace SolrRequest

open Text Integer

theorem DateTime.exists_cons_indexText (t : DateTime) :
    ∃ d rest, t.indexText.toList = asciiDigit d :: rest := by
  have nonempty : paddedDigits 4 t.date.year ≠ [] := by
    apply List.ne_nil_of_length_pos
    rw [length_paddedDigits]
    exact Nat.lt_of_lt_of_le (by decide) (Nat.le_max_left 4 _)
  obtain ⟨d, digits, padded⟩ := List.exists_cons_of_ne_nil nonempty
  simp only [indexText, String.toList_append, List.append_assoc, toList_padded, padded,
    List.map_cons, List.cons_append]
  exact ⟨_, _, rfl⟩

namespace DateRange

/-! ## Well-formed ranges -/

/-- A date of the index, to the second. -/
def IsIndexDate (s : String) : Prop :=
  ∃ t : DateTime, s = t.indexText

/-- Nothing, or brackets around a start, which is open or a date with the letter Z, and an end,
which is open or a date. -/
def IsRange (s : String) : Prop :=
  s = "" ∨ ∃ first last, s = bracketed first last ∧
    (first = wildcard ∨ ∃ date, IsIndexDate date ∧ first = date ++ "Z") ∧
    (last = wildcard ∨ IsIndexDate last)

def IsBoundText (s : String) : Prop :=
  IsIndexDate s ∨ s = wildcard ∨ allBlank s = true

theorem asciiDigit_ne_of_not_isDigit {c : Char} (other : isDigit c = false) (d : Nat) :
    c ≠ asciiDigit d := by
  rintro rfl
  rw [isDigit_asciiDigit] at other
  cases other

theorem not_isIndexDate {s : String} (shape : s = wildcard ∨ allBlank s = true) :
    ¬ IsIndexDate s := by
  rintro ⟨t, rfl⟩
  obtain ⟨d, rest, chars⟩ := t.exists_cons_indexText
  rcases shape with isOpen | blank
  · rw [isOpen] at chars
    exact asciiDigit_ne_of_not_isDigit (by decide) d (List.cons.inj chars).1
  · simp [allBlank, chars, isBlank_asciiDigit] at blank

theorem toList_bracketed (first last : String) : (bracketed first last).toList =
    '[' :: (first.toList ++ (' ' :: 'T' :: 'O' :: ' ' :: (last.toList ++ [']']))) := by
  simp [bracketed]

variable {a b : String} {rest tail : List Char}

/-- A blank text with the letter Z starts with a blank or with the letter. -/
theorem head_of_allBlank (blank : allBlank a = true) {c : Char}
    (starts : a.toList ++ 'Z' :: rest = c :: tail) : isBlank c = true ∨ c = 'Z' := by
  rw [allBlank] at blank
  cases chars : a.toList with
  | nil =>
    rw [chars] at starts
    exact .inr (List.cons.inj starts).1.symm
  | cons first more =>
    rw [chars] at starts blank
    obtain rfl := (List.cons.inj starts).1
    exact .inl (List.all_eq_true.mp blank first List.mem_cons_self)

/-- Of the texts of bounds only dates start with a digit. -/
theorem IsBoundText.isIndexDate (shape : IsBoundText a) {d : Nat}
    (starts : a.toList ++ 'Z' :: rest = asciiDigit d :: tail) : IsIndexDate a := by
  rcases shape with date | rfl | blank
  · exact date
  · have asterisk : '*' = asciiDigit d := (List.cons.inj starts).1
    exact absurd asterisk (asciiDigit_ne_of_not_isDigit (by decide) d)
  · rcases head_of_allBlank blank starts with isSpace | letter
    · rw [isBlank_asciiDigit] at isSpace
      cases isSpace
    · exact absurd letter.symm (asciiDigit_ne_of_not_isDigit (by decide) d)

/-- No text of a bound with the letter Z is an asterisk alone. -/
theorem IsBoundText.not_open (shape : IsBoundText a) :
    a.toList ++ 'Z' :: rest ≠ '*' :: ' ' :: tail := by
  intro starts
  rcases shape with ⟨t, rfl⟩ | rfl | blank
  · obtain ⟨d, more, chars⟩ := t.exists_cons_indexText
    rw [chars] at starts
    exact asciiDigit_ne_of_not_isDigit (by decide) d (List.cons.inj starts).1.symm
  · have letter : 'Z' = ' ' := (List.cons.inj (List.cons.inj starts).2).1
    exact absurd letter (by decide)
  · rcases head_of_allBlank blank starts with isSpace | letter
    · exact absurd isSpace (by decide)
    · exact absurd letter (by decide)

theorem isRange_bracketed_iff (shape : IsBoundText a) :
    IsRange (bracketed (a ++ "Z") b) ↔ IsIndexDate a ∧ (b = wildcard ∨ IsIndexDate b) := by
  constructor
  · rintro (empty | ⟨first, last, same, isStart, isEnd⟩)
    · have chars := congrArg String.toList empty
      rw [toList_bracketed] at chars
      cases chars
    · have chars := congrArg String.toList same
      rw [toList_bracketed, toList_bracketed, String.toList_append, List.append_assoc] at chars
      have inside := (List.cons.inj chars).2
      rcases isStart with rfl | ⟨date, ⟨t, rfl⟩, rfl⟩
      · exact absurd inside shape.not_open
      · obtain ⟨d, more, digits⟩ := t.exists_cons_indexText
        have isDate : IsIndexDate a := by
          rw [String.toList_append, digits] at inside
          exact shape.isIndexDate inside
        obtain ⟨u, rfl⟩ := isDate
        rw [String.toList_append, List.append_assoc] at inside
        have lengths : u.indexText.toList.length = t.indexText.toList.length := by
          rw [String.length_toList, String.length_toList, u.length_indexText, t.length_indexText]
        obtain ⟨_, behind⟩ := List.append_inj inside lengths
        have lastSame : b.toList ++ [']'] = last.toList ++ [']'] := by simpa using behind
        obtain rfl : b = last := String.toList_inj.mp (List.append_cancel_right lastSame)
        exact ⟨⟨u, rfl⟩, isEnd⟩
  · rintro ⟨isDate, isEnd⟩
    exact .inr ⟨_, b, rfl, .inr ⟨a, isDate, rfl⟩, isEnd⟩

/-! ## Bounds of all kinds -/

variable {host : Host} {input : String} {value first last : Value} {t : DateTime}

/-- A blank text, an asterisk, or a text with a date that is told in universal time. -/
def IsAdmitted (host : Host) (input : String) (value : Value) : Prop :=
  ∃ s, value.text? = some s ∧ (allBlank s = true ∨ s = wildcard ∨
    ∃ t, DateText.read host input value = .ok (some t) ∧ (∀ o ∈ t.offset, o.natAbs < 86400) ∧
      DateTime.OnCalendar t.instant)

/-- The value is read as a date. An asterisk is if the format has no tokens. -/
def IsDated (host : Host) (input : String) (value : Value) : Prop :=
  ∃ t, DateText.read host input value = .ok (some t)

namespace IsAdmitted

/-- Whatever date an admitted value has is told in universal time. -/
theorem tellable (sound : host.IsSound) (admitted : IsAdmitted host input value)
    (isRead : DateText.read host input value = .ok (some t)) :
    t.HasSmallOffset ∧ DateTime.OnCalendar t.instant := by
  obtain ⟨s, text, blank | rfl | ⟨u, isDate, small, universal⟩⟩ := admitted
  · rw [read_of_blank text blank] at isRead
    cases isRead
  · obtain ⟨result, found, naive⟩ := read_wildcard sound input text
    rw [isRead] at found
    cases found
    have offset := naive t rfl
    refine ⟨by simp [DateTime.HasSmallOffset, offset], ?_⟩
    have universal := t.onCalendar_wallMicros
    rwa [DateTime.instant, offset, Option.getD_none, Int.zero_mul, Int.sub_zero]
  · rw [isRead] at isDate
    cases isDate
    exact ⟨small, universal⟩

theorem startBound_of_dated (sound : host.IsSound) (admitted : IsAdmitted host input value)
    (dated : IsDated host input value) :
    ∃ a, startBound host input value = .ok a ∧ IsIndexDate a := by
  obtain ⟨t, isRead⟩ := dated
  obtain ⟨small, universal⟩ := admitted.tellable sound isRead
  obtain ⟨u, told⟩ := DateTime.exists_wallMicros_eq universal
  exact ⟨u.indexText, startBound_eq_ok sound isRead small told, u, rfl⟩

/-- A value without a date stays as it is. -/
theorem startBound_of_not_dated (sound : host.IsSound) (admitted : IsAdmitted host input value)
    (undated : ¬ IsDated host input value) : ∃ s, value.text? = some s ∧
      startBound host input value = .ok s ∧ (s = wildcard ∨ allBlank s = true) := by
  obtain ⟨s, text, blank | rfl | ⟨t, isRead, _⟩⟩ := admitted
  · have isRead : DateText.read host (style input).input value = .ok none :=
      read_of_blank text blank
    exact ⟨s, text, DateText.render_of_none isRead text, .inr blank⟩
  · obtain ⟨result, isRead, _⟩ := read_wildcard sound input text
    cases result with
    | some t => exact absurd ⟨t, isRead⟩ undated
    | none =>
      have styled : DateText.read host (style input).input value = .ok none := isRead
      exact ⟨wildcard, text, DateText.render_of_none styled text, .inl rfl⟩
  · exact absurd ⟨t, isRead⟩ undated

theorem exists_startBound (sound : host.IsSound) (admitted : IsAdmitted host input value) :
    ∃ a, startBound host input value = .ok a ∧ IsBoundText a ∧
      (IsIndexDate a ↔ IsDated host input value) := by
  by_cases dated : IsDated host input value
  · obtain ⟨a, written, isDate⟩ := admitted.startBound_of_dated sound dated
    exact ⟨a, written, .inl isDate, iff_of_true isDate dated⟩
  · obtain ⟨s, _, written, shape⟩ := admitted.startBound_of_not_dated sound dated
    exact ⟨s, written, .inr shape, iff_of_false (not_isIndexDate shape) dated⟩

theorem exists_endBound (sound : host.IsSound) (admitted : IsAdmitted host input value) :
    ∃ b, endBound host input value = .ok b ∧
      (b = wildcard ∨ IsIndexDate b ↔ value.isWord = true) := by
  by_cases asterisk : isWildcard value = true
  · have text : value.text? = some wildcard := by simpa [isWildcard] using asterisk
    refine ⟨wildcard, if_pos asterisk, iff_of_true (.inl rfl) ?_⟩
    rw [isWord_eq text]
    decide
  · rw [endBound_eq_startBound (Bool.not_eq_true _ ▸ asterisk)]
    by_cases dated : IsDated host input value
    · obtain ⟨b, written, isDate⟩ := admitted.startBound_of_dated sound dated
      obtain ⟨s, text, _⟩ := admitted
      obtain ⟨t, isRead⟩ := dated
      exact ⟨b, written, iff_of_true (.inr isDate) (isWord_of_read text isRead)⟩
    · obtain ⟨s, text, written, shape⟩ := admitted.startBound_of_not_dated sound dated
      have other : s ≠ wildcard := by
        rintro rfl
        exact asterisk (by simp [isWildcard, text])
      have blank := shape.resolve_left other
      refine ⟨s, written, iff_of_false ?_ ?_⟩
      · rintro (isOpen | isDate)
        · exact other isOpen
        · exact not_isIndexDate shape isDate
      · rw [isWord_eq text, blank]
        decide

end IsAdmitted

/-- A range between bounds that are blank, open or dates is always written. It is well formed
exactly if both bounds are blank, or if the first one is a date and the last one is not blank. -/
theorem between_isRange_iff (host : Host) (sound : host.IsSound) (input : String)
    (first last : Value) (start : IsAdmitted host input first)
    (finish : IsAdmitted host input last) :
    ∃ r, between host input first last = .ok r ∧
      (IsRange r ↔ first.isWord = false ∧ last.isWord = false ∨
        IsDated host input first ∧ last.isWord = true) := by
  obtain ⟨a, startText, shape, isDate⟩ := start.exists_startBound sound
  obtain ⟨b, endText, isEnd⟩ := finish.exists_endBound sound
  by_cases words : (!first.isWord && !last.isWord) = true
  · have blank : first.isWord = false ∧ last.isWord = false := by simpa using words
    exact ⟨"", if_pos words, iff_of_true (.inl rfl) (.inl blank)⟩
  · refine ⟨bracketed (a ++ "Z") b, ?_, ?_⟩
    · rw [between, if_neg words, startText, endText]
      rfl
    · have notBlank : ¬ (first.isWord = false ∧ last.isWord = false) := by simpa using words
      rw [isRange_bracketed_iff shape, isDate, isEnd]
      exact (or_iff_right notBlank).symm

/-- From a date on a clock that is ahead, without an end. -/
theorem between_isRange_iff_openEnd :
    let host := Host.standard ⟨2023, 7, 31, by decide, by decide, by decide⟩
    let value : Value := .text "2020-01-22T12:00:00.000+02:00"
    host.IsSound ∧ IsAdmitted host "ISO" value ∧ IsAdmitted host "ISO" (.text "*") ∧
      ∃ r, between host "ISO" value (.text "*") = .ok r ∧ IsRange r := by
  intro host value
  let t : DateTime := ⟨⟨2020, 1, 22, by decide, by decide, by decide⟩,
    ⟨12, 0, 0, 0, by decide, by decide, by decide, by decide⟩, some 7200⟩
  have isRead : DateText.read host "ISO" value = .ok (some t) :=
    DateText.read_text_of_told (by decide) (by decide +kernel)
  have small : t.HasSmallOffset := DateTime.hasSmallOffset_of_eq rfl (by decide)
  have universal : DateTime.OnCalendar t.instant := by decide +kernel
  have start : IsAdmitted host "ISO" value := ⟨_, rfl, .inr (.inr ⟨t, isRead, small, universal⟩)⟩
  have finish : IsAdmitted host "ISO" (.text "*") := ⟨_, rfl, .inr (.inl rfl)⟩
  have sound : host.IsSound := Host.isSound_standard _
  obtain ⟨r, written, isRange⟩ :=
    between_isRange_iff host sound "ISO" value (.text "*") start finish
  exact ⟨sound, start, finish, r, written, isRange.mpr (.inr ⟨⟨t, isRead⟩, by decide⟩)⟩

/-- A blank start beside a date, and an asterisk for a start, are followed by the letter Z. -/
theorem between_not_isRange_of_undatedStart :
    let host := Host.standard ⟨2023, 7, 31, by decide, by decide, by decide⟩
    let input := "YYYY-MM-DD"
    IsAdmitted host input (.text "") ∧ IsAdmitted host input (.text "*") ∧
      IsAdmitted host input (.text "2020-02-01") ∧
      between host input (.text "") (.text "2020-02-01") = .ok "[Z TO 2020-02-01T00:00:00]" ∧
      ¬ IsRange "[Z TO 2020-02-01T00:00:00]" ∧
      between host input (.text "*") (.text "*") = .ok "[*Z TO *]" ∧ ¬ IsRange "[*Z TO *]" := by
  intro host input
  let t : DateTime := ⟨⟨2020, 2, 1, by decide, by decide, by decide⟩,
    ⟨0, 0, 0, 0, by decide, by decide, by decide, by decide⟩, none⟩
  have isRead : DateText.read host input (.text "2020-02-01") = .ok (some t) :=
    DateText.read_text_of_told (by decide) (by decide +kernel)
  have small : ∀ o ∈ t.offset, o.natAbs < 86400 := by
    rintro o ⟨⟩
  have universal : DateTime.OnCalendar t.instant := by decide +kernel
  have sound : host.IsSound := Host.isSound_standard _
  have startText : startBound host input (.text "") = .ok "" :=
    DateText.render_of_none (read_of_blank rfl (by decide)) rfl
  have endText : endBound host input (.text "2020-02-01") = .ok "2020-02-01T00:00:00" := by
    have told : t.wallMicros = t.instant := by decide +kernel
    have text : t.indexText = "2020-02-01T00:00:00" := by decide +kernel
    rw [endBound_eq_startBound rfl, startBound_eq_ok sound isRead small told, text]
  have parts : "[Z TO 2020-02-01T00:00:00]" = bracketed ("" ++ "Z") "2020-02-01T00:00:00" := by
    decide
  refine ⟨⟨_, rfl, .inl (by decide)⟩, ⟨_, rfl, .inr (.inl rfl)⟩,
    ⟨_, rfl, .inr (.inr ⟨t, isRead, small, universal⟩)⟩, ?_, ?_,
      eq_ok_of_toOption (by decide +kernel), ?_⟩
  · rw [between, if_neg (by decide), startText, endText]
    exact congrArg Except.ok parts.symm
  · have blank : IsBoundText "" := .inr (.inr (by decide))
    intro range
    rw [parts, isRange_bracketed_iff blank] at range
    exact not_isIndexDate (.inr (by decide)) range.1
  · have isOpen : IsBoundText wildcard := .inr (.inl rfl)
    intro range
    have parts : "[*Z TO *]" = bracketed (wildcard ++ "Z") "*" := by decide
    rw [parts, isRange_bracketed_iff isOpen] at range
    exact not_isIndexDate (.inl rfl) range.1

end DateRange

end SolrRequest
