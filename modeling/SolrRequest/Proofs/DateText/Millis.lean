import SolrRequest.Proofs.Calendar.Millis
import SolrRequest.Proofs.DateText.Conversion
import SolrRequest.Proofs.DateText.Failure
import SolrRequest.Proofs.Number.Decimal

/-!
# Milliseconds as text

The decimal text of milliseconds is read as the instant that they denote. Written again it is the
same text, unless a millisecond is lost on the way through the seconds.
-/

namespace SolrRequest

open Text Integer

namespace Captures

theorem integerRuns_decimalChars (n : Int) :
    ∃ others, Element.integerRuns (decimalChars n) = (decimalChars n, []) :: others := by
  have positive := List.length_pos_of_ne_nil (digits_ne_nil n.natAbs)
  have noRest : ∀ c ∈ ([] : List Char).head?, isDigit c = false := by rintro c ⟨⟩
  obtain ⟨others, longest⟩ := digitRuns_append (Nat.le_refl 1) positive
    (Nat.le_of_eq (List.length_map asciiDigit).symm) noRest
  rw [List.append_nil] at longest
  rw [decimalChars_eq]
  split
  · rw [Element.integerRuns, longest]
    exact ⟨_, rfl⟩
  · refine ⟨others, ?_⟩
    unfold Element.integerRuns
    split
    · next _ signed =>
      obtain ⟨d, ds, digits⟩ := List.exists_cons_of_ne_nil (digits_ne_nil n.natAbs)
      rw [digits, List.map_cons] at signed
      exact absurd (List.cons.inj signed).1 (digit_ne (isDigit_asciiDigit d)).2.1
    · exact longest

theorem ofText?_decimalChars (n : Int) :
    ofText? [.token .epoch] (decimalChars n) = some [(.epoch, decimalChars n)] := by
  obtain ⟨_, splits⟩ := integerRuns_decimalChars n
  exact ofText?_cons (e := .token .epoch) splits rfl

end Captures

namespace DateText

variable {host : Host} {n : Int} {t : DateTime}

theorem eq_ok_of_read {format s : String} {denoted : Except DateError DateTime}
    (visible : allBlank s = false) (fits : DateFormat.read? format (strip s) = some denoted)
    (isRead : read host format (.text s) = .ok (some t)) : denoted = .ok t := by
  simp only [read, Value.text?, visible, Bool.false_eq_true, if_false, ofText, fits] at isRead
  cases denoted with
  | ok u =>
    cases isRead
    rfl
  | error e =>
    dsimp only at isRead
    split at isRead <;> cases isRead

theorem read?_decimal (n : Int) : DateFormat.read? "x" (strip (decimal n)) =
    some ((Integer.read (decimal n)).mapError DateError.number >>= DateTime.ofEpochMillis) := by
  have elements : Element.ofItems (DateFormat.items "x") = [.token .epoch] := rfl
  have denoted : Captures.toDateTime [(.epoch, decimalChars n)] =
      (Integer.read (decimal n)).mapError DateError.number >>= DateTime.ofEpochMillis :=
    Captures.toDateTime_of_epoch rfl
  rw [← denoted, decimal, (isTrimmed_decimalChars n).strip_eq, DateFormat.read?, elements,
    String.toList_ofList, Captures.ofText?_decimalChars, Option.map_some]

theorem ofEpochMillis_of_read (isRead : read host "x" (.text (decimal n)) = .ok (some t)) :
    DateTime.ofEpochMillis n = .ok t := by
  have visible := (isTrimmed_decimalChars n).allBlank_eq_false
  have denoted := eq_ok_of_read visible (read?_decimal n) isRead
  obtain ⟨millis, number, told⟩ := bind_eq_ok.mp denoted
  have same : millis = n := by
    rw [read_decimal] at number
    split at number
    · cases number
    · cases number
      rfl
  rw [same] at told
  exact told

theorem read_of_ofEpochMillis (writable : Writable n) (told : DateTime.ofEpochMillis n = .ok t) :
    read host "x" (.text (decimal n)) = .ok (some t) := by
  have fits := read?_decimal n
  have number := read_decimal n
  rw [if_neg (Nat.not_lt.mpr writable)] at number
  rw [mapError_bind_of_eq_ok _ _ number, told] at fits
  exact read_text_of_fits (isTrimmed_decimalChars n).allBlank_eq_false fits

theorem write_millis {millis : Int} (told : t.epochMillis = .ok millis) :
    DateFormat.write "x" t = .ok (decimal millis) := by
  have items : DateFormat.items "x" = [.token .epoch] := rfl
  rw [DateFormat.write, items, DateFormat.writeItems, DateTime.itemText, DateTime.part, told]
  exact congrArg Except.ok String.append_empty

/-- The text of milliseconds that are read is written again, or that of the milliseconds one nearer
to zero, where one is lost. -/
theorem write_read_millis (host : Host) (n : Int) (t : DateTime)
    (isRead : read host "x" (.text (decimal n)) = .ok (some t)) : DateFormat.write "x" t =
      .ok (decimal (if DateTime.LosesMilli n.natAbs then n - n.sign else n)) := by
  have told : DateTime.ofEpochMillis n = .ok t := ofEpochMillis_of_read isRead
  have millis : t.epochMillis =
      .ok (if DateTime.LosesMilli n.natAbs then n - n.sign else n) :=
    DateTime.epochMillis_of_ofEpochMillis told
  exact write_millis millis

/-- Noon of a day in 2020 is kept. -/
theorem write_read_millis_noon :
    let host := Host.standard ⟨2023, 7, 31, by decide, by decide, by decide⟩
    let noon : DateTime := ⟨⟨2020, 1, 22, by decide, by decide, by decide⟩,
      ⟨12, 0, 0, 0, by decide, by decide, by decide, by decide⟩, some 0⟩
    read host "x" (.text (decimal 1579694400000)) = .ok (some noon) ∧
      ¬ DateTime.LosesMilli 1579694400000 ∧
      DateFormat.write "x" noon = .ok (decimal 1579694400000) := by
  intro host noon
  have isRead : read host "x" (.text (decimal 1579694400000)) = .ok (some noon) :=
    read_of_ofEpochMillis (writable_of_lt (by decide +kernel))
      (eq_ok_of_toOption (by decide +kernel))
  have keeps : ¬ DateTime.LosesMilli (Int.natAbs 1579694400000) := by decide +kernel
  have written := write_read_millis host 1579694400000 noon isRead
  rw [if_neg keeps] at written
  exact ⟨isRead, keeps, written⟩

/-- One second and a millisecond are told as one second. -/
theorem write_loses_millis :
    let host := Host.standard ⟨2023, 7, 31, by decide, by decide, by decide⟩
    let t : DateTime := ⟨⟨1970, 1, 1, by decide, by decide, by decide⟩,
      ⟨0, 0, 1, 1000, by decide, by decide, by decide, by decide⟩, some 0⟩
    read host "x" (.text (decimal 1001)) = .ok (some t) ∧
      DateFormat.write "x" t = .ok (decimal 1000) ∧ decimal 1001 = "1001" ∧
      decimal 1000 = "1000" := by
  intro host t
  have isRead : read host "x" (.text (decimal 1001)) = .ok (some t) :=
    read_of_ofEpochMillis (writable_of_lt (by decide +kernel))
      (eq_ok_of_toOption (by decide +kernel))
  have written : DateFormat.write "x" t = .ok (decimal 1000) :=
    write_millis (eq_ok_of_toOption (by decide +kernel))
  have texts : decimal 1001 = "1001" ∧ decimal 1000 = "1000" := by
    constructor <;> decide +kernel
  exact ⟨isRead, written, texts⟩

end DateText

end SolrRequest
