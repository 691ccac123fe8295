import Mathlib.Data.List.Forall2
import SolrRequest.Proofs.DateFormat.Writing
import SolrRequest.Proofs.DateText.Fields

/-!
# Separators

Tokens that are joined by separators take a text apart at its separators, whichever these are, so
that a format reads the same date from any of the texts that join the same pieces. Of a token that
is repeated, the last piece counts.
-/

namespace SolrRequest

open Text

theorem Token.ne_epoch_of_takes {tokens : List Token} {pieces : List (List Char)}
    (takes : List.Forall₂ Token.Takes tokens pieces) : ∀ token ∈ tokens, token ≠ .epoch := by
  have each :
      List.Forall₂ (fun token taken => token ≠ .epoch ∧ token.Takes taken) tokens pieces := by
    apply takes.imp
    rintro token taken isTaken
    refine ⟨?_, isTaken⟩
    rintro rfl
    exact isTaken
  exact ((List.forall₂_and_left _ _).mp each).1

/-- A text is pieces in order, with a run of plain characters of ASCII between every two of them. -/
inductive Joins : List (List Char) → List Char → Prop
  | one (piece : List Char) : Joins [piece] piece
  | more (piece run : List Char) {pieces : List (List Char)} {s : List Char} :
      run ≠ [] → (∀ c ∈ run, IsPlain c) → Joins pieces s →
      Joins (piece :: pieces) (piece ++ (run ++ s))

namespace Joins

variable {pieces : List (List Char)} {piece s : List Char} {tokens : List Token}

/-- A single separator. -/
theorem single (piece : List Char) (c : Char) (plain : IsPlain c) (joins : Joins pieces s) :
    Joins (piece :: pieces) (piece ++ ([c] ++ s)) :=
  .more piece [c] (List.cons_ne_nil c []) (List.forall_mem_singleton.mpr plain) joins

theorem exists_append (joins : Joins (piece :: pieces) s) : ∃ rest, s = piece ++ rest := by
  cases joins with
  | one => exact ⟨[], (List.append_nil piece).symm⟩
  | more => exact ⟨_, rfl⟩

/-- A format whose tokens are joined by separators is laid out in this way. -/
theorem exists_layout (joins : Joins (tokens.map Token.letters) s) : ∃ layout : DateLayout,
    layout.spell Token.letters = s ∧
      layout.elements = (tokens.map Element.token).intersperse .separator := by
  generalize letters : tokens.map Token.letters = pieces at joins
  induction joins generalizing tokens with
  | one piece =>
    obtain ⟨t, rfl, rfl⟩ := List.map_eq_singleton_iff.mp letters
    refine ⟨⟨t, [], .absent⟩, ?_, rfl⟩
    exact List.append_nil _
  | @more piece run pieces s nonempty plain later inductionHypothesis =>
    obtain ⟨t, rest, rfl, rfl, same⟩ := List.map_eq_cons_iff.mp letters
    obtain ⟨⟨first, links, place⟩, spelled, elements⟩ := inductionHypothesis same
    refine ⟨⟨t, (.separators run nonempty plain, first) :: links, place⟩, ?_, ?_⟩
    · rw [← spelled]
      simp [DateLayout.spell, Link.spell, Joint.chars]
    · cases rest with
      | nil =>
        cases elements
      | cons next rest =>
        rw [List.map_cons, List.map_cons, List.intersperse_cons_cons, ← List.map_cons, ← elements]
        rfl

/-- Every token takes its own piece. -/
theorem ofText?_eq_some (joins : Joins pieces s) (takes : List.Forall₂ Token.Takes tokens pieces) :
    Captures.ofText? ((tokens.map Element.token).intersperse .separator) s =
      some (tokens.zip pieces) := by
  induction joins generalizing tokens with
  | one piece =>
    obtain ⟨t, rest, taken, none, rfl⟩ := List.forall₂_cons_right_iff.mp takes
    obtain rfl := List.forall₂_nil_right_iff.mp none
    have stops : ∀ c ∈ ([] : List Char).head?, isDigit c = false := by simp
    obtain ⟨_, splits⟩ := Token.splits_append taken stops
    rw [List.append_nil] at splits
    exact Captures.ofText?_cons splits rfl
  | @more piece run pieces s nonempty plain later inductionHypothesis =>
    obtain ⟨t, rest, taken, takesRest, rfl⟩ := List.forall₂_cons_right_iff.mp takes
    have fits := inductionHypothesis takesRest
    cases takesRest with
    | nil => cases later
    | @cons next nextPiece others pieces takenNext _ =>
      obtain ⟨following, rfl⟩ := later.exists_append
      have afterRun := Token.not_isSeparator_of_takes takenNext following
      obtain ⟨first, more, rfl⟩ := List.exists_cons_of_ne_nil nonempty
      have afterPiece : ∀ c ∈ (first :: more ++ (nextPiece ++ following)).head?,
          isDigit c = false := by
        rintro c ⟨⟩
        exact (plain first List.mem_cons_self).classes.2.2
      obtain ⟨_, tokenSplits⟩ := Token.splits_append taken afterPiece
      obtain ⟨_, runSplits⟩ :=
        (Joint.separators (first :: more) nonempty plain).splits_append afterRun
      exact Captures.ofText?_cons tokenSplits (Captures.ofText?_cons runSplits fits)

theorem isTrimmed (joins : Joins pieces s) (takes : List.Forall₂ Token.Takes tokens pieces) :
    IsTrimmed s := by
  induction joins generalizing tokens with
  | one piece =>
    obtain ⟨_, _, taken, _, _⟩ := List.forall₂_cons_right_iff.mp takes
    exact Token.isTrimmed_of_takes taken
  | @more piece run pieces s nonempty plain later inductionHypothesis =>
    obtain ⟨_, _, taken, takesRest, _⟩ := List.forall₂_cons_right_iff.mp takes
    have trimmed := (Token.isTrimmed_of_takes taken).append run (inductionHypothesis takesRest)
    rwa [List.append_assoc] at trimmed

end Joins

namespace Captures

variable {c d : Captures} {tokens : List Token} {pieces : List (List Char)} {token : Token}

/-- Every token has the piece at its last place, and tokens without a place have none. -/
structure Assigns (c : Captures) (tokens : List Token) (pieces : List (List Char)) : Prop where
  last : ∀ before token after, tokens = before ++ token :: after → token ∉ after →
    c.last? token = pieces[before.length]?
  absent : ∀ token ∉ tokens, c.last? token = none

theorem last?_cons (other : Token) (taken : List Char) (c : Captures) (token : Token) :
    last? ((other, taken) :: c) token =
      (c.last? token).or (if other = token then some taken else none) := by
  rw [last?, last?, List.reverse_cons, List.find?_append]
  by_cases same : other = token <;> cases List.find? (·.1 == token) c.reverse <;> simp [same]

theorem last?_zip_eq_none (absent : token ∉ tokens) :
    last? (tokens.zip pieces) token = none := by
  apply last?_eq_none
  intro stands
  obtain ⟨⟨_, taken⟩, membership, rfl⟩ := List.mem_map.mp stands
  exact absent (List.of_mem_zip membership).1

theorem assigns_zip (lengths : tokens.length = pieces.length) :
    Assigns (tokens.zip pieces) tokens pieces where
  absent _ := last?_zip_eq_none
  last := by
    rintro before token after rfl noLater
    induction before generalizing pieces with
    | nil =>
      obtain ⟨piece, pieces, rfl⟩ := List.exists_cons_of_length_eq_add_one lengths.symm
      rw [List.nil_append, List.zip_cons_cons, last?_cons, last?_zip_eq_none noLater, if_pos rfl]
      rfl
    | cons other before inductionHypothesis =>
      obtain ⟨piece, pieces, rfl⟩ := List.exists_cons_of_length_eq_add_one lengths.symm
      have lengthsRest : (before ++ token :: after).length = pieces.length := Nat.succ.inj lengths
      have rest := inductionHypothesis lengthsRest
      have bound : before.length < pieces.length := by
        rw [← lengthsRest, List.length_append]
        exact Nat.lt_add_of_pos_right (Nat.succ_pos _)
      rw [List.cons_append, List.zip_cons_cons, last?_cons, rest, List.getElem?_eq_getElem bound,
        Option.some_or, List.length_cons, List.getElem?_cons_succ, List.getElem?_eq_getElem bound]

theorem Assigns.last?_eq (first : c.Assigns tokens pieces) (second : d.Assigns tokens pieces)
    (token : Token) : c.last? token = d.last? token := by
  by_cases stands : token ∈ tokens
  · obtain ⟨later, earlier, reversed, noLater⟩ :=
      List.eq_append_cons_of_mem (List.mem_reverse.mpr stands)
    have place : tokens = earlier.reverse ++ token :: later.reverse := by
      rw [← List.reverse_reverse tokens, reversed]
      simp
    have last : token ∉ later.reverse := fun membership => noLater (List.mem_reverse.mp membership)
    rw [first.last _ _ _ place last, second.last _ _ _ place last]
  · rw [first.absent token stands, second.absent token stands]

/-- The date and time depends only on what every token took last. -/
theorem toDateTime_congr (same : ∀ token, c.last? token = d.last? token) :
    c.toDateTime = d.toDateTime := by
  have number : ∀ token, c.number? token = d.number? token := fun token =>
    congrArg (Option.map _) (same token)
  have numberOr (padded bare : Token) (absent : Nat) :
      c.numberOr padded bare absent = d.numberOr padded bare absent := by
    rw [Captures.numberOr, Captures.numberOr, number, number]
  have epoch : c.epoch? = d.epoch? := by rw [epoch?, epoch?, same]
  have year : c.year = d.year := by
    unfold Captures.year
    rw [number, number]
  have afternoon : c.afternoon = d.afternoon := by
    unfold Captures.afternoon
    rw [same]
  have hour : c.hour = d.hour := by
    unfold Captures.hour
    rw [number, number, numberOr, afternoon]
  have micro : c.micro = d.micro := by
    unfold Captures.micro
    rw [same]
  unfold toDateTime
  rw [epoch, number, year, hour, micro, same]
  simp only [numberOr]

end Captures

namespace DateFormat

theorem ofItems_of_joins {format : String} {tokens : List Token}
    (joined : Joins (tokens.map Token.letters) format.toList) :
    Element.ofItems (items format) = (tokens.map Element.token).intersperse .separator := by
  obtain ⟨layout, spelled, elements⟩ := joined.exists_layout
  have text : layout.text = format := by rw [DateLayout.text, spelled, String.ofList_toList]
  have resolved : resolve format = layout.text := by
    rw [← text]
    exact layout.resolve_text
  rw [DateLayout.items_eq resolved, layout.ofItems, elements]

end DateFormat

namespace DateText

/-- In a format of tokens with separators between them, the pieces of a text that the tokens allow
make out the date, and the separators of the text play no part. It always fits the format, and of a
token that is repeated the last piece counts. -/
theorem read_ignores_separators (host : Host) {tokens : List Token} {pieces : List (List Char)}
    (takes : List.Forall₂ Token.Takes tokens pieces) {format : String}
    (joined : Joins (tokens.map Token.letters) format.toList) :
    Captures.Assigns (tokens.zip pieces) tokens pieces ∧
      ∀ s other : String, Joins pieces s.toList → Joins pieces other.toList →
        read host format (.text s) = read host format (.text other) ∧
          ∀ c : Captures, c.Assigns tokens pieces →
            DateFormat.read? format s = some c.toDateTime ∧
              read host format (.text s) = .ok c.toDateTime.toOption := by
  have zipped : Captures.Assigns (tokens.zip pieces) tokens pieces :=
    Captures.assigns_zip takes.length_eq
  have noEpoch : Captures.last? (tokens.zip pieces) .epoch = none := by
    apply Captures.last?_zip_eq_none
    intro stands
    exact Token.ne_epoch_of_takes takes .epoch stands rfl
  have fits : ∀ s : String, Joins pieces s.toList →
      Captures.ofText? (Element.ofItems (DateFormat.items format)) s.toList =
        some (tokens.zip pieces) := by
    intro s joins
    rw [DateFormat.ofItems_of_joins joined]
    exact joins.ofText?_eq_some takes
  have isRead : ∀ s : String, Joins pieces s.toList →
      read host format (.text s) = .ok (Captures.toDateTime (tokens.zip pieces)).toOption := by
    intro s joins
    have trimmed := joins.isTrimmed takes
    have visible : Text.allBlank s = false := by
      rw [← s.ofList_toList]
      exact trimmed.allBlank_eq_false
    apply read_of_fits host (s := s)
    · simp [Value.word?, Value.text?, visible]
    · rw [trimmed.trim_eq]
      exact fits s joins
    · exact noEpoch
  refine ⟨zipped, fun s other joins joinsOther => ⟨?_, fun c assigns => ?_⟩⟩
  · rw [isRead s joins, isRead other joinsOther]
  · have same : Captures.toDateTime (tokens.zip pieces) = c.toDateTime :=
      Captures.toDateTime_congr (zipped.last?_eq assigns)
    rw [isRead s joins, DateFormat.read?, fits s joins, Option.map_some, same]
    exact ⟨rfl, rfl⟩

/-- A month that is told twice, and a leap day that two texts tell. -/
theorem read_ignores_separators_leapDay :
    let host := Host.standard ⟨2023, 7, 31, by decide, by decide, by decide⟩
    let tokens : List Token := [.paddedMonth, .paddedDay, .month, .paddedMonth, .year]
    let pieces : List (List Char) := [['1'], ['2', '9'], ['5'], ['0', '2'], ['2', '0', '2', '4']]
    let leapDay : DateTime := ⟨⟨2024, 2, 29, by decide, by decide, by decide⟩, .midnight, none⟩
    List.Forall₂ Token.Takes tokens pieces ∧
      Joins (tokens.map Token.letters) "MM-DD M MM//YYYY".toList ∧
      Joins pieces "1.29, 5_02-2024".toList ∧ Joins pieces "1/29/5/02/2024".toList ∧
      read host "MM-DD M MM//YYYY" (.text "1.29, 5_02-2024") = .ok (some leapDay) ∧
      read host "MM-DD M MM//YYYY" (.text "1/29/5/02/2024") = .ok (some leapDay) := by
  intro host tokens pieces leapDay
  have takes : List.Forall₂ Token.Takes tokens pieces :=
    .cons ⟨[1], rfl, by decide, by decide⟩ (.cons ⟨[2, 9], rfl, by decide, by decide⟩
      (.cons ⟨[5], rfl, by decide, by decide⟩ (.cons ⟨[0, 2], rfl, by decide, by decide⟩
        (.cons ⟨[2, 0, 2, 4], rfl, by decide, by decide⟩ .nil))))
  have two {c d : Char} (first : IsPlain c) (second : IsPlain d) : ∀ x ∈ [c, d], IsPlain x :=
    List.forall_mem_cons.mpr ⟨first, List.forall_mem_singleton.mpr second⟩
  have joined : Joins (tokens.map Token.letters) "MM-DD M MM//YYYY".toList :=
    .single _ '-' (by decide) (.single _ ' ' (by decide) (.single _ ' ' (by decide)
      (.more _ ['/', '/'] (by decide) (two (by decide) (by decide)) (.one _))))
  have joins : Joins pieces "1.29, 5_02-2024".toList :=
    .single _ '.' (by decide) (.more _ [',', ' '] (by decide) (two (by decide) (by decide))
      (.single _ '_' (by decide) (.single _ '-' (by decide) (.one _))))
  have slashes : Joins pieces "1/29/5/02/2024".toList :=
    .single _ '/' (by decide) (.single _ '/' (by decide) (.single _ '/' (by decide)
      (.single _ '/' (by decide) (.one _))))
  obtain ⟨assigns, texts⟩ := read_ignores_separators host takes joined
  obtain ⟨same, denoted⟩ := texts _ _ joins slashes
  have isRead := (denoted _ assigns).2
  have isDate : Captures.toDateTime (tokens.zip pieces) = .ok leapDay :=
    eq_ok_of_toOption (by decide +kernel)
  rw [isDate] at isRead
  exact ⟨takes, joined, joins, slashes, isRead, same.symm.trans isRead⟩

end DateText

end SolrRequest
