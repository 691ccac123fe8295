import SolrRequest.Proofs.DateFormat.Layout
import SolrRequest.Proofs.Text.Blank

/-!
# Matching a text to a layout

A text that is spelled by a layout fits its elements, and every token takes its own text. Digits and
separators are taken in runs as long as possible, and such a run ends where the next part starts.
The one exception is the sign of an offset, which a run of separators takes at first and then has to
give back.
-/

namespace SolrRequest

open Text

namespace Element

variable {kind : Char → Bool} {taken rest : List Char}

theorem runs_eq_nil (most : Nat) (stops : ∀ c ∈ rest.head?, kind c = false) :
    runs kind most rest = [] := by
  cases most with
  | zero => rfl
  | succ most =>
    cases rest with
    | nil => rfl
    | cons c rest => simp [runs, stops c rfl]

/-- The longest run of a kind comes first. -/
theorem runs_append (kinds : ∀ c ∈ taken, kind c = true) (nonempty : taken ≠ [])
    (stops : ∀ c ∈ rest.head?, kind c = false) {most : Nat} (fits : taken.length ≤ most) :
    ∃ others, runs kind most (taken ++ rest) = (taken, rest) :: others := by
  induction taken generalizing most with
  | nil => exact absurd rfl nonempty
  | cons c taken inductionHypothesis =>
    obtain ⟨first, more⟩ := List.forall_mem_cons.mp kinds
    obtain ⟨most, rfl⟩ := Nat.exists_eq_add_of_le' (Nat.lt_of_lt_of_le (Nat.succ_pos _) fits)
    rw [List.cons_append, runs, if_pos first]
    cases taken with
    | nil => exact ⟨[], by simp [runs_eq_nil most stops]⟩
    | cons d taken =>
      obtain ⟨others, longest⟩ :=
        inductionHypothesis more (List.cons_ne_nil d taken) (Nat.le_of_succ_le_succ fits)
      rw [longest]
      exact ⟨_, rfl⟩

/-- The run that is shorter by one character comes second. -/
theorem runs_append_singleton (kinds : ∀ c ∈ taken, kind c = true) (nonempty : taken ≠ [])
    {last : Char} (lastKind : kind last = true) (stops : ∀ c ∈ rest.head?, kind c = false)
    {most : Nat} (fits : taken.length < most) :
    ∃ others, runs kind most (taken ++ last :: rest) =
      (taken ++ [last], rest) :: (taken, last :: rest) :: others := by
  induction taken generalizing most with
  | nil => exact absurd rfl nonempty
  | cons c taken inductionHypothesis =>
    obtain ⟨first, more⟩ := List.forall_mem_cons.mp kinds
    obtain ⟨most, rfl⟩ := Nat.exists_eq_add_of_le' (Nat.lt_of_lt_of_le (Nat.succ_pos _) fits)
    rw [List.cons_append, runs, if_pos first]
    cases taken with
    | nil =>
      have one : 1 ≤ most := Nat.le_of_lt_succ fits
      obtain ⟨most, rfl⟩ := Nat.exists_eq_add_of_le' one
      exact ⟨[], by simp [runs, lastKind, runs_eq_nil most stops]⟩
    | cons d taken =>
      obtain ⟨others, longest⟩ :=
        inductionHypothesis more (List.cons_ne_nil d taken) (Nat.lt_of_succ_lt_succ fits)
      rw [longest]
      exact ⟨_, rfl⟩

end Element

namespace Captures

/-- The first way to split decides if the rest of the text fits the other elements. -/
theorem ofText?_cons {e : Element} {es : List Element} {s taken rest : List Char}
    {c : Captures} {others : List (List Char × List Char)}
    (splits : e.splits s = (taken, rest) :: others) (fits : ofText? es rest = some c) :
    ofText? (e :: es) s = some (note e taken c) := by
  rw [ofText?, splits, List.findSome?_cons, fits]
  rfl

theorem note_joint (joint : Joint) (taken : List Char) (c : Captures) :
    note joint.element taken c = c := by
  cases joint <;> rfl

end Captures

theorem isSeparator_asciiDigit (d : Nat) : Element.isSeparator (asciiDigit d) = false := by
  have digits : ∀ n : Fin 10, Element.isSeparator (Char.ofNat (0x30 + n.val)) = false := by decide
  exact digits ⟨d % 10, Nat.mod_lt _ (by decide)⟩

theorem map_asciiDigit_ne_nil {ds : List Nat} (nonempty : 0 < ds.length) :
    ds.map asciiDigit ≠ [] := by
  apply List.ne_nil_of_length_pos
  rwa [List.length_map]

/-- The texts of ASCII that a token takes: digits within its bounds, or a half of the day. -/
def Token.Takes : Token → List Char → Prop
  | .halfDay, s => s = ['A', 'M'] ∨ s = ['P', 'M']
  | .offset, _ => False
  | .epoch, _ => False
  | t, s => ∃ ds : List Nat, s = ds.map asciiDigit ∧ (Element.digitBounds t).1 ≤ ds.length ∧
      ds.length ≤ (Element.digitBounds t).2

theorem digitRuns_append {ds : List Nat} {least most : Nat} (positive : 1 ≤ least)
    (enough : least ≤ ds.length) (fits : ds.length ≤ most) {rest : List Char}
    (stops : ∀ c ∈ rest.head?, isDigit c = false) :
    ∃ others, Element.digitRuns least most (ds.map asciiDigit ++ rest) =
      (ds.map asciiDigit, rest) :: others := by
  have kinds : ∀ c ∈ ds.map asciiDigit, isDigit c = true := by
    intro c membership
    obtain ⟨d, _, rfl⟩ := List.mem_map.mp membership
    exact isDigit_asciiDigit d
  have nonempty := map_asciiDigit_ne_nil (Nat.le_trans positive enough)
  obtain ⟨others, longest⟩ :=
    Element.runs_append kinds nonempty stops (by simpa using fits)
  rw [Element.digitRuns, longest]
  exact ⟨_, List.filter_cons_of_pos (by simpa using enough)⟩

theorem Token.splits_append {t : Token} {s rest : List Char} (takes : t.Takes s)
    (stops : ∀ c ∈ rest.head?, isDigit c = false) :
    ∃ others, (Element.token t).splits (s ++ rest) = (s, rest) :: others := by
  cases t with
  | halfDay =>
    rcases takes with rfl | rfl
    · exact ⟨[], rfl⟩
    · exact ⟨[], rfl⟩
  | offset => exact absurd takes id
  | epoch => exact absurd takes id
  | _ =>
    obtain ⟨ds, rfl, enough, fits⟩ := takes
    exact digitRuns_append (by decide) enough fits stops

/-- What a token takes is a word: there are no separators and no blanks in it. -/
theorem Token.isWord_of_takes {t : Token} {s : List Char} (takes : t.Takes s) :
    s ≠ [] ∧ ∀ c ∈ s, Element.isSeparator c = false ∧ isBlank c = false := by
  cases t with
  | halfDay =>
    rcases takes with rfl | rfl
    · exact ⟨by decide, List.forall_mem_cons.mpr
        ⟨by decide, List.forall_mem_singleton.mpr (by decide)⟩⟩
    · exact ⟨by decide, List.forall_mem_cons.mpr
        ⟨by decide, List.forall_mem_singleton.mpr (by decide)⟩⟩
  | offset => exact absurd takes id
  | epoch => exact absurd takes id
  | _ =>
    obtain ⟨ds, rfl, enough, _⟩ := takes
    constructor
    · exact map_asciiDigit_ne_nil (Nat.le_trans (by decide) enough)
    · intro c membership
      obtain ⟨d, _, rfl⟩ := List.mem_map.mp membership
      exact ⟨isSeparator_asciiDigit d, isBlank_asciiDigit d⟩

theorem Token.not_isSeparator_of_takes {t : Token} {s : List Char} (takes : t.Takes s)
    (rest : List Char) : ∀ c ∈ (s ++ rest).head?, Element.isSeparator c = false := by
  obtain ⟨nonempty, word⟩ := isWord_of_takes takes
  obtain ⟨first, others, rfl⟩ := List.exists_cons_of_ne_nil nonempty
  rintro c ⟨⟩
  exact (word first List.mem_cons_self).1

theorem Joint.splits_append (joint : Joint) {rest : List Char}
    (stops : ∀ c ∈ rest.head?, Element.isSeparator c = false) :
    ∃ others, joint.element.splits (joint.chars ++ rest) = (joint.chars, rest) :: others := by
  cases joint with
  | letterT => exact ⟨[], rfl⟩
  | separators run nonempty plain =>
    exact Element.runs_append (fun c membership => (plain c membership).classes.1) nonempty stops
      (by simp [chars])

theorem not_isDigit_of_endsToken {s : List Char} (ends : EndsToken s) :
    ∀ c ∈ s.head?, isDigit c = false := by
  intro c head
  rcases ends c head with rfl | rfl | plain
  · decide
  · decide
  · exact plain.classes.2.2

/-- Tokens with their joints in front of a text that fits the other elements. -/
theorem Link.ofText?_spell {spelling : Token → List Char} {links : List Link}
    (takes : ∀ link ∈ links, link.2.Takes (spelling link.2)) {es : List Element} {s : List Char}
    {c : Captures} (ends : EndsToken s) (fits : Captures.ofText? es s = some c) :
    Captures.ofText? (elements links ++ es) (spell spelling links ++ s) =
      some (links.map (fun link => (link.2, spelling link.2)) ++ c) := by
  induction links with
  | nil => exact fits
  | cons link links inductionHypothesis =>
    obtain ⟨joint, t⟩ := link
    obtain ⟨taken, others⟩ := List.forall_mem_cons.mp takes
    have stops := not_isDigit_of_endsToken (endsToken spelling links ends)
    obtain ⟨_, tokenSplits⟩ := Token.splits_append taken stops
    obtain ⟨_, jointSplits⟩ := joint.splits_append
      (Token.not_isSeparator_of_takes taken (spell spelling links ++ s))
    rw [spell, List.append_assoc, List.append_assoc]
    have result := Captures.ofText?_cons jointSplits
      (Captures.ofText?_cons tokenSplits (inductionHypothesis others))
    rw [Captures.note_joint] at result
    exact result

/-! ## Offsets -/

/-- The text of an offset: a sign, hours and minutes of two digits each, with a colon between. -/
def IsOffset (s : List Char) : Prop :=
  ∃ sign h₁ h₂ m₁ m₂, Element.isSign sign = true ∧
    s = [sign, asciiDigit h₁, asciiDigit h₂, ':', asciiDigit m₁, asciiDigit m₂]

namespace IsOffset

variable {s : List Char}

theorem ofText? (offset : IsOffset s) :
    Captures.ofText? [.token .offset] s = some [(.offset, s)] := by
  obtain ⟨sign, h₁, h₂, m₁, m₂, isSign, rfl⟩ := offset
  have notZ : (sign == 'Z') = false ∧ (sign == 'z') = false := by
    simp only [Element.isSign, Bool.or_eq_true, beq_iff_eq] at isSign
    rcases isSign with rfl | rfl <;> decide
  have splits : (Element.token .offset).splits
      [sign, asciiDigit h₁, asciiDigit h₂, ':', asciiDigit m₁, asciiDigit m₂] =
        [([sign, asciiDigit h₁, asciiDigit h₂, ':', asciiDigit m₁, asciiDigit m₂], [])] := by
    have noDigit : isDigit ':' = false := by decide
    simp [Element.splits, Element.tokenRuns, Element.offsetRuns, Element.exactly, isSign, notZ,
      isDigit_asciiDigit, noDigit]
  exact Captures.ofText?_cons splits rfl

/-- An offset starts with a sign, and what follows the sign is no offset. -/
theorem head (offset : IsOffset s) : ∃ sign rest, s = sign :: rest ∧ IsPlain sign ∧
    (∀ c ∈ rest.head?, Element.isSeparator c = false) ∧
    Captures.ofText? [.token .offset] rest = none := by
  obtain ⟨sign, h₁, h₂, m₁, m₂, isSign, rfl⟩ := offset
  refine ⟨sign, _, rfl, ?_, ?_, ?_⟩
  · simp only [Element.isSign, Bool.or_eq_true, beq_iff_eq] at isSign
    rcases isSign with rfl | rfl
    · exact ⟨by decide, by decide⟩
    · exact ⟨by decide, by decide⟩
  · rintro c ⟨⟩
    exact isSeparator_asciiDigit h₁
  · have notZ : (asciiDigit h₁ == 'Z') = false ∧ (asciiDigit h₁ == 'z') = false ∧
        Element.isSign (asciiDigit h₁) = false := by
      have digits : ∀ n : Fin 10, (Char.ofNat (0x30 + n.val) == 'Z') = false ∧
          (Char.ofNat (0x30 + n.val) == 'z') = false ∧
          Element.isSign (Char.ofNat (0x30 + n.val)) = false := by decide
      exact digits ⟨h₁ % 10, Nat.mod_lt _ (by decide)⟩
    simp [Captures.ofText?, Element.splits, Element.tokenRuns, Element.offsetRuns,
      Element.exactly, notZ]

end IsOffset

namespace OffsetPlace

variable {spelling : Token → List Char}

def tokens : OffsetPlace → List Token
  | absent => []
  | attached => [.offset]
  | joined _ => [.offset]

theorem ofText?_spell (place : OffsetPlace) (offset : IsOffset (spelling .offset)) :
    Captures.ofText? place.elements (place.spell spelling) =
      some (place.tokens.map fun t => (t, spelling t)) := by
  obtain ⟨sign, rest, spelled, plain, stops, misfit⟩ := offset.head
  cases place with
  | absent => rfl
  | attached => exact offset.ofText?
  | joined joint =>
    cases joint with
    | letterT =>
      have splits : (Element.letter 'T').splits ('T' :: spelling .offset) =
          [(['T'], spelling .offset)] := rfl
      exact Captures.ofText?_cons splits offset.ofText?
    | separators run nonempty plainRun =>
      have kinds : ∀ c ∈ run, Element.isSeparator c = true := fun c membership =>
        (plainRun c membership).classes.1
      have result := offset.ofText?
      -- The longest run takes the sign, and what is left is no offset.
      obtain ⟨others, splits⟩ := Element.runs_append_singleton kinds nonempty plain.classes.1 stops
        (show run.length < (run ++ sign :: rest).length by simp)
      rw [spelled] at result
      rw [elements, spell, spelled, Joint.chars, Joint.element, Captures.ofText?, Element.splits,
        splits, List.findSome?_cons, misfit, List.findSome?_cons, result]
      simp [tokens, spelled, Captures.note]

end OffsetPlace

/-- A text that is spelled by a layout fits its elements, and each token takes its own text. -/
theorem DateLayout.ofText?_spell {spelling : Token → List Char} (layout : DateLayout)
    (takes : ∀ t ∈ layout.tokens, t.Takes (spelling t)) (offset : IsOffset (spelling .offset)) :
    Captures.ofText? layout.elements (layout.spell spelling) =
      some ((layout.tokens ++ layout.place.tokens).map fun t => (t, spelling t)) := by
  obtain ⟨taken, others⟩ := List.forall_mem_cons.mp takes
  have takesLinks : ∀ link ∈ layout.links, link.2.Takes (spelling link.2) := fun link membership =>
    others link.2 (List.mem_map_of_mem membership)
  have ends : EndsToken (layout.place.spell spelling) := by
    refine layout.place.endsToken ?_
    obtain ⟨sign, rest, spelled, plain, _⟩ := offset.head
    rw [spelled]
    rintro c ⟨⟩
    exact .inr (.inr plain)
  have stops := not_isDigit_of_endsToken (Link.endsToken spelling layout.links ends)
  obtain ⟨_, splits⟩ := Token.splits_append taken stops
  have result := Captures.ofText?_cons splits
    (Link.ofText?_spell takesLinks ends (layout.place.ofText?_spell offset))
  rw [elements, spell, result]
  simp [tokens, Captures.note]

end SolrRequest
