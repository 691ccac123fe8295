import SolrRequest.DateFormat.Pattern
import SolrRequest.DateFormat.Writing

/-!
# Layouts of date formats

A layout is a date format in parts: tokens with a joint between every two of them, which is a run of
separators or the letter T, and an offset at the end. Its text has exactly the items and elements
that the parts suggest, since no joint starts a token and none goes on with one.
-/

namespace SolrRequest

open Text

/-- A character of ASCII that is no letter and no digit. -/
def IsPlain (c : Char) : Prop :=
  c.toNat < 128 ∧ c.isAlphanum = false

instance (c : Char) : Decidable (IsPlain c) :=
  inferInstanceAs (Decidable (_ ∧ _))

namespace IsPlain

theorem classes {c : Char} (plain : IsPlain c) : Element.isSeparator c = true ∧
    Element.isLiteral c = false ∧ isDigit c = false := by
  have ascii : ∀ n : Fin 128, (Char.ofNat n.val).isAlphanum = false →
      Element.isSeparator (Char.ofNat n.val) = true ∧
        Element.isLiteral (Char.ofNat n.val) = false ∧ isDigit (Char.ofNat n.val) = false := by
    decide
  have result := ascii ⟨c.toNat, plain.1⟩
  rw [Char.ofNat_toNat] at result
  exact result plain.2

end IsPlain

inductive Joint
  | separators (run : List Char) (nonempty : run ≠ []) (plain : ∀ c ∈ run, IsPlain c)
  | letterT

namespace Joint

def chars : Joint → List Char
  | separators run _ _ => run
  | letterT => ['T']

def element : Joint → Element
  | separators _ _ _ => .separator
  | letterT => .letter 'T'

def ofChar (c : Char) (plain : IsPlain c) : Joint :=
  separators [c] (List.cons_ne_nil c []) (List.forall_mem_singleton.mpr plain)

end Joint

abbrev Link := Joint × Token

namespace Link

variable (spelling : Token → List Char)

/-- The joints as they are, and a text for every token. -/
def spell : List Link → List Char
  | [] => []
  | (joint, t) :: links => joint.chars ++ spelling t ++ spell links

def items : List Link → List Item
  | [] => []
  | (joint, t) :: links => joint.chars.map .plain ++ .token t :: items links

def elements : List Link → List Element
  | [] => []
  | (joint, t) :: links => joint.element :: .token t :: elements links

end Link

inductive OffsetPlace
  | absent
  | attached
  | joined (joint : Joint)

namespace OffsetPlace

variable (spelling : Token → List Char)

def spell : OffsetPlace → List Char
  | absent => []
  | attached => spelling .offset
  | joined joint => joint.chars ++ spelling .offset

def items : OffsetPlace → List Item
  | absent => []
  | attached => [.token .offset]
  | joined joint => joint.chars.map .plain ++ [.token .offset]

def elements : OffsetPlace → List Element
  | absent => []
  | attached => [.token .offset]
  | joined joint => [joint.element, .token .offset]

end OffsetPlace

/-- The first token, the others with their joints, and the offset. -/
structure DateLayout where
  first : Token
  links : List Link
  place : OffsetPlace

namespace DateLayout

def tokens (layout : DateLayout) : List Token :=
  layout.first :: layout.links.map Prod.snd

def spell (spelling : Token → List Char) (layout : DateLayout) : List Char :=
  spelling layout.first ++ (Link.spell spelling layout.links ++ layout.place.spell spelling)

def text (layout : DateLayout) : String :=
  String.ofList (layout.spell Token.letters)

def items (layout : DateLayout) : List Item :=
  .token layout.first :: (Link.items layout.links ++ layout.place.items)

def elements (layout : DateLayout) : List Element :=
  .token layout.first :: (Link.elements layout.links ++ layout.place.elements)

end DateLayout

/-! ## Items -/

/-- What may follow a token so that it is not taken for a longer one. -/
def EndsToken (s : List Char) : Prop :=
  ∀ c ∈ s.head?, c = 'T' ∨ c = 'Z' ∨ IsPlain c

/-- The letters that a token may go on with. -/
def longerLetters : List Char :=
  ['Y', 'D', 'M', 'H', 'h', 'm', 'S', 's']

theorem ne_of_endsToken {c : Char} {s : List Char} (ends : EndsToken (c :: s)) :
    ∀ x ∈ longerLetters, x ≠ c := by
  rintro x letter rfl
  have classes : longerLetters.all (fun x => x != 'T' && x != 'Z' && x.isAlphanum) = true := by
    decide
  have own := List.all_eq_true.mp classes x letter
  simp only [Bool.and_eq_true, bne_iff_ne] at own
  obtain ⟨⟨notT, notZ⟩, alphanumeric⟩ := own
  rcases ends x rfl with rfl | rfl | plain
  · exact notT rfl
  · exact notZ rfl
  · exact absurd (plain.2.symm.trans alphanumeric) (by decide)

theorem Token.first?_append (t : Token) {s : List Char} (ends : EndsToken s) :
    Token.first? (t.letters ++ s) = some t := by
  cases s with
  | nil => cases t <;> rfl
  | cons c s =>
    have other := ne_of_endsToken ends
    simp only [longerLetters, List.forall_mem_cons] at other
    cases t <;> simp [Token.first?, Token.all, Token.letters, List.isPrefixOf, other]

theorem Token.first?_plain {c : Char} (plain : IsPlain c) (s : List Char) :
    Token.first? (c :: s) = none := by
  have alphanumeric : ∀ t : Token, ∃ x letters, t.letters = x :: letters ∧ x.isAlphanum = true := by
    intro t
    cases t <;> exact ⟨_, _, rfl, by decide⟩
  rw [Token.first?, List.find?_eq_none]
  intro t _
  obtain ⟨x, letters, spelled, alphanumeric⟩ := alphanumeric t
  have different : x ≠ c := by
    rintro rfl
    rw [plain.2] at alphanumeric
    exact absurd alphanumeric (by decide)
  simp [spelled, List.isPrefixOf, different]

theorem Item.after_skip (skipped s : List Char) :
    Item.after skipped.length (skipped ++ s) = Item.after 0 s := by
  induction skipped with
  | nil => rfl
  | cons c skipped inductionHypothesis => exact inductionHypothesis

theorem Item.after_token (t : Token) {s : List Char} (ends : EndsToken s) :
    Item.after 0 (t.letters ++ s) = .token t :: Item.after 0 s := by
  have first := Token.first?_append t ends
  obtain ⟨c, letters, spelled⟩ : ∃ c letters, t.letters = c :: letters := by
    cases t <;> exact ⟨_, _, rfl⟩
  rw [spelled, List.cons_append] at first ⊢
  rw [Item.after, first]
  simp only [spelled, List.length_cons, Nat.add_sub_cancel, Item.after_skip]

theorem Item.after_plain {run : List Char} (plain : ∀ c ∈ run, IsPlain c) (s : List Char) :
    Item.after 0 (run ++ s) = run.map .plain ++ Item.after 0 s := by
  induction run with
  | nil => rfl
  | cons c run inductionHypothesis =>
    obtain ⟨first, rest⟩ := List.forall_mem_cons.mp plain
    rw [List.cons_append, Item.after, Token.first?_plain first, inductionHypothesis rest]
    rfl

theorem Item.after_joint (joint : Joint) (s : List Char) :
    Item.after 0 (joint.chars ++ s) = joint.chars.map .plain ++ Item.after 0 s := by
  cases joint with
  | separators run nonempty plain => exact Item.after_plain plain s
  | letterT => rfl

theorem Joint.endsToken (joint : Joint) (s : List Char) : EndsToken (joint.chars ++ s) := by
  cases joint with
  | letterT =>
    rintro c ⟨⟩
    exact .inl rfl
  | separators run nonempty plain =>
    obtain ⟨first, rest, rfl⟩ := List.exists_cons_of_ne_nil nonempty
    rintro c ⟨⟩
    exact .inr (.inr (plain first List.mem_cons_self))

theorem Link.endsToken (spelling : Token → List Char) (links : List Link) {s : List Char}
    (ends : EndsToken s) : EndsToken (spell spelling links ++ s) := by
  cases links with
  | nil => exact ends
  | cons link links =>
    rw [spell, List.append_assoc, List.append_assoc]
    exact link.1.endsToken _

theorem OffsetPlace.endsToken {spelling : Token → List Char} (place : OffsetPlace)
    (offset : EndsToken (spelling .offset)) : EndsToken (place.spell spelling) := by
  cases place with
  | absent => rintro c ⟨⟩
  | attached => exact offset
  | joined joint => exact joint.endsToken _

theorem Link.after_spell (links : List Link) {s : List Char} (ends : EndsToken s) :
    Item.after 0 (spell Token.letters links ++ s) = items links ++ Item.after 0 s := by
  induction links with
  | nil => rfl
  | cons link links inductionHypothesis =>
    obtain ⟨joint, t⟩ := link
    simp only [spell, items, List.append_assoc, Item.after_joint, List.cons_append,
      Item.after_token t (endsToken Token.letters links ends), inductionHypothesis]

theorem OffsetPlace.after_spell (place : OffsetPlace) :
    Item.after 0 (place.spell Token.letters) = place.items := by
  cases place with
  | absent => rfl
  | attached => rfl
  | joined joint => exact Item.after_joint joint _

theorem DateLayout.after_spell (layout : DateLayout) :
    Item.after 0 (layout.spell Token.letters) = layout.items := by
  have ends : EndsToken (layout.place.spell Token.letters) := by
    refine layout.place.endsToken ?_
    rintro c ⟨⟩
    exact .inr (.inl rfl)
  rw [spell, Item.after_token _ (Link.endsToken _ _ ends), Link.after_spell _ ends,
    OffsetPlace.after_spell]
  rfl

/-! ## Elements -/

theorem Joint.ofItems (joint : Joint) (t : Token) (rest : List Item) :
    Element.ofItems (joint.chars.map .plain ++ .token t :: rest) =
      joint.element :: .token t :: Element.ofItems rest := by
  cases joint with
  | letterT => rfl
  | separators run nonempty plain =>
    rw [chars, element]
    induction run with
    | nil => exact absurd rfl nonempty
    | cons c run inductionHypothesis =>
      obtain ⟨first, others⟩ := List.forall_mem_cons.mp plain
      simp only [List.map_cons, List.cons_append, Element.ofItems, first.classes.2.1,
        Bool.false_eq_true, if_false]
      cases run with
      | nil => rfl
      | cons d run => rw [inductionHypothesis (List.cons_ne_nil d run) others]

theorem Link.ofItems (links : List Link) (rest : List Item) :
    Element.ofItems (items links ++ rest) = elements links ++ Element.ofItems rest := by
  induction links with
  | nil => rfl
  | cons link links inductionHypothesis =>
    obtain ⟨joint, t⟩ := link
    rw [items, List.append_assoc, List.cons_append, Joint.ofItems, inductionHypothesis]
    rfl

theorem OffsetPlace.ofItems (place : OffsetPlace) :
    Element.ofItems place.items = place.elements := by
  cases place with
  | absent => rfl
  | attached => rfl
  | joined joint => exact joint.ofItems .offset []

theorem DateLayout.ofItems (layout : DateLayout) :
    Element.ofItems layout.items = layout.elements := by
  rw [items, Element.ofItems, Link.ofItems, OffsetPlace.ofItems]
  rfl

theorem DateLayout.items_eq {layout : DateLayout} {format : String}
    (resolved : DateFormat.resolve format = layout.text) :
    DateFormat.items format = layout.items := by
  rw [DateFormat.items, resolved, text, String.toList_ofList, after_spell]

/-! ## Names -/

theorem Joint.mem_chars {joint : Joint} {c : Char} (membership : c ∈ joint.chars) :
    c = 'T' ∨ IsPlain c := by
  cases joint with
  | letterT => exact .inl (List.mem_singleton.mp membership)
  | separators run nonempty plain => exact .inr (plain c membership)

/-- The letters C and I, of which every name of a format has one, stand in no layout. -/
theorem not_mem_of_joints {c : Char} (letter : c = 'C' ∨ c = 'I') :
    (∀ t : Token, c ∉ t.letters) ∧ ∀ joint : Joint, c ∉ joint.chars := by
  constructor
  · intro t
    rcases letter with rfl | rfl <;> cases t <;> decide
  · intro joint membership
    rcases joint.mem_chars membership with rfl | plain
    · rcases letter with different | different <;> cases different
    · rcases letter with rfl | rfl <;> exact absurd plain.2 (by decide)

theorem Link.not_mem_spell {c : Char} (letter : c = 'C' ∨ c = 'I') (links : List Link) :
    c ∉ spell Token.letters links := by
  obtain ⟨noToken, noJoint⟩ := not_mem_of_joints letter
  induction links with
  | nil => exact List.not_mem_nil
  | cons link links inductionHypothesis =>
    simp [spell, noToken, noJoint, inductionHypothesis]

theorem DateLayout.not_mem_spell {c : Char} (letter : c = 'C' ∨ c = 'I') (layout : DateLayout) :
    c ∉ layout.spell Token.letters := by
  obtain ⟨noToken, noJoint⟩ := not_mem_of_joints letter
  have noPlace : c ∉ layout.place.spell Token.letters := by
    cases layout.place with
    | absent => exact List.not_mem_nil
    | attached => exact noToken .offset
    | joined joint => simp [OffsetPlace.spell, noToken, noJoint]
  simp [spell, noToken, noPlace, Link.not_mem_spell letter]

theorem DateLayout.resolve_text (layout : DateLayout) :
    DateFormat.resolve layout.text = layout.text := by
  have marked : ∀ entry ∈ DateFormat.named, 'C' ∈ entry.1.toList ∨ 'I' ∈ entry.1.toList := by
    decide
  have unnamed : DateFormat.named.lookup layout.text = none := by
    rw [List.lookup_eq_none_iff]
    intro entry membership
    refine bne_iff_ne.mpr fun same => ?_
    rcases marked entry membership with letter | letter
    · rw [← same, text, String.toList_ofList] at letter
      exact layout.not_mem_spell (.inl rfl) letter
    · rw [← same, text, String.toList_ofList] at letter
      exact layout.not_mem_spell (.inr rfl) letter
  rw [DateFormat.resolve, unnamed, Option.getD_none]

end SolrRequest
