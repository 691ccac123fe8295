import SolrRequest.Clause

/-!
# Compositions

Clauses that are composed of words, with parentheses around every operator. Where the text of such a
composition ends is seen from the text itself: a word ends before the first blank or punctuation, a
phrase with its second quote, and anything else with its own closing parenthesis. So a text that is
followed by no more of a word determines the composition, and no two compositions have the same
text.
-/

namespace SolrRequest

open Text

theorem Junction.word_injective : Function.Injective word := by
  intro j k
  cases j <;> cases k <;> decide

theorem Mark.word_injective : Function.Injective word := by
  intro m n
  cases m <;> cases n <;> decide

namespace Clause

def isWordChar (c : Char) : Bool :=
  !isBlank c && c != '(' && c != ')' && c != ':' && c != '"'

/-- A text that stands as a term by itself. The texts of operators are words too. -/
@[ext]
structure Word where
  text : String
  nonempty : text.toList ≠ []
  plain : ∀ c ∈ text.toList, isWordChar c = true

inductive Composition
  | word (w : Word)
  | phrase (w : Word)
  | join (j : Junction) (left right : Composition)
  | mark (m : Mark) (clause : Composition)
  | group (field first : Composition) (others : List Composition)

namespace Composition

mutual

def render : Composition → String
  | word w => w.text
  | phrase w => Clause.phrase (.text w.text)
  | join j left right => Clause.join j (.text left.render) (.text right.render) true
  | mark m clause => Clause.mark m (.text clause.render) true
  | group field first others =>
    Clause.join .and (.text field.render) (.list (.text first.render :: terms others)) true

def terms : List Composition → List Value
  | [] => []
  | c :: cs => .text c.render :: terms cs

end

theorem terms_eq_map (cs : List Composition) : terms cs = cs.map fun c => .text c.render := by
  induction cs with
  | nil => rfl
  | cons c cs inductionHypothesis => rw [terms, inductionHypothesis, List.map_cons]

/-- What holds of the field and of every term of a group carries over to the group. -/
@[induction_eliminator]
theorem inductionOnParts {motive : Composition → Prop} (word : ∀ w, motive (word w))
    (phrase : ∀ w, motive (phrase w))
    (join : ∀ j left right, motive left → motive right → motive (join j left right))
    (mark : ∀ m clause, motive clause → motive (mark m clause))
    (group : ∀ field first others, motive field → motive first → (∀ c ∈ others, motive c) →
      motive (group field first others)) (c : Composition) : motive c :=
  @Composition.rec motive (fun cs => ∀ c ∈ cs, motive c) word phrase join mark group
    (fun _ absent => nomatch absent)
    (fun _ _ first others => List.forall_mem_cons.mpr ⟨first, others⟩) c

/-! ## The shape of the text -/

mutual

/-- The characters of a composition, in front of other ones. -/
def spell : Composition → List Char → List Char
  | word w, rest => w.text.toList ++ rest
  | phrase w, rest => '"' :: (w.text.toList ++ '"' :: rest)
  | join j left right, rest =>
    '(' :: left.spell (' ' :: (j.word.toList ++ ' ' :: right.spell (')' :: rest)))
  | mark m clause, rest => '(' :: (m.word.toList ++ ' ' :: clause.spell (')' :: rest))
  | group field first others, rest =>
    '(' :: field.spell (':' :: '(' :: first.spell (spellTerms others (')' :: ')' :: rest)))

/-- A blank and the characters of a composition, for each of several ones. -/
def spellTerms : List Composition → List Char → List Char
  | [], rest => rest
  | c :: cs, rest => ' ' :: c.spell (spellTerms cs rest)

end

theorem allBlank_of_head {s : String} {c : Char} {cs : List Char} (spelled : s.toList = c :: cs)
    (visible : isBlank c = false) : allBlank s = false := by
  rw [allBlank, spelled, List.all_cons, visible, Bool.false_and]

theorem word?_of_head {s : String} {c : Char} {cs : List Char} (spelled : s.toList = c :: cs)
    (visible : isBlank c = false) : (Value.text s).word? = some s := by
  simp [Value.word?, Value.text?, allBlank_of_head spelled visible]

end Composition

theorem Word.exists_cons (w : Word) : ∃ c cs, w.text.toList = c :: cs ∧ isWordChar c = true := by
  obtain ⟨c, cs, spelled⟩ := List.exists_cons_of_ne_nil w.nonempty
  exact ⟨c, cs, spelled, w.plain c (by simp [spelled])⟩

theorem Word.append_ne_cons (w : Word) {c : Char} (outside : isWordChar c = false)
    (rest cs : List Char) : w.text.toList ++ rest ≠ c :: cs := by
  intro same
  obtain ⟨d, ds, spelled, wordChar⟩ := w.exists_cons
  rw [spelled] at same
  obtain rfl := (List.cons.inj same).1
  rw [outside] at wordChar
  cases wordChar

theorem isBlank_of_isWordChar {c : Char} (wordChar : isWordChar c = true) : isBlank c = false := by
  simp only [isWordChar, Bool.and_eq_true, Bool.not_eq_true'] at wordChar
  exact wordChar.1.1.1.1

namespace Composition

/-- No composition starts with a blank. -/
theorem exists_spell_eq_cons (c : Composition) (rest : List Char) :
    ∃ d ds, c.spell rest = d :: ds ∧ isBlank d = false := by
  cases c with
  | word w =>
    obtain ⟨d, ds, spelled, wordChar⟩ := w.exists_cons
    exact ⟨d, ds ++ rest, by rw [spell, spelled, List.cons_append], isBlank_of_isWordChar wordChar⟩
  | phrase w => exact ⟨'"', _, rfl, by decide⟩
  | join j left right => exact ⟨'(', _, rfl, by decide⟩
  | mark m clause => exact ⟨'(', _, rfl, by decide⟩
  | group field first others => exact ⟨'(', _, rfl, by decide⟩

theorem word?_render {c : Composition} (spelled : ∀ rest, c.render.toList ++ rest = c.spell rest) :
    (Value.text c.render).word? = some c.render := by
  obtain ⟨d, ds, first, visible⟩ := c.exists_spell_eq_cons []
  rw [← spelled, List.append_nil] at first
  exact word?_of_head first visible

theorem toList_spaced_append {first : Composition} {others : List Composition}
    (spelled : ∀ c ∈ first :: others, ∀ rest, c.render.toList ++ rest = c.spell rest)
    (rest : List Char) :
    (spaced ((first :: others).map render)).toList ++ rest =
      first.spell (spellTerms others rest) := by
  induction others generalizing first with
  | nil => exact spelled first List.mem_cons_self rest
  | cons second others inductionHypothesis =>
    obtain ⟨firstSpelled, othersSpelled⟩ := List.forall_mem_cons.mp spelled
    have tail := inductionHypothesis othersSpelled
    simp only [spaced, List.map_cons] at tail ⊢
    simp only [String.intercalate_cons_cons, String.toList_append, List.append_assoc, tail]
    exact firstSpelled (' ' :: second.spell (spellTerms others rest))

/-- The text of a composition is its spelling. -/
theorem toList_render_append (c : Composition) (rest : List Char) :
    c.render.toList ++ rest = c.spell rest := by
  induction c generalizing rest with
  | word w => rfl
  | phrase w =>
    obtain ⟨d, ds, spelled, wordChar⟩ := w.exists_cons
    rw [render, Clause.phrase, word?_of_head spelled (isBlank_of_isWordChar wordChar)]
    simp [spell]
  | join j left right leftSpelled rightSpelled =>
    have usable : (Value.text left.render).isWord = true := by
      rw [Value.isWord, word?_render leftSpelled, Option.isSome_some]
    simp [render, Clause.join, Value.items?, usable, wrap, spaced, Value.toText, spell,
      ← leftSpelled, ← rightSpelled]
  | mark m clause clauseSpelled =>
    rw [render, Clause.mark, word?_render clauseSpelled]
    simp [wrap, spaced, spell, ← clauseSpelled]
  | group field first others fieldSpelled firstSpelled othersSpelled =>
    have inside := toList_spaced_append (List.forall_mem_cons.mpr ⟨firstSpelled, othersSpelled⟩)
    have texts : (Value.text first.render :: terms others).map Value.toText =
        (first :: others).map render := by
      simp [terms_eq_map, Value.toText]
    simp [render, Clause.join, Value.items?, Clause.group, texts, wrap, Value.toText, spell,
      ← fieldSpelled, ← inside]

/-! ## Where a composition ends -/

/-- A rest of a text that does not go on with a word. -/
def EndsWord (rest : List Char) : Prop :=
  ∀ c ∈ rest.head?, isWordChar c = false

theorem endsWord_cons {c : Char} (outside : isWordChar c = false) (rest : List Char) :
    EndsWord (c :: rest) := by
  rintro d ⟨⟩
  exact outside

theorem takeWhile_append {w : Word} {rest : List Char} (ends : EndsWord rest) :
    (w.text.toList ++ rest).takeWhile isWordChar = w.text.toList := by
  have none : rest.takeWhile isWordChar = [] := by
    cases rest with
    | nil => rfl
    | cons c rest => exact List.takeWhile_cons_of_neg (by simp [ends c rfl])
  rw [List.takeWhile_append_of_pos w.plain, none, List.append_nil]

theorem word_append_inj {v w : Word} {rest other : List Char} (ends : EndsWord rest)
    (otherEnds : EndsWord other) (same : v.text.toList ++ rest = w.text.toList ++ other) :
    v = w ∧ rest = other := by
  have chars : v.text.toList = w.text.toList := by
    rw [← takeWhile_append ends, same, takeWhile_append otherEnds]
  rw [chars] at same
  exact ⟨Word.ext (String.toList_inj.mp chars), List.append_cancel_left same⟩

/-- Only a word starts like a word. -/
theorem eq_of_word_append {w : Word} {c : Composition} {rest other : List Char}
    (ends : EndsWord rest) (otherEnds : EndsWord other)
    (same : w.text.toList ++ rest = c.spell other) : word w = c ∧ rest = other := by
  cases c with
  | word v =>
    obtain ⟨words, rests⟩ := word_append_inj ends otherEnds same
    exact ⟨congrArg word words, rests⟩
  | phrase | join | mark | group => exact absurd same (w.append_ne_cons (by decide) _ _)

/-- Only a phrase starts with a quote. -/
theorem eq_of_phrase_append {w : Word} {c : Composition} {rest other : List Char}
    (same : (phrase w).spell rest = c.spell other) : phrase w = c ∧ rest = other := by
  cases c with
  | phrase v =>
    have quoted := endsWord_cons (c := '"') (by decide)
    obtain ⟨words, rests⟩ := word_append_inj (quoted rest) (quoted other) (List.cons.inj same).2
    exact ⟨congrArg phrase words, (List.cons.inj rests).2⟩
  | word v => exact absurd same.symm (v.append_ne_cons (by decide) _ _)
  | join | mark | group => cases (List.cons.inj same).1

end Composition

/-- The operators are words, so that their texts end where words end. -/
def joinWord (j : Junction) : Word :=
  ⟨j.word, by cases j <;> decide, List.all_eq_true.mp (by cases j <;> rfl)⟩

def markWord (m : Mark) : Word :=
  ⟨m.word, by cases m <;> decide, List.all_eq_true.mp (by cases m <;> rfl)⟩

namespace Composition

theorem endsWord_blank (rest : List Char) : EndsWord (' ' :: rest) :=
  endsWord_cons (by decide) rest

theorem endsWord_colon (rest : List Char) : EndsWord (':' :: rest) :=
  endsWord_cons (by decide) rest

theorem endsWord_close (rest : List Char) : EndsWord (')' :: rest) :=
  endsWord_cons (by decide) rest

theorem endsWord_spellTerms (cs : List Composition) (rest : List Char) :
    EndsWord (spellTerms cs (')' :: rest)) := by
  cases cs with
  | nil => exact endsWord_close rest
  | cons c cs => exact endsWord_blank _

/-! ## Which composition a text spells -/

variable {rest other : List Char}

theorem spell_word_ne_open {w : Word} {cs : List Char} : (word w).spell rest ≠ '(' :: cs :=
  w.append_ne_cons (by decide) rest cs

/-- A mark and one term are no junction of two terms, also if the mark is a term itself. -/
theorem join_ne_mark {j : Junction} {m : Mark} {left right clause : Composition} :
    (join j left right).spell rest ≠ (mark m clause).spell other := by
  intro same
  have parts := (List.cons.inj same).2.symm
  obtain ⟨_, afterFirst⟩ := eq_of_word_append (w := markWord m) (endsWord_blank _)
    (endsWord_blank _) parts
  have seconds := (List.cons.inj afterFirst).2.symm
  obtain ⟨_, afterSecond⟩ := eq_of_word_append (w := joinWord j) (endsWord_blank _)
    (endsWord_close _) seconds
  cases (List.cons.inj afterSecond).1

theorem mark_ne_group {m : Mark} {clause field first : Composition} {others : List Composition} :
    (mark m clause).spell rest ≠ (group field first others).spell other := by
  intro same
  have parts := (List.cons.inj same).2
  obtain ⟨_, afterFirst⟩ := eq_of_word_append (w := markWord m) (endsWord_blank _)
    (endsWord_colon _) parts
  cases (List.cons.inj afterFirst).1

/-- A text that starts with this composition, and then does not go on with a word, starts with no
other one. -/
def Delimited (c : Composition) : Prop :=
  ∀ {d : Composition} {rest other : List Char}, EndsWord rest → EndsWord other →
    c.spell rest = d.spell other → c = d ∧ rest = other

theorem Delimited.spellTerms_inj {cs ds : List Composition} (delimited : ∀ c ∈ cs, c.Delimited)
    (same : spellTerms cs (')' :: rest) = spellTerms ds (')' :: other)) :
    cs = ds ∧ rest = other := by
  induction cs generalizing ds with
  | nil =>
    cases ds with
    | nil => exact ⟨rfl, (List.cons.inj same).2⟩
    | cons d ds => cases (List.cons.inj same).1
  | cons c cs inductionHypothesis =>
    cases ds with
    | nil => cases (List.cons.inj same).1
    | cons d ds =>
      obtain ⟨first, others⟩ := List.forall_mem_cons.mp delimited
      obtain ⟨rfl, afterFirst⟩ := first (endsWord_spellTerms cs rest)
        (endsWord_spellTerms ds other) (List.cons.inj same).2
      obtain ⟨rfl, rests⟩ := inductionHypothesis others afterFirst
      exact ⟨rfl, rests⟩

theorem Delimited.join {left right : Composition} (leftDelimited : left.Delimited)
    (rightDelimited : right.Delimited) (j : Junction) : (join j left right).Delimited := by
  intro d rest other _ _ same
  cases d with
  | word w => exact absurd same.symm spell_word_ne_open
  | phrase w => cases (List.cons.inj same).1
  | join k first second =>
    obtain ⟨rfl, afterLeft⟩ := leftDelimited (endsWord_blank _) (endsWord_blank _)
      (List.cons.inj same).2
    obtain ⟨junctions, afterWord⟩ := word_append_inj (v := joinWord j) (w := joinWord k)
      (endsWord_blank _) (endsWord_blank _) (List.cons.inj afterLeft).2
    obtain ⟨rfl, afterRight⟩ := rightDelimited (endsWord_close _) (endsWord_close _)
      (List.cons.inj afterWord).2
    obtain rfl := Junction.word_injective (congrArg Word.text junctions)
    exact ⟨rfl, (List.cons.inj afterRight).2⟩
  | mark m clause => exact absurd same join_ne_mark
  | group field first others =>
    obtain ⟨_, afterFirst⟩ := leftDelimited (endsWord_blank _) (endsWord_colon _)
      (List.cons.inj same).2
    cases (List.cons.inj afterFirst).1

theorem Delimited.mark {clause : Composition} (clauseDelimited : clause.Delimited) (m : Mark) :
    (mark m clause).Delimited := by
  intro d rest other _ _ same
  cases d with
  | word w => exact absurd same.symm spell_word_ne_open
  | phrase w => cases (List.cons.inj same).1
  | join k first second => exact absurd same.symm join_ne_mark
  | mark n term =>
    obtain ⟨marks, afterWord⟩ := word_append_inj (v := markWord m) (w := markWord n)
      (endsWord_blank _) (endsWord_blank _) (List.cons.inj same).2
    obtain ⟨rfl, afterClause⟩ := clauseDelimited (endsWord_close _) (endsWord_close _)
      (List.cons.inj afterWord).2
    obtain rfl := Mark.word_injective (congrArg Word.text marks)
    exact ⟨rfl, (List.cons.inj afterClause).2⟩
  | group field first others => exact absurd same mark_ne_group

theorem Delimited.group {field first : Composition} {others : List Composition}
    (fieldDelimited : field.Delimited) (firstDelimited : first.Delimited)
    (othersDelimited : ∀ c ∈ others, c.Delimited) : (group field first others).Delimited := by
  intro d rest other _ _ same
  cases d with
  | word w => exact absurd same.symm spell_word_ne_open
  | phrase w => cases (List.cons.inj same).1
  | join k left right =>
    obtain ⟨_, afterFirst⟩ := fieldDelimited (endsWord_colon _) (endsWord_blank _)
      (List.cons.inj same).2
    cases (List.cons.inj afterFirst).1
  | mark m clause => exact absurd same.symm mark_ne_group
  | group _ second more =>
    obtain ⟨rfl, afterField⟩ := fieldDelimited (endsWord_colon _) (endsWord_colon _)
      (List.cons.inj same).2
    obtain ⟨rfl, afterFirst⟩ := firstDelimited (endsWord_spellTerms others _)
      (endsWord_spellTerms more _) (List.cons.inj (List.cons.inj afterField).2).2
    obtain ⟨rfl, afterTerms⟩ := spellTerms_inj othersDelimited afterFirst
    exact ⟨rfl, (List.cons.inj afterTerms).2⟩

theorem delimited (c : Composition) : c.Delimited := by
  induction c with
  | word w =>
    intro d rest other ends otherEnds same
    exact eq_of_word_append ends otherEnds same
  | phrase w =>
    intro d rest other _ _ same
    exact eq_of_phrase_append same
  | join j left right leftDelimited rightDelimited => exact leftDelimited.join rightDelimited j
  | mark m clause clauseDelimited => exact clauseDelimited.mark m
  | group field first others fieldDelimited firstDelimited othersDelimited =>
    exact fieldDelimited.group firstDelimited othersDelimited

theorem render_injective : Function.Injective render := by
  intro c d same
  have spelled : c.spell [] = d.spell [] := by
    rw [← toList_render_append, ← toList_render_append, same]
  have ends : EndsWord [] := fun _ absent => nomatch absent
  exact (c.delimited ends ends spelled).1

/-- Compositions with the same text are the same. A field with terms counts as one composition,
since its text is the same with either junction. -/
theorem compositions_unambiguous (c d : Composition) (j : Junction) (field first : Composition)
    (others : List Composition) :
    (c.render = d.render ↔ c = d) ∧
      Clause.join j (.text field.render)
          (.list ((first :: others).map fun term => .text term.render)) true =
        (group field first others).render := by
  constructor
  · exact render_injective.eq_iff
  · rw [render, terms_eq_map]
    rfl

/-- Operators as terms. -/
example : let not := word (markWord .not)
    let and := word (joinWord .and)
    (join .and not and).render = "(! AND AND)" ∧ (mark .not and).render = "(! AND)" ∧
      (group not and [not]).render = "(!:(AND !))" := by
  decide

end Composition

end Clause

end SolrRequest
