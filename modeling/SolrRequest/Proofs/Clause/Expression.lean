import SolrRequest.Clause

/-!
# Nested clauses

Clauses as they are nested by a caller, with operands of any kind at the leaves. Whether an operand
is of use is seen from the leaves below it. A junction is complete unless just one of its operands
is of use: then the other one stands in the text as well.
-/

namespace SolrRequest

open Text

namespace Value

theorem isWord_of_mem {s : String} {c : Char} (membership : c ∈ s.toList)
    (visible : isBlank c = false) : (text s).isWord = true := by
  have notBlank : allBlank s = false := by
    rw [allBlank, List.all_eq_false]
    exact ⟨c, membership, by simp [visible]⟩
  simp [isWord, word?, text?, notBlank]

theorem isWord_empty : (text "").isWord = false := by decide

end Value

namespace Clause

variable {left right clause : Value}

theorem mem_wrap {s : String} {c : Char} (membership : c ∈ s.toList) (wrapped : Bool) :
    c ∈ (wrap wrapped s).toList := by
  cases wrapped <;> simp [wrap, membership]

theorem isWord_group (field : Value) (items : List Value) (wrapped : Bool) :
    (Value.text (group field items wrapped)).isWord = true := by
  apply Value.isWord_of_mem (c := ':')
  · apply mem_wrap
    simp
  · decide

theorem isWord_join (j : Junction) (left right : Value) (wrapped : Bool) :
    (Value.text (join j left right wrapped)).isWord =
      (right.hasItems || left.isWord || right.isWord) := by
  rw [join, Value.hasItems]
  cases right.items? with
  | some items => simp [isWord_group]
  | none =>
    by_cases useful : (left.isWord || right.isWord) = true
    · rw [if_pos useful]
      -- The operator stands in the text, so that this is not blank whatever the operands are.
      obtain ⟨c, membership, visible⟩ : ∃ c ∈ j.word.toList, isBlank c = false := by
        cases j with
        | and => exact ⟨'A', by decide, by decide⟩
        | or => exact ⟨'O', by decide, by decide⟩
      have standing : c ∈ (wrap wrapped (spaced [left.toText, j.word, right.toText])).toList := by
        apply mem_wrap
        simp [spaced, membership]
      rw [Value.isWord_of_mem standing visible]
      simpa using useful
    · rw [if_neg useful, Value.isWord_empty]
      simpa using useful

theorem isWord_mark (m : Mark) (clause : Value) (wrapped : Bool) :
    (Value.text (mark m clause wrapped)).isWord = clause.isWord := by
  rw [mark, show clause.isWord = clause.word?.isSome from rfl]
  cases clause.word? with
  | none => exact Value.isWord_empty
  | some s =>
    obtain ⟨c, membership, visible⟩ : ∃ c ∈ m.word.toList, isBlank c = false := by
      cases m with
      | not => exact ⟨'!', by decide, by decide⟩
      | prohibit => exact ⟨'-', by decide, by decide⟩
      | require => exact ⟨'+', by decide, by decide⟩
    apply Value.isWord_of_mem (c := c) _ visible
    apply mem_wrap
    simp [spaced, membership]

theorem isWord_phrase (value : Value) : (Value.text (phrase value)).isWord = value.isWord := by
  rw [phrase, show value.isWord = value.word?.isSome from rfl]
  cases value.word? with
  | none => exact Value.isWord_empty
  | some s => exact Value.isWord_of_mem (c := '"') (by simp) (by decide)

theorem join_eq_empty_iff (j : Junction) (wrapped : Bool) : join j left right wrapped = "" ↔
    right.hasItems = false ∧ left.isWord = false ∧ right.isWord = false := by
  constructor
  · intro empty
    have useless := isWord_join j left right wrapped
    rw [empty, Value.isWord_empty] at useless
    simpa [and_assoc] using useless.symm
  · rintro ⟨noItems, leftUseless, rightUseless⟩
    rw [Value.hasItems, Option.isSome_eq_false_iff, Option.isNone_iff_eq_none] at noItems
    simp [join, noItems, leftUseless, rightUseless]

/-- A nesting of calls. Terms in a list or tuple are calls as well. -/
inductive Expression
  | operand (value : Value)
  | list (terms : List Expression)
  | tuple (terms : List Expression)
  | join (j : Junction) (left right : Expression) (wrapped : Bool)
  | mark (m : Mark) (clause : Expression) (wrapped : Bool)
  | phrase (clause : Expression)

namespace Expression

mutual

def value : Expression → Value
  | operand v => v
  | list terms => .list (values terms)
  | tuple terms => .tuple (values terms)
  | join j left right wrapped => .text (Clause.join j left.value right.value wrapped)
  | mark m clause wrapped => .text (Clause.mark m clause.value wrapped)
  | phrase clause => .text (Clause.phrase clause.value)

def values : List Expression → List Value
  | [] => []
  | e :: es => e.value :: values es

end

mutual

/-- The expression and all that it is nested of. -/
def parts : Expression → List Expression
  | operand v => [operand v]
  | list terms => list terms :: partsOfAll terms
  | tuple terms => tuple terms :: partsOfAll terms
  | join j left right wrapped => join j left right wrapped :: (left.parts ++ right.parts)
  | mark m clause wrapped => mark m clause wrapped :: clause.parts
  | phrase clause => phrase clause :: clause.parts

def partsOfAll : List Expression → List Expression
  | [] => []
  | e :: es => e.parts ++ partsOfAll es

end

/-- What holds of the terms of a list carries over to the list. -/
@[induction_eliminator]
theorem inductionOnTerms {motive : Expression → Prop} (operand : ∀ v, motive (operand v))
    (list : ∀ terms, (∀ e ∈ terms, motive e) → motive (list terms))
    (tuple : ∀ terms, (∀ e ∈ terms, motive e) → motive (tuple terms))
    (join : ∀ j left right wrapped, motive left → motive right →
      motive (join j left right wrapped))
    (mark : ∀ m clause wrapped, motive clause → motive (mark m clause wrapped))
    (phrase : ∀ clause, motive clause → motive (phrase clause)) (e : Expression) : motive e :=
  @Expression.rec motive (fun es => ∀ e ∈ es, motive e) operand list tuple join mark phrase
    (fun _ absent => nomatch absent)
    (fun _ _ first others => List.forall_mem_cons.mpr ⟨first, others⟩) e

theorem forall_mem_partsOfAll {motive : Expression → Prop} {es : List Expression} :
    (∀ p ∈ partsOfAll es, motive p) ↔ ∀ e ∈ es, ∀ p ∈ e.parts, motive p := by
  induction es with
  | nil => simp [partsOfAll]
  | cons e es inductionHypothesis =>
    rw [partsOfAll, List.forall_mem_append, List.forall_mem_cons, inductionHypothesis]

def hasTerms : Expression → Bool
  | operand v => v.hasItems
  | list terms => !terms.isEmpty
  | tuple terms => !terms.isEmpty
  | _ => false

def isOfUse : Expression → Bool
  | operand v => v.isWord
  | list _ => false
  | tuple _ => false
  | join _ left right _ => right.hasTerms || left.isOfUse || right.isOfUse
  | mark _ clause _ => clause.isOfUse
  | phrase clause => clause.isOfUse

theorem hasItems_value (e : Expression) : e.value.hasItems = e.hasTerms := by
  cases e with
  | operand v => rfl
  | list terms | tuple terms => cases terms <;> rfl
  | join | mark | phrase => rfl

theorem isWord_value (e : Expression) : e.value.isWord = e.isOfUse := by
  induction e with
  | operand v => rfl
  | list terms _ => rfl
  | tuple terms _ => rfl
  | join j left right wrapped leftWord rightWord =>
    rw [value, isWord_join, hasItems_value, leftWord, rightWord, isOfUse]
  | mark m clause wrapped word => rw [value, isWord_mark, word, isOfUse]
  | phrase clause word => rw [value, isWord_phrase, word, isOfUse]

/-- A junction gives the empty text, or both of its operands are of use: the left one as a text that
is not blank, the right one as such a text or as a list or tuple with items. -/
def IsComplete : Expression → Prop
  | join j left right wrapped => Clause.join j left.value right.value wrapped = "" ∨
      left.value.isWord = true ∧ (right.value.isWord = true ∨ right.value.hasItems = true)
  | _ => True

/-- The left operand of a junction is of use exactly if the right one is. -/
def agrees : Expression → Bool
  | join _ left right _ => left.isOfUse == (right.hasTerms || right.isOfUse)
  | _ => true

theorem isComplete_iff (e : Expression) : e.IsComplete ↔ e.agrees = true := by
  cases e with
  | join j left right wrapped =>
    rw [IsComplete, join_eq_empty_iff, agrees, isWord_value, isWord_value, hasItems_value]
    cases left.isOfUse <;> cases right.isOfUse <;> cases right.hasTerms <;> decide
  | _ => simp [IsComplete, agrees]

mutual

/-- Every leaf of the expression is of use where it stands. -/
def isTerm : Expression → Bool
  | operand v => v.isWord
  | list _ => false
  | tuple _ => false
  | join _ left right _ => left.isTerm && (right.isTerm || right.isGroup)
  | mark _ clause _ => clause.isTerm
  | phrase clause => clause.isTerm

def isGroup : Expression → Bool
  | operand v => v.hasItems
  | list terms => !terms.isEmpty && areTerms terms
  | tuple terms => !terms.isEmpty && areTerms terms
  | _ => false

def areTerms : List Expression → Bool
  | [] => true
  | e :: es => e.isTerm && areTerms es

end

theorem areTerms_eq_all (es : List Expression) : areTerms es = es.all isTerm := by
  induction es with
  | nil => rfl
  | cons e es inductionHypothesis => rw [areTerms, inductionHypothesis, List.all_cons]

theorem isOfUse_of_isTerm {e : Expression} (term : e.isTerm = true) : e.isOfUse = true := by
  induction e with
  | operand v => exact term
  | list terms _ => cases term
  | tuple terms _ => cases term
  | join j left right wrapped leftOfUse _ =>
    rw [isTerm, Bool.and_eq_true] at term
    rw [isOfUse, leftOfUse term.1, Bool.or_true, Bool.true_or]
  | mark m clause wrapped clauseOfUse => exact clauseOfUse term
  | phrase clause clauseOfUse => exact clauseOfUse term

theorem hasTerms_of_isGroup {e : Expression} (group : e.isGroup = true) : e.hasTerms = true := by
  cases e with
  | operand v => exact group
  | list terms | tuple terms =>
    rw [isGroup, Bool.and_eq_true] at group
    exact group.1
  | join | mark | phrase => cases group

theorem areTerms_of_isGroup {terms : List Expression}
    (group : (!terms.isEmpty && areTerms terms) = true) : ∀ e ∈ terms, e.isTerm = true := by
  rw [Bool.and_eq_true, areTerms_eq_all, List.all_eq_true] at group
  exact group.2

theorem agrees_of_isTerm {e : Expression} (standing : e.isTerm = true ∨ e.isGroup = true) :
    ∀ p ∈ e.parts, p.agrees = true := by
  induction e with
  | operand v => simp [parts, agrees]
  | list terms agreeing | tuple terms agreeing =>
    rcases standing with term | group
    · cases term
    · have termsAgree := forall_mem_partsOfAll.mpr fun e member =>
        agreeing e member (.inl (areTerms_of_isGroup group e member))
      exact List.forall_mem_cons.mpr ⟨rfl, termsAgree⟩
  | join j left right wrapped leftAgrees rightAgrees =>
    rcases standing with term | group
    · rw [isTerm, Bool.and_eq_true, Bool.or_eq_true] at term
      obtain ⟨leftTerm, rightStanding⟩ := term
      have rightOfUse : (right.hasTerms || right.isOfUse) = true := by
        rcases rightStanding with rightTerm | rightGroup
        · rw [isOfUse_of_isTerm rightTerm, Bool.or_true]
        · rw [hasTerms_of_isGroup rightGroup, Bool.true_or]
      rw [parts, List.forall_mem_cons, List.forall_mem_append]
      refine ⟨?_, leftAgrees (.inl leftTerm), rightAgrees rightStanding⟩
      rw [agrees, isOfUse_of_isTerm leftTerm, rightOfUse, beq_self_eq_true]
    · cases group
  | mark _ clause _ clauseAgrees | phrase clause clauseAgrees =>
    rcases standing with term | group
    · exact List.forall_mem_cons.mpr ⟨rfl, clauseAgrees (.inl term)⟩
    · cases group

/-- Every junction in a nesting of clauses is complete exactly if none of them has one operand
that is of use and one that is not, as seen from the leaves. Where all leaves are of use there is
none. -/
theorem complete_iff (e : Expression) :
    ((∀ p ∈ e.parts, p.IsComplete) ↔ ∀ p ∈ e.parts, p.agrees = true) ∧
      (e.isTerm = true → e.value.isWord = true ∧ ∀ p ∈ e.parts, p.IsComplete) := by
  have everywhere : (∀ p ∈ e.parts, p.IsComplete) ↔ ∀ p ∈ e.parts, p.agrees = true := by
    simp only [isComplete_iff]
  refine ⟨everywhere, ?_⟩
  intro term
  rw [isWord_value]
  exact ⟨isOfUse_of_isTerm term, everywhere.mpr (agrees_of_isTerm (.inl term))⟩

/-- A mark on nothing is nothing, and the junction above it keeps the place for it. -/
theorem not_complete_of_emptyMark :
    let nothing : Expression := mark .not (operand (.text "")) true
    let e : Expression := join .and (operand (.text "a")) nothing true
    nothing.value = .text "" ∧ e.value = .text "(a AND )" ∧ ¬ e.IsComplete := by
  intro nothing e
  refine ⟨congrArg Value.text (by decide), congrArg Value.text (by decide), ?_⟩
  rw [isComplete_iff]
  decide

end Expression

end Clause

end SolrRequest
