import SolrRequest.Proofs.Clause.Expression
import SolrRequest.Proofs.Text.Balance

/-!
# Parentheses of nested clauses

The parentheses of a clause come in pairs: those of its operands, those around the terms of a group,
and the outermost pair where a call asks for it. So a nesting of calls has balanced parentheses if
its leaves have, whatever each call asks for and whichever operands are of no use.
-/

namespace SolrRequest

open Text

/-- What a junction takes from its right operand: the items of a list or tuple that has any, or the
operand itself. -/
def Value.terms (right : Value) : List Value :=
  right.items?.getD [right]

namespace Clause

/-- A text that is empty, or balanced, and then in parentheses if these are asked for. -/
def IsClause (wrapped : Bool) (s : String) : Prop :=
  s = "" ∨ ∃ inner, s = wrap wrapped inner ∧ IsBalanced inner.toList

theorem toList_wrap (s : String) : (wrap true s).toList = '(' :: s.toList ++ [')'] := by
  simp [wrap]

theorem isBalanced_wrap {s : String} (inner : IsBalanced s.toList) (wrapped : Bool) :
    IsBalanced (wrap wrapped s).toList := by
  cases wrapped with
  | false => exact inner
  | true =>
    rw [toList_wrap]
    exact inner.nest

theorem isBalanced_spaced {parts : List String} (each : ∀ s ∈ parts, IsBalanced s.toList) :
    IsBalanced (spaced parts).toList :=
  .intercalate (by decide) each

namespace IsClause

variable {wrapped : Bool} {s : String}

theorem isBalanced (clause : IsClause wrapped s) : IsBalanced s.toList := by
  rcases clause with rfl | ⟨inner, rfl, balanced⟩
  · exact .nil
  · exact isBalanced_wrap balanced wrapped

theorem isEnclosed (clause : IsClause true s) (nonempty : s ≠ "") : IsEnclosed s.toList := by
  rcases clause with empty | ⟨inner, rfl, balanced⟩
  · exact absurd empty nonempty
  · rw [toList_wrap]
    exact balanced.isEnclosed_nest

end IsClause

variable {left right clause : Value}

/-! ## Single calls -/

theorem isClause_join (j : Junction) (wrapped : Bool) (leftBalanced : IsBalanced left.toText.toList)
    (termsBalanced : ∀ v ∈ right.terms, IsBalanced v.toText.toList) :
    IsClause wrapped (join j left right wrapped) := by
  rw [join]
  cases isList : right.items? with
  | some items =>
    rw [Value.terms, isList, Option.getD_some] at termsBalanced
    have inside : IsBalanced (spaced (items.map Value.toText)).toList :=
      isBalanced_spaced (List.forall_mem_map.mpr termsBalanced)
    refine .inr ⟨left.toText ++ ":" ++ wrap true (spaced (items.map Value.toText)), rfl, ?_⟩
    rw [String.toList_append, String.toList_append]
    exact (leftBalanced.append (by decide)).append (isBalanced_wrap inside true)
  | none =>
    rw [Value.terms, isList, Option.getD_none, List.forall_mem_singleton] at termsBalanced
    have word : IsBalanced j.word.toList := by cases j <;> decide
    dsimp only
    split
    · refine .inr ⟨spaced [left.toText, j.word, right.toText], rfl, isBalanced_spaced ?_⟩
      simp [leftBalanced, word, termsBalanced]
    · exact .inl rfl

theorem isBalanced_of_word? {s : String} (balanced : IsBalanced clause.toText.toList)
    (word : clause.word? = some s) : IsBalanced s.toList := by
  rwa [Value.toText_of_text? (Value.word?_eq_some_iff.mp word).1] at balanced

theorem isClause_mark (m : Mark) (wrapped : Bool) (balanced : IsBalanced clause.toText.toList) :
    IsClause wrapped (mark m clause wrapped) := by
  rw [mark]
  cases word : clause.word? with
  | some s =>
    have sign : IsBalanced m.word.toList := by cases m <;> decide
    refine .inr ⟨spaced [m.word, s], rfl, isBalanced_spaced ?_⟩
    simp [sign, isBalanced_of_word? balanced word]
  | none => exact .inl rfl

theorem isClause_phrase (balanced : IsBalanced clause.toText.toList) :
    IsClause false (phrase clause) := by
  rw [phrase]
  cases word : clause.word? with
  | some s =>
    have quote : IsBalanced "\"".toList := by decide
    refine .inr ⟨"\"" ++ s ++ "\"", rfl, ?_⟩
    rw [String.toList_append, String.toList_append]
    exact (quote.append (isBalanced_of_word? balanced word)).append quote
  | none => exact .inl rfl

theorem mark_eq_empty_iff (m : Mark) (wrapped : Bool) :
    mark m clause wrapped = "" ↔ clause.isWord = false := by
  constructor
  · intro empty
    rw [← isWord_mark m clause wrapped, empty, Value.isWord_empty]
  · intro useless
    rw [Value.isWord, Option.isSome_eq_false_iff, Option.isNone_iff_eq_none] at useless
    rw [mark, useless]

namespace Expression

/-! ## Nestings of calls -/

/-- What is nested on the right of a junction: the terms of a list or tuple, or one term. -/
def rightTerms : Expression → List Expression
  | list terms => terms
  | tuple terms => terms
  | e => [e]

/-- Calls over texts with balanced parentheses, in which lists and tuples of terms stand on the
right of junctions only. -/
inductive HasBalancedLeaves : Expression → Prop
  | operand {v : Value} {s : String} (text : v.text? = some s) (balanced : IsBalanced s.toList) :
      HasBalancedLeaves (operand v)
  | join {j : Junction} {left right : Expression} {wrapped : Bool}
      (leftLeaves : HasBalancedLeaves left)
      (rightLeaves : ∀ e ∈ right.rightTerms, HasBalancedLeaves e) :
      HasBalancedLeaves (join j left right wrapped)
  | mark {m : Mark} {clause : Expression} {wrapped : Bool} (leaves : HasBalancedLeaves clause) :
      HasBalancedLeaves (mark m clause wrapped)
  | phrase {clause : Expression} (leaves : HasBalancedLeaves clause) :
      HasBalancedLeaves (phrase clause)

/-- A junction or a mark that asks for parentheses around its text. -/
def isWrapped : Expression → Bool
  | join _ _ _ wrapped => wrapped
  | mark _ _ wrapped => wrapped
  | _ => false

/-- The value is a text, and what the call asks for as to parentheses holds of it. -/
def GivesClause (e : Expression) : Prop :=
  ∃ s, e.value.text? = some s ∧ IsClause e.isWrapped s

theorem GivesClause.isBalanced {e : Expression} (gives : e.GivesClause) :
    IsBalanced e.value.toText.toList := by
  obtain ⟨s, text, clause⟩ := gives
  rw [Value.toText_of_text? text]
  exact clause.isBalanced

theorem GivesClause.terms_value {e : Expression} (gives : e.GivesClause) :
    e.value.terms = [e.value] := by
  obtain ⟨s, text, _⟩ := gives
  rw [Value.terms, Value.items?_eq_none_of_text? text, Option.getD_none]

theorem values_eq_map (es : List Expression) : values es = es.map value := by
  induction es with
  | nil => rfl
  | cons e es inductionHypothesis => rw [values, inductionHypothesis, List.map_cons]

theorem isBalanced_values {es : List Expression} (give : ∀ e ∈ es, e.GivesClause) :
    ∀ v ∈ values es, IsBalanced v.toText.toList := by
  rw [values_eq_map, List.forall_mem_map]
  intro e member
  exact (give e member).isBalanced

theorem isBalanced_terms {right : Expression} (give : ∀ e ∈ right.rightTerms, e.GivesClause) :
    ∀ v ∈ right.value.terms, IsBalanced v.toText.toList := by
  cases right with
  | list es | tuple es =>
    cases es with
    | nil =>
      -- Without terms it counts as a term itself, and its text is a pair of brackets.
      intro v member
      obtain rfl := List.mem_singleton.mp member
      decide
    | cons e es => exact isBalanced_values give
  | operand | join | mark | phrase =>
    have alone := give _ List.mem_cons_self
    rw [alone.terms_value, List.forall_mem_singleton]
    exact alone.isBalanced

theorem HasBalancedLeaves.givesClause {e : Expression} (leaves : e.HasBalancedLeaves) :
    e.GivesClause := by
  -- What is given below a call is balanced whether or not it was put in parentheses there.
  induction leaves with
  | operand text balanced => exact ⟨_, text, .inr ⟨_, rfl, balanced⟩⟩
  | join _ _ left right =>
    exact ⟨_, rfl, isClause_join _ _ left.isBalanced (isBalanced_terms right)⟩
  | mark _ clause => exact ⟨_, rfl, isClause_mark _ _ clause.isBalanced⟩
  | phrase _ clause => exact ⟨_, rfl, isClause_phrase clause.isBalanced⟩

theorem text_eq_empty_iff {e : Expression} {s : String} (wrapped : e.isWrapped = true)
    (text : e.value.text? = some s) : s = "" ↔ e.isOfUse = false := by
  cases e with
  | join j left right _ =>
    obtain rfl := Option.some.inj text
    rw [join_eq_empty_iff, hasItems_value, isWord_value, isWord_value, isOfUse,
      Bool.or_eq_false_iff, Bool.or_eq_false_iff, and_assoc]
  | mark m clause _ =>
    obtain rfl := Option.some.inj text
    rw [mark_eq_empty_iff, isWord_value, isOfUse]
  | _ => cases wrapped

/-- Calls nested over leaves with balanced parentheses give a text with balanced parentheses. Where
a junction or a mark asks for parentheses, its text is empty exactly if no leaf below is of use, and
otherwise its first parenthesis is closed by its last one. -/
theorem value_keeps_balance {e : Expression} (leaves : e.HasBalancedLeaves) :
    ∃ s, e.value.text? = some s ∧ IsBalanced s.toList ∧
      (e.isWrapped = true →
        (s = "" ↔ e.isOfUse = false) ∧ (s ≠ "" → IsEnclosed s.toList)) := by
  obtain ⟨s, text, clause⟩ := leaves.givesClause
  refine ⟨s, text, clause.isBalanced, ?_⟩
  intro wrapped
  rw [wrapped] at clause
  exact ⟨text_eq_empty_iff wrapped text, clause.isEnclosed⟩

/-- The field is empty, and one of its terms joins a word and a list without terms. -/
theorem value_keeps_balance_emptyOperand :
    let phrases : Expression := tuple [phrase (operand (.text "a (b)")),
      join .or (operand (.field .title)) (list []) false]
    let e : Expression := join .and (mark .prohibit (operand (.text " ")) true) phrases true
    e.HasBalancedLeaves ∧ e.value.text? = some "(:(\"a (b)\" title OR []))" ∧
      IsEnclosed "(:(\"a (b)\" title OR []))".toList := by
  intro phrases e
  have leaves : e.HasBalancedLeaves := by
    refine .join (.mark (.operand rfl (by decide))) (List.forall_mem_cons.mpr ⟨?_, ?_⟩)
    · exact .phrase (.operand rfl (by decide))
    · rw [List.forall_mem_singleton]
      exact .join (.operand rfl (by decide)) (List.forall_mem_nil _)
  have text : e.value.text? = some "(:(\"a (b)\" title OR []))" := by decide
  obtain ⟨s, given, _, enclosed⟩ := value_keeps_balance leaves
  obtain rfl := Option.some.inj (given.symm.trans text)
  exact ⟨leaves, text, (enclosed rfl).2 (by decide)⟩

end Expression

end Clause

end SolrRequest
