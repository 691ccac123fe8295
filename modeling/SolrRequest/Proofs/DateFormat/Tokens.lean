import Mathlib.Data.List.Nodup
import Mathlib.Data.List.Pairwise
import SolrRequest.DateFormat.Reading
import SolrRequest.Proofs.Number.Digits

/-!
# The tokens of a format and what they take

A text that fits a format gives every token of it a piece of the text, in order. The piece of a
numeric token is a run of digits within its bounds. Where the tokens tell each field of a date and
time only once, such a piece is found again by the token.
-/

namespace SolrRequest

open Text

def Item.token? : Item → Option Token
  | .token t => some t
  | .plain _ => none

def Element.token? : Element → Option Token
  | .token t => some t
  | _ => none

def DateFormat.tokens (format : String) : List Token :=
  (items format).filterMap Item.token?

inductive DateField
  | year
  | month
  | day
  | hour
  | minute
  | second
deriving DecidableEq

def Token.fields : Token → List DateField
  | year | shortYear => [.year]
  | dayOfYear => [.month, .day]
  | paddedDay | day => [.day]
  | paddedMonth | month => [.month]
  | paddedHour | hour | paddedClockHour | clockHour => [.hour]
  | paddedMinute | minute => [.minute]
  | paddedSecond | second => [.second]
  | fraction | halfDay | offset | epoch => []

def Token.TellOnce (tokens : List Token) : Prop :=
  (tokens.flatMap fields).Nodup

instance (tokens : List Token) : Decidable (Token.TellOnce tokens) :=
  inferInstanceAs (Decidable (List.Nodup _))

namespace Element

theorem tokens_ofItems (items : List Item) :
    (ofItems items).filterMap token? = items.filterMap Item.token? := by
  induction items with
  | nil => rfl
  | cons item items inductionHypothesis =>
    cases item with
    | token t => simp [ofItems, token?, Item.token?, inductionHypothesis]
    | plain c =>
      have noToken : (Item.plain c).token? = none := rfl
      rw [List.filterMap_cons_none noToken, ← inductionHypothesis, ofItems]
      split
      · rfl
      · split
        · next joined => rw [joined]
        · rfl

variable {kind : Char → Bool} {most least : Nat} {s : List Char} {split : List Char × List Char}

theorem length_of_mem_runs (membership : split ∈ runs kind most s) : split.1.length ≤ most := by
  induction most generalizing s split with
  | zero => cases membership
  | succ most inductionHypothesis =>
    cases s with
    | nil => cases membership
    | cons c s =>
      rw [runs] at membership
      split at membership
      · rcases List.mem_append.mp membership with longer | single
        · obtain ⟨rest, later, rfl⟩ := List.mem_map.mp longer
          exact Nat.succ_le_succ (inductionHypothesis later)
        · obtain rfl := List.mem_singleton.mp single
          exact Nat.le_add_left 1 most
      · cases membership

theorem length_of_mem_digitRuns (membership : split ∈ digitRuns least most s) :
    split.1.length ≤ most := by
  obtain ⟨run, _⟩ := List.mem_filter.mp membership
  exact length_of_mem_runs run

/-- A token that tells a field takes no more digits than its bound. -/
theorem length_of_mem_tokenRuns {t : Token} (tells : t.fields ≠ [])
    (membership : split ∈ tokenRuns t s) : split.1.length ≤ (digitBounds t).2 := by
  cases t with
  | halfDay => exact absurd rfl tells
  | offset => exact absurd rfl tells
  | epoch => exact absurd rfl tells
  | _ => exact length_of_mem_digitRuns membership

end Element

namespace Captures

variable {es : List Element} {s : List Char} {c : Captures}

theorem ofText?_cons_eq_some {e : Element} (fits : ofText? (e :: es) s = some c) :
    ∃ split ∈ e.splits s, ∃ rest, ofText? es split.2 = some rest ∧ c = note e split.1 rest := by
  rw [ofText?] at fits
  obtain ⟨split, offered, noted⟩ := List.exists_of_findSome?_eq_some fits
  obtain ⟨rest, fitsRest, same⟩ := Option.map_eq_some_iff.mp noted
  exact ⟨split, offered, rest, fitsRest, same.symm⟩

/-- Every token of the pattern takes something, in order. -/
theorem tokens_ofText? (fits : ofText? es s = some c) :
    c.map Prod.fst = es.filterMap Element.token? := by
  induction es generalizing s c with
  | nil =>
    cases s <;> cases fits
    rfl
  | cons e es inductionHypothesis =>
    obtain ⟨split, _, rest, fitsRest, rfl⟩ := ofText?_cons_eq_some fits
    have later := inductionHypothesis fitsRest
    cases e with
    | token t => exact congrArg (t :: ·) later
    | separator => exact later
    | letter _ => exact later

theorem length_of_ofText? (fits : ofText? es s = some c) {token : Token} {taken : List Char}
    (took : (token, taken) ∈ c) (tells : token.fields ≠ []) :
    taken.length ≤ (Element.digitBounds token).2 := by
  induction es generalizing s c with
  | nil =>
    cases s <;> cases fits
    cases took
  | cons e es inductionHypothesis =>
    obtain ⟨split, offered, rest, fitsRest, rfl⟩ := ofText?_cons_eq_some fits
    cases e with
    | token t =>
      rcases List.mem_cons.mp took with same | later
      · cases same
        exact Element.length_of_mem_tokenRuns tells offered
      · exact inductionHypothesis fitsRest later
    | separator => exact inductionHypothesis fitsRest took
    | letter _ => exact inductionHypothesis fitsRest took

def written (taken : List Char) : Nat :=
  Integer.ofDigits 10 (digitsOf taken)

theorem written_lt_pow (taken : List Char) : written taken < 10 ^ taken.length := by
  have small : ∀ d ∈ digitsOf taken, d < 10 := by
    intro d membership
    obtain ⟨c, _, digit⟩ := List.mem_filterMap.mp membership
    exact digit?_lt digit
  refine Nat.lt_of_lt_of_le (Integer.ofDigits_lt_pow small) ?_
  exact Nat.pow_le_pow_right (by decide) (List.length_filterMap_le _ _)

/-- What a token of a field took has no more digits than the token allows. -/
theorem written_lt (fits : ofText? es s = some c) {token : Token} {taken : List Char}
    (took : (token, taken) ∈ c) (tells : token.fields ≠ []) :
    written taken < 10 ^ (Element.digitBounds token).2 :=
  Nat.lt_of_lt_of_le (written_lt_pow taken)
    (Nat.pow_le_pow_right (by decide) (length_of_ofText? fits took tells))

theorem last?_eq_none {token : Token} (absent : token ∉ c.map Prod.fst) : c.last? token = none := by
  rw [last?, Option.map_eq_none_iff, List.find?_eq_none]
  rintro p membership isToken
  obtain rfl : p.1 = token := beq_iff_eq.mp isToken
  exact absent (List.mem_map_of_mem (List.mem_reverse.mp membership))

/-! ## Each field once -/

def TellOnce (c : Captures) : Prop :=
  Token.TellOnce (c.map Prod.fst)

namespace TellOnce

variable {token other : Token} {taken : List Char} {field : DateField}

theorem eq_of_field (once : c.TellOnce) {p q : Token × List Char} (first : p ∈ c) (second : q ∈ c)
    (told : field ∈ p.1.fields) (toldAgain : field ∈ q.1.fields) : p = q := by
  have fields : (c.flatMap fun p => p.1.fields).Nodup := by
    rw [TellOnce, Token.TellOnce, List.flatMap_map] at once
    exact once
  have disjoint := (List.nodup_flatMap.mp fields).2
  have : Std.Symm (Function.onFun List.Disjoint fun p : Token × List Char => p.1.fields) :=
    ⟨fun _ _ apart => apart.symm⟩
  by_contra differ
  exact disjoint.forall first second differ told toldAgain

theorem last?_of_mem (once : c.TellOnce) (took : (token, taken) ∈ c)
    (tells : field ∈ token.fields) :
    c.last? token = some taken := by
  cases found : c.reverse.find? (·.1 == token) with
  | none =>
    have absent := List.find?_eq_none.mp found _ (List.mem_reverse.mpr took)
    exact absurd (beq_self_eq_true token) absent
  | some p =>
    have isToken : p.1 = token := beq_iff_eq.mp (List.find?_some found :)
    have membership := List.mem_reverse.mp (List.mem_of_find?_eq_some found)
    have same := once.eq_of_field membership took (isToken ▸ tells) tells
    rw [last?, found, same]
    rfl

theorem last?_of_other (once : c.TellOnce) (took : (token, taken) ∈ c)
    (tells : field ∈ token.fields)
    (toldAgain : field ∈ other.fields) (differ : other ≠ token) : c.last? other = none := by
  cases found : c.reverse.find? (·.1 == other) with
  | none => rw [last?, found, Option.map_none]
  | some p =>
    have isOther : p.1 = other := beq_iff_eq.mp (List.find?_some found :)
    have membership := List.mem_reverse.mp (List.mem_of_find?_eq_some found)
    have same := once.eq_of_field membership took (isOther ▸ toldAgain) tells
    rw [same] at isOther
    exact absurd isOther.symm differ

theorem number?_of_mem (once : c.TellOnce) (took : (token, taken) ∈ c)
    (tells : field ∈ token.fields) : c.number? token = some (written taken) := by
  rw [number?, once.last?_of_mem took tells]
  rfl

theorem number?_of_other (once : c.TellOnce) (took : (token, taken) ∈ c)
    (tells : field ∈ token.fields) (toldAgain : field ∈ other.fields) (differ : other ≠ token) :
    c.number? other = none := by
  rw [number?, once.last?_of_other took tells toldAgain differ]
  rfl

/-- Of two tokens for a field, the one that stands decides. -/
theorem or_number?_of_mem (once : c.TellOnce) (took : (token, taken) ∈ c) {padded bare : Token}
    (stands : token = padded ∨ token = bare) (tellsPadded : field ∈ padded.fields)
    (tellsBare : field ∈ bare.fields) :
    (c.number? padded).or (c.number? bare) = some (written taken) := by
  rcases stands with rfl | rfl
  · rw [once.number?_of_mem took tellsPadded, Option.some_or]
  · by_cases same : padded = token
    · subst same
      rw [once.number?_of_mem took tellsPadded, Option.some_or]
    · rw [once.number?_of_other took tellsBare tellsPadded same, Option.none_or,
        once.number?_of_mem took tellsBare]

theorem numberOr_of_mem (once : c.TellOnce) (took : (token, taken) ∈ c) {padded bare : Token}
    (stands : token = padded ∨ token = bare) (tellsPadded : field ∈ padded.fields)
    (tellsBare : field ∈ bare.fields) (absent : Nat) :
    c.numberOr padded bare absent = written taken := by
  rw [numberOr, once.or_number?_of_mem took stands tellsPadded tellsBare]
  rfl

end TellOnce

end Captures

end SolrRequest
