import SolrRequest.Proofs.Number.Decimal
import SolrRequest.Proofs.Number.Nearest

/-!
# The integer that a value denotes

An integer denotes itself, a float the integer that is exactly its value, and a text the integer
that it spells. A value is taken for a number exactly if it denotes one, and as that one.
-/

namespace SolrRequest

theorem Double.isInteger_and_truncate_iff {x : Double} {n : Int} :
    x.isInteger = true ∧ x.truncate = n ↔ x.value = n := by
  have positive : (0 : Int) < x.ratio.2 := Int.natCast_pos.mpr (Nat.pow_pos two_pos)
  have value : x.value = n ↔ x.ratio.1 = n * x.ratio.2 := by
    rw [value_eq_ratio, div_eq_iff (by exact_mod_cast positive.ne')]
    exact_mod_cast Iff.rfl
  rw [value, isInteger, beq_iff_eq, truncate]
  constructor
  · rintro ⟨whole, rfl⟩
    exact (Int.tdiv_mul_cancel (Int.dvd_of_emod_eq_zero whole)).symm
  · intro multiple
    rw [multiple]
    exact ⟨Int.mul_emod_left _ _, Int.mul_tdiv_cancel _ positive.ne'⟩

namespace Value

inductive Denotes : Value → Int → Prop
  | int (n : Int) : Denotes (int n) n
  | float {x : Float} {d : Double} {n : Int} (finite : Double.ofFloat? x = some d)
      (equal : d.value = n) : Denotes (float x) n
  | text {v : Value} {s : String} {n : Int} (isText : v.text? = some s)
      (spells : Integer.Spells s n) : Denotes v n

theorem denotes_float_iff {x : Float} {n : Int} :
    (float x).Denotes n ↔ ∃ d, Double.ofFloat? x = some d ∧ d.value = n := by
  constructor
  · rintro (_ | ⟨finite, equal⟩ | ⟨isText, _⟩)
    · exact ⟨_, finite, equal⟩
    · cases isText
  · rintro ⟨d, finite, equal⟩
    exact .float finite equal

theorem denotes_iff_of_text? {v : Value} {s : String} (isText : v.text? = some s) {n : Int} :
    v.Denotes n ↔ Integer.Spells s n := by
  constructor
  · rintro (_ | _ | ⟨same, spells⟩)
    · cases isText
    · cases isText
    · rw [isText] at same
      cases same
      exact spells
  · exact .text isText

theorem integer?_eq_some_iff {v : Value} {n : Int} : v.integer? = some n ↔ v.Denotes n := by
  cases v with
  | int m =>
    constructor
    · intro equal
      cases equal
      exact .int n
    · rintro (_ | _ | ⟨isText, _⟩)
      · rfl
      · cases isText
  | float x =>
    rw [denotes_float_iff, integer?]
    cases finite : Double.ofFloat? x with
    | none => simp
    | some d => simp [← Double.isInteger_and_truncate_iff]
  | text s => rw [denotes_iff_of_text? rfl, ← Integer.read?_eq_some_iff, integer?]
  | field f => rw [denotes_iff_of_text? rfl, ← Integer.read?_eq_some_iff, integer?]
  | _ =>
    constructor
    · intro equal
      cases equal
    · rintro (_ | _ | ⟨isText, _⟩)
      cases isText

theorem denotes_between_blanks {n : Int} (writable : Integer.Writable n) {before after : String}
    (blankBefore : Text.allBlank before = true) (blankAfter : Text.allBlank after = true) :
    (text (before ++ toString n ++ after)).Denotes n := by
  rw [← integer?_eq_some_iff, integer?, ← Integer.decimal_eq_toString]
  exact Integer.read?_between_blanks writable blankBefore blankAfter

theorem isInteger_iff_exists_denotes {v : Value} : v.isInteger = true ↔ ∃ n, v.Denotes n := by
  rw [isInteger, Option.isSome_iff_exists]
  simp only [integer?_eq_some_iff]

end Value

end SolrRequest
