import SolrRequest.Calendar.DateTime
import SolrRequest.Entries
import SolrRequest.Field
import SolrRequest.Number.Decimal
import SolrRequest.Text.Blank

/-!
# Values

What a caller passes, what a response holds and what a configuration file says: values of any kind,
in any nesting. The checks tell which values serve as a text, as a list, as a whole number and as a
table.
-/

namespace SolrRequest

inductive Value
  | null
  | bool (b : Bool)
  | int (n : Int)
  | float (x : Float)
  | text (s : String)
  | field (f : Field)
  | list (items : List Value)
  | tuple (items : List Value)
  | dict (entries : List (Value × Value))
  | set (items : List Value)
  | bytes (octets : List UInt8)
  | date (d : Date)
  | moment (t : DateTime)

namespace Value

def text? : Value → Option String
  | text s => some s
  | field f => some f.indexName
  | _ => none

/-- A text that is not blank. -/
def word? (v : Value) : Option String :=
  v.text?.filter fun s => !Text.allBlank s

theorem word?_eq_some_iff {v : Value} {s : String} :
    v.word? = some s ↔ v.text? = some s ∧ Text.allBlank s = false := by
  simp [word?, Option.filter_eq_some_iff]

/-- The items of a list or tuple that has any. -/
def items? : Value → Option (List Value)
  | list (x :: xs) => some (x :: xs)
  | tuple (x :: xs) => some (x :: xs)
  | _ => none

/-- A text is no list, so that its items are not looked at. -/
theorem items?_eq_none_of_text? {v : Value} {s : String} (text : v.text? = some s) :
    v.items? = none := by
  cases v with
  | text _ => rfl
  | field _ => rfl
  | _ => cases text

/-- The whole number that an integer, a float without fraction or a text denotes. -/
def integer? : Value → Option Int
  | int n => some n
  | float x =>
    match Double.ofFloat? x with
    | some d => if d.isInteger then some d.truncate else none
    | none => none
  | text s => Integer.read? s
  | field f => Integer.read? f.indexName
  | _ => none

/-- The entries of a table that has any and whose keys are texts that are not blank. -/
def table? : Value → Option (List (String × Value))
  | dict [] => none
  | dict entries => entries.mapM fun (k, v) => k.word?.map fun s => (s, v)
  | _ => none

def isWord (v : Value) : Bool := v.word?.isSome

def hasItems (v : Value) : Bool := v.items?.isSome

def isInteger (v : Value) : Bool := v.integer?.isSome

def isTable (v : Value) : Bool := v.table?.isSome

/-- Nothing, zero and what is empty do not hold; everything else does, also what is no number. -/
def truthy : Value → Bool
  | null => false
  | bool b => b
  | int n => n != 0
  | float x => match Double.ofFloat? x with
    | some d => d.mantissa != 0
    | none => true
  | text s => !s.toList.isEmpty
  | field f => !f.indexName.toList.isEmpty
  | list items => !items.isEmpty
  | tuple items => !items.isEmpty
  | dict entries => !entries.isEmpty
  | set items => !items.isEmpty
  | bytes octets => !octets.isEmpty
  | date _ => true
  | moment _ => true

/-- The numerator and denominator of a finite number; a truth value counts as zero or one. -/
def quotient? : Value → Option (Int × Nat)
  | bool b => some (if b then 1 else 0, 1)
  | int n => some (n, 1)
  | float x => (Double.ofFloat? x).map Double.ratio
  | _ => none

mutual

/-- Whether two values are the same key of a table. Numbers are the same by value, a field is the
same as its text, and what is no number is never the same. -/
def sameKey (a b : Value) : Bool :=
  match a, b with
  | null, null => true
  | tuple xs, tuple ys => sameKeys xs ys
  | bytes xs, bytes ys => xs == ys
  | date d, date e => d == e
  | moment t, moment u => t.offset.isSome == u.offset.isSome && t.instant == u.instant
  | a, b =>
    match a.text?, b.text?, a.quotient?, b.quotient? with
    | some s, some t, _, _ => s == t
    | none, none, some (m, d), some (n, e) => m * e == n * d
    | none, none, none, none =>
      match a, b with
      | float x, float y =>
        match FloatClass.ofFloat x, FloatClass.ofFloat y with
        | .infinite p, .infinite q => p == q
        | _, _ => false
      | _, _ => false
    | _, _, _, _ => false

def sameKeys : List Value → List Value → Bool
  | [], [] => true
  | x :: xs, y :: ys => sameKey x y && sameKeys xs ys
  | _, _ => false

end

instance : BEq Value := ⟨sameKey⟩

/-- Whether a value may be the key of a table. -/
def isKey : Value → Bool
  | list _ => false
  | dict _ => false
  | set _ => false
  | tuple items => keysOnly items
  | _ => true
where
  keysOnly : List Value → Bool
    | [] => true
    | x :: xs => isKey x && keysOnly xs

end Value

end SolrRequest
