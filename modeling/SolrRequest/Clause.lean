import SolrRequest.Value.Text

/-!
# Boolean clauses

Texts of the query language, composed from operands of any kind. An operand that is of no use makes
the whole clause empty, so that compositions nest without a check at each level.
-/

namespace SolrRequest

inductive Junction
  | and
  | or
deriving DecidableEq, Repr

def Junction.word : Junction → String
  | .and => "AND"
  | .or => "OR"

inductive Mark
  | not
  | prohibit
  | require
deriving DecidableEq, Repr

def Mark.word : Mark → String
  | .not => "!"
  | .prohibit => "-"
  | .require => "+"

namespace Clause

def wrap (wrapped : Bool) (clause : String) : String :=
  if wrapped then "(" ++ clause ++ ")" else clause

def spaced (parts : List String) : String :=
  " ".intercalate parts

/-- The terms of which one is to stand in a field. -/
def group (field : Value) (items : List Value) (wrapped : Bool) : String :=
  wrap wrapped (field.toText ++ ":" ++ wrap true (spaced (items.map Value.toText)))

/-- Two terms under a junction, or a field with a list of terms. Empty where neither term is a
text that is not blank. -/
def join (j : Junction) (left right : Value) (wrapped : Bool) : String :=
  match right.items? with
  | some items => group left items wrapped
  | none =>
    if left.isWord || right.isWord then
      wrap wrapped (spaced [left.toText, j.word, right.toText])
    else ""

def mark (m : Mark) (clause : Value) (wrapped : Bool) : String :=
  match clause.word? with
  | some s => wrap wrapped (spaced [m.word, s])
  | none => ""

/-- A text in double quotes, to be matched as a whole. -/
def phrase (value : Value) : String :=
  match value.word? with
  | some s => "\"" ++ s ++ "\""
  | none => ""

end Clause

end SolrRequest
