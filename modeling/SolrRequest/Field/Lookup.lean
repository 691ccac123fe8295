import SolrRequest.Field
import SolrRequest.Text.Quoted

/-!
# Looking up fields

A field is found by its key or by its name; what is not found is reported.
-/

namespace SolrRequest

inductive FieldError
  | unknownKey (key : String)
  | unknownName (name : String)
deriving DecidableEq

def FieldError.message : FieldError → String
  | unknownKey key => Text.quoted key
  | unknownName name => Text.quoted name ++ " is not a valid SolrField"

namespace Field

def withKey (key : String) : Except FieldError Field :=
  match ofKey? key with
  | some f => .ok f
  | none => .error (.unknownKey key)

def withName (name : String) : Except FieldError Field :=
  match ofName? name with
  | some f => .ok f
  | none => .error (.unknownName name)

end Field

end SolrRequest
