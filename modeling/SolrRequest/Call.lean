import SolrRequest.Value.Text

/-!
# Calls

What can be called on a query, with arguments of any kind, and the edit that a call with good
arguments denotes.
-/

namespace SolrRequest

inductive Destination
  | one (name : String)
  | many (names : List String)
deriving DecidableEq

namespace Destination

def names : Destination → List String
  | one name => [name]
  | many names => names

def toValue : Destination → Value
  | one name => .text name
  | many names => .tuple (names.map .text)

end Destination

abbrev FieldMapping := List (String × Destination)

/-- What can be called on a query, with the arguments as they were given. -/
inductive Call
  | switchToPost
  | query (clause : Value)
  | filter (clause : Value)
  | fields (names : Value)
  | sort (names flags : Value)
  | start (offset : Value)
  | limit (count : Value)
  | restrictByRoles
  | addFieldMapping (source destination : Value)
  | addFieldMappingTable (table : Value)

/-- What a call with good arguments does. -/
inductive Edit
  | switchToPost
  | query (clause : String)
  | filter (clause : String)
  | fields (names : List String)
  | sort (order : String)
  | start (offset : Int)
  | limit (count : Int)
  | restrictByRoles
  | map (entries : FieldMapping)
deriving DecidableEq

namespace Value

/-- The texts of a list or tuple that has any, none of them blank. -/
def words? (v : Value) : Option (List String) := do
  (← v.items?).mapM word?

def names? (v : Value) : Option (List String) :=
  match v.text? with
  | some _ => v.word?.map fun s => [s]
  | none => v.words?

def destination? (v : Value) : Option Destination :=
  (v.word?.map .one).or (v.words?.map .many)

/-- The flags that go with names: those of a list or tuple, else a single one. -/
def flags : Value → List Value
  | list items => items
  | tuple items => items
  | v => [v]

/-- The entries of a table with a name or names for every source. -/
def mapping? (v : Value) : Option FieldMapping := do
  (← v.table?).mapM fun (source, target) => target.destination?.map fun d => (source, d)

end Value

namespace SortOrder

/-- A name without a flag is sorted ascending. -/
def direction (flag : Option Value) : String :=
  if (flag.map Value.truthy).getD true then "asc" else "desc"

/-- Names, each with the direction that the flag at its position gives. -/
def terms : List String → List Value → List String
  | [], _ => []
  | name :: names, flags => (name ++ " " ++ direction flags.head?) :: terms names flags.tail

def text (names : List String) (flags : List Value) : String :=
  ", ".intercalate (terms names flags)

end SortOrder

namespace Call

/-- The edit that a call denotes, if its arguments are good. -/
def edit? : Call → Option Edit
  | switchToPost => some .switchToPost
  | query clause => clause.word?.map .query
  | filter clause => clause.word?.map .filter
  | fields names => names.words?.map .fields
  | sort names flags => names.names?.map fun ns => .sort (SortOrder.text ns flags.flags)
  | start offset => offset.integer?.map .start
  | limit count => count.integer?.map .limit
  | restrictByRoles => some .restrictByRoles
  | addFieldMapping source destination => do
    let s ← source.word?
    let d ← destination.destination?
    return .map [(s, d)]
  | addFieldMappingTable table => table.mapping?.map .map

def method : Call → String
  | switchToPost => "switch_to_post"
  | query _ => "query"
  | filter _ => "filter"
  | fields _ => "fields"
  | sort _ _ => "sort"
  | start _ => "start"
  | limit _ => "limit"
  | restrictByRoles => "restrict_by_roles"
  | addFieldMapping _ _ => "add_field_mapping"
  | addFieldMappingTable _ => "add_field_mapping_table"

/-- The argument that is recorded when the call is rejected. -/
def argument : Call → Value
  | switchToPost => .null
  | query clause => clause
  | filter clause => clause
  | fields names => names
  | sort names _ => names
  | start offset => offset
  | limit count => count
  | restrictByRoles => .null
  | addFieldMapping source destination => .tuple [source, destination]
  | addFieldMappingTable table => table

end Call

end SolrRequest
