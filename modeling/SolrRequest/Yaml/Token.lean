/-!
# Tokens of YAML

What a text is cut into. Indentation has become tokens that open and close blocks.
-/

namespace SolrRequest.Yaml

inductive Token
  | version (major : Nat)
  | tagShorthand (handle expansion : String)
  | otherDirective
  | documentStart
  | documentEnd
  | blockSequence
  | blockMapping
  | blockEnd
  | flowSequence
  | flowSequenceEnd
  | flowMapping
  | flowMappingEnd
  /-- The dash before an entry of a block. -/
  | dash
  /-- The comma between entries of a flow collection. -/
  | comma
  | key
  | value
  | alias (name : String)
  | anchor (name : String)
  /-- A tag; without a handle it stands in full. -/
  | tag (handle : Option String) (text : String)
  | scalar (plain : Bool) (text : String)
deriving DecidableEq

end SolrRequest.Yaml
