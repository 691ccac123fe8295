import SolrRequest.Yaml.Error
import SolrRequest.Yaml.Token

/-!
# Nodes of a YAML document

The tree of a document: scalars, sequences and mappings, each with its tag. Aliases are replaced by
the nodes that they name. An alias may stand inside the node that it names; such a node has no end,
and is written out to a depth that the reader chooses.
-/

namespace SolrRequest.Yaml

inductive Tag
  | null
  | bool
  | int
  | float
  | binary
  | timestamp
  | omap
  | pairs
  | set
  | str
  | seq
  | map
  /-- The key whose value is merged into the mapping. -/
  | merge
  /-- The key whose value stands for the whole mapping. -/
  | default
  | other (uri : String)
deriving DecidableEq

namespace Tag

def standardRoot : String := "tag:yaml.org,2002:"

def standard : List (String × Tag) := [
  ("null", null), ("bool", bool), ("int", int), ("float", float), ("binary", binary),
  ("timestamp", timestamp), ("omap", omap), ("pairs", pairs), ("set", set), ("str", str),
  ("seq", seq), ("map", map), ("merge", merge), ("value", default)]

def ofUri (uri : String) : Tag :=
  match standard.find? fun t => standardRoot ++ t.1 == uri with
  | some (_, t) => t
  | none => other uri

end Tag

inductive Node
  | scalar (tag : Tag) (text : String)
  | sequence (tag : Tag) (items : List Node)
  | mapping (tag : Tag) (entries : List (Node × Node))
  /-- An alias inside the node that it names. -/
  | again (name : String)

namespace Node

def hollow : Node → Node
  | scalar tag text => scalar tag text
  | sequence tag _ => sequence tag []
  | mapping tag _ => mapping tag []
  | again name => again name

mutual

/-- Puts a node in the place of the aliases with a name. -/
def fill (name : String) (node : Node) : Node → Node
  | scalar tag text => scalar tag text
  | sequence tag items => sequence tag (fillItems name node items)
  | mapping tag entries => mapping tag (fillEntries name node entries)
  | again other => if other == name then node else again other

def fillItems (name : String) (node : Node) : List Node → List Node
  | [] => []
  | n :: r => fill name node n :: fillItems name node r

def fillEntries (name : String) (node : Node) : List (Node × Node) → List (Node × Node)
  | [] => []
  | (k, v) :: r => (fill name node k, fill name node v) :: fillEntries name node r

end

mutual

def mentions (name : String) : Node → Bool
  | scalar _ _ => false
  | sequence _ items => itemsMention name items
  | mapping _ entries => entriesMention name entries
  | again other => other == name

def itemsMention (name : String) : List Node → Bool
  | [] => false
  | n :: r => mentions name n || itemsMention name r

def entriesMention (name : String) : List (Node × Node) → Bool
  | [] => false
  | (k, v) :: r => mentions name k || mentions name v || entriesMention name r

end

/-- Writes out the aliases of a node inside itself. -/
def unroll (name : String) (depth : Nat) (node : Node) : Node :=
  if mentions name node then Nat.repeat (fill name · node) depth node.hollow else node

end Node

end SolrRequest.Yaml
