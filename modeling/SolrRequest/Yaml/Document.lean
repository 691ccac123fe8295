import SolrRequest.Value.Text
import SolrRequest.Yaml.Node.Read
import SolrRequest.Yaml.Token.Scan

/-!
# Values of YAML documents

A document's node becomes a value level by level: the contents of a collection are made after the
collections of its own level have been begun. Of several faults the one of the outermost level
counts, and on one level the first.
-/

namespace SolrRequest.Yaml

structure LevelFault where
  level : Nat
  cause : YamlError

abbrev Built (α : Type) := Except LevelFault α

namespace Built

def fault {α : Type} (level : Nat) (cause : YamlError) : Built α := .error ⟨level, cause⟩

/-- Two results, or the fault that is met first. -/
def both {α β : Type} (x : Built α) (y : Built β) : Built (α × β) :=
  match x, y with
  | .ok a, .ok b => .ok (a, b)
  | .error e, .ok _ => .error e
  | .ok _, .error f => .error f
  | .error e, .error f => .error (if f.level < e.level then f else e)

def all {α : Type} : List (Built α) → Built (List α)
  | [] => .ok []
  | x :: xs => (both x (all xs)).map fun (a, as) => a :: as

end Built

namespace Node

mutual

/-- The text of a scalar, or of the value that stands for a mapping. -/
def text? : Node → Option String
  | scalar _ text => some text
  | mapping _ entries => defaultText? entries
  | _ => none

def defaultText? : List (Node × Node) → Option String
  | [] => none
  | (scalar .default _, v) :: _ => text? v
  | _ :: r => defaultText? r

end

def hasTag (tag : Tag) : Node → Bool
  | scalar t _ => t == tag
  | sequence t _ => t == tag
  | mapping t _ => t == tag
  | again _ => false

/-- The key that stands for a mapping is an ordinary text among other keys. -/
def plainKey : Node → Node
  | scalar .default text => scalar .str text
  | n => n

mutual

/-- The entries of a mapping with those that are merged into it in front; `none` where something
else than mappings is to be merged. -/
def merged? : List (Node × Node) → Option (List (Node × Node) × List (Node × Node))
  | [] => some ([], [])
  | (k, v) :: r => do
    let (merges, own) ← merged? r
    if k.hasTag .merge then return ((← sources? v) ++ merges, own)
    else return (merges, (k.plainKey, v) :: own)

def sources? : Node → Option (List (Node × Node))
  | mapping _ entries => (merged? entries).map fun (merges, own) => merges ++ own
  | sequence _ items => sourcesOf? items
  | _ => none

/-- The entries of several mappings, those of the last one first. -/
def sourcesOf? : List Node → Option (List (Node × Node))
  | [] => some []
  | mapping _ entries :: r => do
    let (merges, own) ← merged? entries
    return (← sourcesOf? r) ++ (merges ++ own)
  | _ :: _ => none

end

def entries? : Node → Option (List (Node × Node))
  | mapping _ entries => (merged? entries).map fun (merges, own) => merges ++ own
  | _ => none

def items? : Node → Option (List Node)
  | sequence _ items => some items
  | _ => none

def tag : Node → Tag
  | scalar t _ => t
  | sequence t _ => t
  | mapping t _ => t
  | again _ => .null

/-- Pairs of a list whose items are mappings with one entry each. -/
def pairs? (n : Node) : Option (List (Node × Node)) := do
  (← n.items?).mapM fun item => match item with
    | mapping _ [e] => some e
    | _ => none

/-- The value of a key, which must be fit to be one. -/
def asKey (level : Nat) (v : Built Value) : Built Value :=
  match v with
  | .ok k => if k.isKey then .ok k else Built.fault level .malformed
  | .error e => Built.fault level (if e.level = level then e.cause else .malformed)

/-- The value of a node on a level; the fuel bounds the levels. -/
def build : (fuel : Nat) → (level : Nat) → Node → Built Value
  | 0, level, _ => Built.fault level .malformed
  | fuel + 1, level, n =>
    let inner := build fuel (level + 1)
    let wrong {α : Type} : Built α := Built.fault (level + 1) .malformed
    let entry (e : Node × Node) : Built (Value × Value) :=
      Built.both (asKey (level + 1) (inner e.1)) (inner e.2)
    match n.tag with
    | .seq => match n.items? with
      | some items => (Built.all (items.map inner)).map .list
      | none => wrong
    | .map => match n.entries? with
      | some entries => (Built.all (entries.map entry)).map fun es => .dict (Entries.ofList es)
      | none => wrong
    | .set => match n.entries? with
      | some entries => (Built.all (entries.map entry)).map fun es =>
          .set ((Entries.ofList es).map Prod.fst)
      | none => wrong
    | .omap => listOfPairs inner wrong n
    | .pairs => listOfPairs inner wrong n
    | tag =>
      match n.text? with
      | none => Built.fault level .malformed
      | some text => match Scalar.ofText? tag text with
        | some (.ok v) => .ok v
        | some (.error e) => Built.fault level e
        | none => Built.fault level .malformed
where
  listOfPairs (inner : Node → Built Value) (wrong : Built Value) (n : Node) : Built Value :=
    match n.pairs? with
    | some entries =>
      (Built.all (entries.map fun e => Built.both (inner e.1) (inner e.2))).map fun es =>
        .list (es.map fun (k, v) => .tuple [k, v])
    | none => wrong

mutual

def height : Node → Nat
  | sequence _ items => itemsHeight items + 1
  | mapping _ entries => entriesHeight entries + 1
  | _ => 1

def itemsHeight : List Node → Nat
  | [] => 0
  | n :: r => max (height n) (itemsHeight r)

def entriesHeight : List (Node × Node) → Nat
  | [] => 0
  | (k, v) :: r => max (max (height k) (height v)) (entriesHeight r)

end

end Node

/-- The value of a text; one without a document has the value null. -/
def read (depth : Nat) (text : String) : Except YamlError Value := do
  let tokens ← Token.ofText text.toList
  match Node.ofTokens? depth tokens with
  | none => throw .malformed
  | some none => return .null
  | some (some n) => (n.build (n.height + 1) 0).mapError LevelFault.cause

end SolrRequest.Yaml
