import SolrRequest.Yaml.Scalar

/-!
# From tokens to nodes

The grammar of blocks and flow collections over tokens. The fuel bounds how deep the rules nest;
each round of rules takes a token, so that four times the number of tokens is enough.
-/

namespace SolrRequest.Yaml

structure Reader where
  /-- How often a node is written out inside itself. -/
  depth : Nat
  tokens : List Token
  /-- The anchors so far; the node of an anchor is missing while it is being read. -/
  anchors : List (String × Option Node)
  /-- The tag handles with what they stand for. -/
  handles : List (String × String)

namespace Reader

abbrev Rule := StateT Reader Option

def standardHandles : List (String × String) := [("!", "!"), ("!!", Tag.standardRoot)]

def peek : Rule (Option Token) := return (← get).tokens.head?

def skip : Rule Unit := modify fun r => { r with tokens := r.tokens.tail }

def sees (ts : List Token) : Rule Bool := return ((← peek).map ts.contains).getD false

def takes (t : Token) : Rule Bool := do
  if ← sees [t] then
    skip
    return true
  else return false

def expect (t : Token) : Rule Unit := do
  if ← takes t then return () else failure

def empty : Node := .scalar .null ""

/-! ## Anchors and tags -/

structure Properties where
  anchor : Option String
  /-- The tag in full. -/
  tag : Option String

def takeAnchor : Rule (Option String) := do
  match ← peek with
  | some (.anchor name) => do skip; return some name
  | _ => return none

def takeTag : Rule (Option String) := do
  match ← peek with
  | some (.tag none text) => do skip; return some text
  | some (.tag (some handle) text) => do
    skip
    match (← get).handles.lookup handle with
    | some expansion => return some (expansion ++ text)
    | none => failure
  | _ => return none

def properties : Rule Properties := do
  match ← takeAnchor with
  | some name => return ⟨some name, ← takeTag⟩
  | none =>
    let tag ← takeTag
    let anchor ← if tag.isSome then takeAnchor else pure none
    return ⟨anchor, tag⟩

/-- The tag of a collection; a lone exclamation mark is none. -/
def collectionTag (p : Properties) (absent : Tag) : Tag :=
  match p.tag with
  | none => absent
  | some "!" => absent
  | some uri => .ofUri uri

def scalarTag (p : Properties) (plain : Bool) (text : String) : Tag :=
  match p.tag with
  | none => if plain then .ofPlain text else .str
  | some "!" => .ofPlain text
  | some uri => .ofUri uri

/-- An anchor must be new. -/
def openAnchor (name : String) : Rule Unit := do
  if ((← get).anchors.lookup name).isSome then failure
  else modify fun r => { r with anchors := (name, none) :: r.anchors }

def closeAnchor (name : String) (node : Node) : Rule Node := do
  let node := node.unroll name (← get).depth
  modify fun r => { r with anchors := (name, some node) :: r.anchors }
  return node

/-- The node that an alias names, or a mark where that node is being read. -/
def aliased (name : String) : Rule Node := do
  match (← get).anchors.lookup name with
  | none => failure
  | some none => return .again name
  | some (some node) => return node

/-! ## Nodes -/

def blockClosers : List Token := [.key, .value, .blockEnd]

mutual

/-- A node; in a block, block collections are admitted, and as the part of an entry also a sequence
that is not indented. -/
def node : (fuel : Nat) → (block entry : Bool) → Rule Node
  | 0, _, _ => failure
  | fuel + 1, block, entry => do
    match ← peek with
    | some (.alias name) => do skip; aliased name
    | _ => do
      let p ← properties
      match p.anchor with
      | none => content fuel block entry p
      | some name => do
        openAnchor name
        closeAnchor name (← content fuel block entry p)

def content : (fuel : Nat) → (block entry : Bool) → Properties → Rule Node
  | 0, _, _, _ => failure
  | fuel + 1, block, entry, p => do
    match ← peek with
    | some .dash =>
      if entry then return .sequence (collectionTag p .seq) (← looseItems fuel)
      else bare p
    | some (.scalar plain text) => do
      skip
      return .scalar (scalarTag p plain text) text
    | some .flowSequence => do
      skip
      return .sequence (collectionTag p .seq) (← flowItems fuel true)
    | some .flowMapping => do
      skip
      return .mapping (collectionTag p .map) (← flowEntries fuel true)
    | some .blockSequence =>
      if block then do
        skip
        return .sequence (collectionTag p .seq) (← blockItems fuel)
      else bare p
    | some .blockMapping =>
      if block then do
        skip
        return .mapping (collectionTag p .map) (← blockEntries fuel)
      else bare p
    | _ => bare p
where
  /-- An empty scalar, which needs an anchor or a tag. -/
  bare (p : Properties) : Rule Node :=
    if p.anchor.isSome || p.tag.isSome then return .scalar (scalarTag p true "") ""
    else failure

/-- A node, or an empty one before certain tokens. -/
def nodeUnless : (fuel : Nat) → (closers : List Token) → (block entry : Bool) → Rule Node
  | 0, _, _, _ => failure
  | fuel + 1, closers, block, entry => do
    if ← sees closers then return empty else node fuel block entry

def blockItems : (fuel : Nat) → Rule (List Node)
  | 0 => failure
  | fuel + 1 => do
    if ← takes .dash then
      let n ← nodeUnless fuel [.dash, .blockEnd] true false
      return n :: (← blockItems fuel)
    else
      expect .blockEnd
      return []

/-- The items of a sequence that is not indented; the entry after it ends it. -/
def looseItems : (fuel : Nat) → Rule (List Node)
  | 0 => failure
  | fuel + 1 => do
    if ← takes .dash then
      let n ← nodeUnless fuel (.dash :: blockClosers) true false
      return n :: (← looseItems fuel)
    else return []

def blockEntries : (fuel : Nat) → Rule (List (Node × Node))
  | 0 => failure
  | fuel + 1 => do
    if ← takes .key then
      let k ← nodeUnless fuel blockClosers true true
      let v ← valueAfter fuel blockClosers true
      return (k, v) :: (← blockEntries fuel)
    else
      expect .blockEnd
      return []

/-- The value of an entry, after its key; it may be missing. -/
def valueAfter : (fuel : Nat) → (closers : List Token) → (block : Bool) → Rule Node
  | 0, _, _ => failure
  | fuel + 1, closers, block => do
    if ← takes .value then nodeUnless fuel closers block block else return empty

/-- The items up to the end of a flow sequence. An entry with a key is a mapping of its own. -/
def flowItems : (fuel : Nat) → (first : Bool) → Rule (List Node)
  | 0, _ => failure
  | fuel + 1, first => do
    if ← takes .flowSequenceEnd then return []
    if !first then expect .comma
    if ← takes .flowSequenceEnd then return []
    let n ← if ← takes .key then do
        let k ← nodeUnless fuel [.value, .comma, .flowSequenceEnd] false false
        let v ← valueAfter fuel [.comma, .flowSequenceEnd] false
        pure (Node.mapping .map [(k, v)])
      else node fuel false false
    return n :: (← flowItems fuel false)

/-- The entries up to the end of a flow mapping. A node alone is a key. -/
def flowEntries : (fuel : Nat) → (first : Bool) → Rule (List (Node × Node))
  | 0, _ => failure
  | fuel + 1, first => do
    if ← takes .flowMappingEnd then return []
    if !first then expect .comma
    if ← takes .flowMappingEnd then return []
    let e ← if ← takes .key then do
        let k ← nodeUnless fuel [.value, .comma, .flowMappingEnd] false false
        let v ← valueAfter fuel [.comma, .flowMappingEnd] false
        pure (k, v)
      else do
        let k ← node fuel false false
        pure (k, empty)
    return e :: (← flowEntries fuel false)

end

/-! ## Documents -/

/-- The directives before a document. The version must be one of the first, and each handle is
explained once. -/
def directives : (fuel : Nat) → (versioned : Bool) → Rule Unit
  | 0, _ => failure
  | fuel + 1, versioned => do
    match ← peek with
    | some (.version major) => do
      skip
      if versioned || major != 1 then failure
      directives fuel true
    | some (.tagShorthand handle expansion) => do
      skip
      if ((← get).handles.lookup handle).isSome then failure
      modify fun r => { r with handles := (handle, expansion) :: r.handles }
      directives fuel versioned
    | some .otherDirective => do
      skip
      directives fuel versioned
    | _ => return ()

def isDirective : Token → Bool
  | .version _ => true
  | .tagShorthand _ _ => true
  | .otherDirective => true
  | _ => false

def document (fuel : Nat) : Rule Node := do
  let explicit := match ← peek with
    | some t => t == .documentStart || isDirective t
    | none => false
  if explicit then
    directives fuel false
    expect .documentStart
  modify fun r => { r with handles := r.handles ++ standardHandles }
  let vacant := match ← peek with
    | none => true
    | some t => t == .documentStart || t == .documentEnd || isDirective t
  if explicit && vacant then return empty else node fuel true false

/-- Marks that end a document may follow it. -/
def finish : (fuel : Nat) → Rule Unit
  | 0 => failure
  | fuel + 1 => do
    match ← peek with
    | none => return ()
    | some .documentEnd => do
      skip
      finish fuel
    | some _ => failure

end Reader

/-- The node of the only document that tokens consist of; a text without tokens has none. -/
def Node.ofTokens? (depth : Nat) (tokens : List Token) : Option (Option Node) :=
  if tokens.isEmpty then some none
  else
    let fuel := 4 * tokens.length + 8
    let rule : Reader.Rule Node := do
      let n ← Reader.document fuel
      Reader.finish fuel
      return n
    (rule.run ⟨depth, tokens, [], []⟩).map fun r => some r.1

end SolrRequest.Yaml
