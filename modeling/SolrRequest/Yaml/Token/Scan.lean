import SolrRequest.Yaml.Token.Scalar

/-!
# Cutting a text into tokens

The text is read from left to right. What may turn out to be the key of an entry is remembered until
a colon shows that it is one, and the tokens that make it a key are then put in front of it. In a
block, the column of a token opens and closes the blocks around it.
-/

namespace SolrRequest.Yaml

/-- A token that may be a key: how many tokens stand before it, and its place. -/
structure KeyCandidate where
  position : Nat
  required : Bool
  index : Nat
  line : Nat
  column : Nat

structure Scanner where
  cursor : Cursor
  /-- The tokens so far, the last one first. -/
  tokens : List Token
  count : Nat
  /-- The number of flow collections around the place. -/
  flow : Nat
  /-- The column of the innermost block, and those of the blocks around it. -/
  indent : Int
  outer : List Int
  keyAllowed : Bool
  /-- The candidates by the number of flow collections around them. -/
  candidates : List (Nat × KeyCandidate)

namespace Scanner

abbrev Step := Except YamlError Scanner

def start (s : List Char) : Scanner :=
  { cursor := .start s, tokens := [], count := 0, flow := 0, indent := -1, outer := []
    keyAllowed := true, candidates := [] }

def inFlow (s : Scanner) : Bool := s.flow != 0

def push (s : Scanner) (t : Token) : Scanner :=
  { s with tokens := t :: s.tokens, count := s.count + 1 }

def insertAt (s : Scanner) (position : Nat) (ts : List Token) : Scanner :=
  let later := s.count - position
  { s with
    tokens := s.tokens.take later ++ ts.reverse ++ s.tokens.drop later
    count := s.count + ts.length }

def moveTo (s : Scanner) (c : Cursor) : Scanner := { s with cursor := c }

def advance (s : Scanner) (n : Nat) : Scanner := s.moveTo (s.cursor.advance n)

def allowKey (s : Scanner) (allowed : Bool) : Scanner := { s with keyAllowed := allowed }

/-! ## Blocks -/

def closeBlocks (column : Int) : (fuel : Nat) → Scanner → Scanner
  | 0, s => s
  | fuel + 1, s =>
    if column < s.indent then
      closeBlocks column fuel
        { s.push .blockEnd with indent := s.outer.head?.getD (-1), outer := s.outer.tail }
    else s

def unwind (s : Scanner) (column : Int) : Scanner :=
  if s.inFlow then s else closeBlocks column s.outer.length s

def openBlock? (s : Scanner) (column : Nat) : Option Scanner :=
  if s.indent < column then some { s with indent := column, outer := s.indent :: s.outer }
  else none

/-! ## Candidates for keys -/

def candidate? (s : Scanner) : Option KeyCandidate := s.candidates.lookup s.flow

def withoutCandidate (s : Scanner) : Scanner :=
  { s with candidates := s.candidates.filter (·.1 != s.flow) }

/-- Forgets the candidate at this level, unless it had to be a key. -/
def dropCandidate (s : Scanner) : Step :=
  match s.candidate? with
  | some k => if k.required then .error .malformed else .ok s.withoutCandidate
  | none => .ok s

/-- Remembers the next token as a candidate, where a key may stand. -/
def saveCandidate (s : Scanner) : Step :=
  if s.keyAllowed then do
    let s ← s.dropCandidate
    let c := s.cursor
    let required := !s.inFlow && s.indent == c.column
    return { s with
      candidates := (s.flow, ⟨s.count, required, c.index, c.line, c.column⟩) :: s.candidates }
  else .ok s

/-- A key stands on one line and has at most 1024 characters. -/
def isStale (c : Cursor) (k : KeyCandidate) : Bool :=
  k.line != c.line || k.index + 1024 < c.index

def dropStale (s : Scanner) : Step :=
  if s.candidates.any fun k => isStale s.cursor k.2 && k.2.required then .error .malformed
  else .ok { s with candidates := s.candidates.filter fun k => !isStale s.cursor k.2 }

/-! ## Tokens -/

/-- A token that closes all blocks and belongs to no entry. -/
def documentToken (s : Scanner) : Step := do
  let s ← (s.unwind (-1)).dropCandidate
  return s.allowKey false

def directive (s : Scanner) : Step := do
  let s ← s.documentToken
  match s.cursor.next.directive? with
  | some (t, c) => return (s.push t).moveTo c
  | none => throw .malformed

def marker (s : Scanner) (t : Token) : Step := do
  let s ← s.documentToken
  return (s.push t).advance 3

def openFlow (s : Scanner) (t : Token) : Step := do
  let s ← s.saveCandidate
  return { (s.push t).advance 1 with flow := s.flow + 1, keyAllowed := true }

def closeFlow (s : Scanner) (t : Token) : Step := do
  let s ← s.dropCandidate
  if s.inFlow then return { (s.push t).advance 1 with flow := s.flow - 1, keyAllowed := false }
  else throw .malformed

def comma (s : Scanner) : Step := do
  let s ← (s.allowKey true).dropCandidate
  return (s.push .comma).advance 1

/-- Opens a block at the present column, if it is further in. A block starts where a key may
stand. -/
def enterBlock (s : Scanner) (opening : Token) : Step :=
  if s.inFlow then .ok s
  else if !s.keyAllowed then .error .malformed
  else match s.openBlock? s.cursor.column with
    | some t => .ok (t.push opening)
    | none => .ok s

def dash (s : Scanner) : Step := do
  let s ← s.enterBlock .blockSequence
  let s ← (s.allowKey true).dropCandidate
  return (s.push .dash).advance 1

def explicitKey (s : Scanner) : Step := do
  let s ← s.enterBlock .blockMapping
  let s ← (s.allowKey (!s.inFlow)).dropCandidate
  return (s.push .key).advance 1

/-- A colon makes the candidate a key; without one it belongs to an explicit key. -/
def value (s : Scanner) : Step :=
  match s.candidate? with
  | some k =>
    let s := s.withoutCandidate
    let s := match (if s.inFlow then none else s.openBlock? k.column) with
      | some t => t.insertAt k.position [.blockMapping, .key]
      | none => s.insertAt k.position [.key]
    .ok (((s.allowKey false).push .value).advance 1)
  | none => do
    let s ← s.enterBlock .blockMapping
    let s ← (s.allowKey (!s.inFlow)).dropCandidate
    return (s.push .value).advance 1

def nodeToken (s : Scanner) (read : Cursor → Option (Token × Cursor)) : Step := do
  let s ← s.saveCandidate
  match read s.cursor with
  | some (t, c) => return ((s.allowKey false).push t).moveTo c
  | none => throw .malformed

def blockScalar (s : Scanner) (fold : Bool) : Step := do
  let s ← (s.allowKey true).dropCandidate
  match s.cursor.next.block? fold s.indent with
  | some (text, c) => return (s.push (.scalar false (String.ofList text))).moveTo c
  | none => throw .malformed

def quotedScalar (s : Scanner) (double : Bool) : Step := do
  let s ← s.saveCandidate
  let c := s.cursor.next
  let (text, c) ← Cursor.quoted double (c.rest.length + 1) c
  return ((s.allowKey false).push (.scalar false (String.ofList text))).moveTo c

def plainScalar (s : Scanner) : Step := do
  let s ← s.saveCandidate
  let (text, crossed, c) :=
    Cursor.plain s.inFlow s.indent (s.cursor.rest.length + 1) [] false s.cursor
  return ((s.allowKey crossed).push (.scalar true (String.ofList text))).moveTo c

/-- The characters that have a meaning of their own at the start of a token. -/
def isIndicator (c : Char) : Bool :=
  "-?:,[]\x7b\x7d#&*!|>'\"%@`".toList.contains c

def startsPlain (flow : Bool) (c : Cursor) : Bool :=
  c.sees fun ch =>
    !(isWhite ch || isIndicator ch) ||
      (!endsOr isWhite (c.ahead 1) && (ch == '-' || (!flow && (ch == '?' || ch == ':'))))

/-- Blanks, comments and line breaks before a token; a line break in a block allows a key. -/
def skipToToken : (fuel : Nat) → Scanner → Scanner
  | 0, s => s
  | fuel + 1, s =>
    let c := (s.cursor.skip (· == ' ')).skipComment
    match c.lineBreak? with
    | some (_, d) =>
      skipToToken fuel { s with cursor := d, keyAllowed := s.keyAllowed || !s.inFlow }
    | none => s.moveTo c

def token (s : Scanner) (ch : Char) : Step :=
  let c := s.cursor
  let separated := s.inFlow || endsOr isWhite (c.ahead 1)
  if ch == '%' && c.column == 0 then s.directive
  else if c.column == 0 && c.seesMarker ['-', '-', '-'] then s.marker .documentStart
  else if c.column == 0 && c.seesMarker ['.', '.', '.'] then s.marker .documentEnd
  else if ch == '[' then s.openFlow .flowSequence
  else if ch == '\x7b' then s.openFlow .flowMapping
  else if ch == ']' then s.closeFlow .flowSequenceEnd
  else if ch == '\x7d' then s.closeFlow .flowMappingEnd
  else if ch == ',' then s.comma
  else if ch == '-' && endsOr isWhite (c.ahead 1) then s.dash
  else if ch == '?' && separated then s.explicitKey
  else if ch == ':' && separated then s.value
  else if ch == '*' then s.nodeToken fun c => c.next.anchorName?.map fun (n, d) => (.alias n, d)
  else if ch == '&' then s.nodeToken fun c => c.next.anchorName?.map fun (n, d) => (.anchor n, d)
  else if ch == '!' then s.nodeToken Cursor.tag?
  else if ch == '|' && !s.inFlow then s.blockScalar false
  else if ch == '>' && !s.inFlow then s.blockScalar true
  else if ch == '\'' then s.quotedScalar false
  else if ch == '"' then s.quotedScalar true
  else if startsPlain s.inFlow c then s.plainScalar
  else .error .malformed

/-- The tokens up to the end of the text; every round takes at least one character. -/
def run : (fuel : Nat) → Scanner → Except YamlError (List Token)
  | 0, _ => .error .malformed
  | fuel + 1, s => do
    let s ← (s.skipToToken (s.cursor.rest.length + 1)).dropStale
    let s := s.unwind s.cursor.column
    match s.cursor.char? with
    | none => do
      let s ← s.documentToken
      return s.tokens.reverse
    | some ch => do run fuel (← s.token ch)

end Scanner

def isAllowed (c : Char) : Bool :=
  let n := c.toNat
  n == 9 || n == 10 || n == 13 || (0x20 ≤ n && n ≤ 0x7E) || n == 0x85 ||
    (0xA0 ≤ n && n ≤ 0xFFFD) || 0x10000 ≤ n

def Token.ofText (s : List Char) : Except YamlError (List Token) :=
  if s.all isAllowed then
    let body := if s.head? == some byteOrderMark then s.tail else s
    (Scanner.start body).run (body.length + 2)
  else .error .malformed

end SolrRequest.Yaml
