import SolrRequest.Yaml.Error
import SolrRequest.Yaml.Token.Name

/-!
# Scalars in YAML texts

Quoted scalars, blocks of literal or folded lines, and plain scalars. Each reader starts behind the
character that tells the kind, a plain one at its first character. The fuel of a loop is the length
of the text that is left, and every round takes at least one character.
-/

namespace SolrRequest.Yaml.Cursor

/-! ## Line breaks inside scalars -/

/-- The breaks of empty lines, with blanks around them; `none` where the document ends. -/
def quotedBreaks? : (fuel : Nat) → Cursor → Option (List Char × Cursor)
  | 0, _ => none
  | fuel + 1, c =>
    if c.seesSeparator then none
    else
      let d := c.skip isTabOrBlank
      match d.lineBreak? with
      | some (ch, e) => (quotedBreaks? fuel e).map fun (chs, e) => (ch :: chs, e)
      | none => some ([], d)

/-- What a line break followed by the breaks of empty lines stands for. -/
def folded (first : Char) (more : List Char) : List Char :=
  if first ≠ '\n' then first :: more
  else if more.isEmpty then [' ']
  else more

/-! ## Quoted scalars -/

def escapes : List (Char × Char) := [
  ('0', '\x00'), ('a', '\x07'), ('b', '\x08'), ('t', '\t'), ('\t', '\t'), ('n', '\n'),
  ('v', '\x0b'), ('f', '\x0c'), ('r', '\r'), ('e', '\x1b'), (' ', ' '), ('"', '"'), ('\\', '\\'),
  ('/', '/'), ('N', '\u0085'), ('_', '\u00a0'), ('L', '\u2028'), ('P', '\u2029')]

def codeLength? : Char → Option Nat
  | 'x' => some 2
  | 'u' => some 4
  | 'U' => some 8
  | _ => none

/-- The character with a number; the numbers of surrogates give the replacement character. -/
def charOfCode (code : Nat) : Except YamlError Char :=
  if code < 0x110000 then
    .ok (if 0xD800 ≤ code ∧ code < 0xE000 then '\uFFFD' else Char.ofNat code)
  else .error (.noCharacter code)

/-- The characters that an escape stands for, after its backslash. -/
def escape (c : Cursor) : Except YamlError (List Char × Cursor) :=
  match c.char? with
  | none => .error .malformed
  | some ch =>
    match escapes.lookup ch, codeLength? ch with
    | some r, _ => .ok ([r], c.next)
    | none, some n =>
      match hexNumber? n c.next.rest with
      | none => .error .malformed
      | some code => (charOfCode code).map fun r => ([r], c.advance (n + 1))
    | none, none =>
      match c.lineBreak? with
      | none => .error .malformed
      | some (_, d) =>
        match quotedBreaks? (d.rest.length + 1) d with
        | some r => .ok r
        | none => .error .malformed

def quoteChar (double : Bool) : Char := if double then '"' else '\''

/-- One part of a quoted scalar, `none` at the closing quote. -/
def quotedPart? (double : Bool) (c : Cursor) : Except YamlError (Option (List Char × Cursor)) :=
  match c.char? with
  | none => .error .malformed
  | some ch =>
    if ch == quoteChar double then
      if !double && c.ahead 1 == some ch then .ok (some ([ch], c.advance 2)) else .ok none
    else if double && ch == '\\' then (c.next.escape).map some
    else if isWhite ch then
      let (blanks, d) := c.span isTabOrBlank
      match d.char?, d.lineBreak? with
      | none, _ => .error .malformed
      | some _, none => .ok (some (blanks, d))
      | some _, some (first, e) =>
        match quotedBreaks? (e.rest.length + 1) e with
        | some (more, f) => .ok (some (folded first more, f))
        | none => .error .malformed
    else .ok (some ([ch], c.next))

def quoted (double : Bool) : (fuel : Nat) → Cursor → Except YamlError (List Char × Cursor)
  | 0, _ => .error .malformed
  | fuel + 1, c => do
    match ← c.quotedPart? double with
    | none => return ([], c.next)
    | some (s, d) =>
      let (r, e) ← quoted double fuel d
      return (s ++ r, e)

/-! ## Block scalars -/

/-- What happens to the line breaks at the end of a block. -/
inductive Chomping
  | strip
  | clip
  | keep
deriving DecidableEq

structure BlockHeader where
  chomping : Chomping
  increment : Option Nat

def chomping? : Char → Option Chomping
  | '+' => some .keep
  | '-' => some .strip
  | _ => none

/-- The marks after the sign of a block, in either order. -/
def blockHeader? (c : Cursor) : Option (BlockHeader × Cursor) := do
  let chomp (c : Cursor) : Option Chomping × Cursor :=
    match c.char?.bind chomping? with
    | some m => (some m, c.next)
    | none => (none, c)
  let digit (c : Cursor) : Option Nat × Cursor :=
    match c.char? with
    | some ch => if ch.isDigit then (some (ch.toNat - 48), c.next) else (none, c)
    | none => (none, c)
  let (early, d) := chomp c
  let (increment, d) := digit d
  let (late, d) := if early.isSome || increment.isNone then (none, d) else chomp d
  if increment == some 0 || !endsOr isSpaceOrBreak d.char? then none
  return (⟨(early.or late).getD .clip, increment⟩, ← d.skipRestOfLine?)

/-- The place after blanks, up to a column. -/
def indentTo (column : Nat) : (fuel : Nat) → Cursor → Cursor
  | 0, c => c
  | fuel + 1, c =>
    if c.column < column && c.sees (· == ' ') then indentTo column fuel c.next else c

/-- The breaks of empty lines, and the place after the indentation of the next line. -/
def blockBreaks (column : Nat) : (fuel : Nat) → Cursor → List Char × Cursor
  | 0, c => ([], c)
  | fuel + 1, c =>
    let d := c.indentTo column c.rest.length
    match d.lineBreak? with
    | some (ch, e) =>
      let (chs, f) := blockBreaks column fuel e
      (ch :: chs, f)
    | none => ([], d)

/-- The breaks of empty lines at the start of a block, and the widest indentation up to the first
line that is not empty. -/
def blockStart : (fuel : Nat) → (widest : Nat) → Cursor → List Char × Nat × Cursor
  | 0, widest, c => ([], widest, c)
  | fuel + 1, widest, c =>
    match c.lineBreak? with
    | some (ch, d) =>
      let (chs, w, e) := blockStart fuel widest d
      (ch :: chs, w, e)
    | none =>
      if c.sees (· == ' ') then blockStart fuel (max widest c.next.column) c.next
      else ([], widest, c)

/-- The lines of a block from a place on, after the breaks of empty lines. -/
def blockLines (fold : Bool) (chomping : Chomping) (column : Nat) :
    (fuel : Nat) → (breaks : List Char) → Cursor → List Char × Cursor
  | 0, _, c => ([], c)
  | fuel + 1, breaks, c =>
    let leadingText := !c.sees isTabOrBlank
    let (line, d) := c.span (!isBreak ·)
    let lineBreak := (d.lineBreak?.map Prod.fst).toList
    let (more, e) := d.skipLineBreak.blockBreaks column (d.rest.length + 1)
    if e.column == column && e.char?.isSome then
      let joint :=
        if fold && lineBreak == ['\n'] && leadingText && !e.sees isTabOrBlank then
          (if more.isEmpty then [' '] else [])
        else lineBreak
      let (r, f) := blockLines fold chomping column fuel more e
      (breaks ++ line ++ joint ++ r, f)
    else
      let tail := match chomping with
        | .strip => []
        | .clip => lineBreak
        | .keep => lineBreak ++ more
      (breaks ++ line ++ tail, e)

/-- A block scalar in a block whose indentation is `indent`, after the sign of the scalar. -/
def block? (fold : Bool) (indent : Int) (c : Cursor) : Option (List Char × Cursor) := do
  let (header, d) ← c.blockHeader?
  let least := (max (indent + 1) 1).toNat
  let fuel := d.rest.length + 1
  let (breaks, column, e) := match header.increment with
    | none =>
      let (breaks, widest, e) := d.blockStart fuel 0
      (breaks, max least widest, e)
    | some n =>
      let (breaks, e) := d.blockBreaks (least + n - 1) fuel
      (breaks, least + n - 1, e)
  if e.column == column && e.char?.isSome then
    return blockLines fold header.chomping column fuel breaks e
  else return (if header.chomping = .keep then breaks else [], e)

/-! ## Plain scalars -/

def isFlowMark (c : Char) : Bool := ",[]\x7b\x7d".toList.contains c

/-- The characters of a plain scalar up to a blank, a break or a sign that ends it. -/
def plainRun (flow : Bool) : List Char → List Char
  | [] => []
  | ch :: r =>
    let closes (ch : Char) : Bool := isWhite ch || (flow && isFlowMark ch)
    if isWhite ch || (ch == ':' && endsOr closes r.head?) ||
        (flow && (isFlowMark ch || ch == '?')) then []
    else ch :: plainRun flow r

/-- The breaks of empty lines in a plain scalar; `none` where the document ends. -/
def plainBreaks? : (fuel : Nat) → Cursor → Option (List Char × Cursor)
  | 0, c => some ([], c)
  | fuel + 1, c =>
    if c.sees (· == ' ') then plainBreaks? fuel c.next
    else match c.lineBreak? with
      | none => some ([], c)
      | some (ch, d) =>
        if d.seesSeparator then none
        else (plainBreaks? fuel d).map fun (chs, e) => (ch :: chs, e)

structure PlainGap where
  text : List Char
  crossesLines : Bool
  cursor : Cursor

def plainGap (c : Cursor) : PlainGap :=
  let (blanks, d) := c.span (· == ' ')
  match d.lineBreak? with
  | none => ⟨blanks, false, d⟩
  | some (first, e) =>
    if e.seesSeparator then ⟨[], true, e⟩
    else match plainBreaks? (e.rest.length + 1) e with
      | none => ⟨[], true, e.skip isSpaceOrBreak⟩
      | some (more, f) => ⟨folded first more, true, f⟩

/-- A plain scalar: its text, the place after it, and whether a line break was passed last. -/
def plain (flow : Bool) (indent : Int) :
    (fuel : Nat) → (gap : List Char) → (crossed : Bool) → Cursor → List Char × Bool × Cursor
  | 0, _, crossed, c => ([], crossed, c)
  | fuel + 1, gap, crossed, c =>
    let run := if c.sees (· == '#') then [] else plainRun flow c.rest
    if run.isEmpty then ([], crossed, c)
    else
      let g := (c.advance run.length).plainGap
      if g.text.isEmpty || g.cursor.sees (· == '#') ||
          (!flow && (g.cursor.column : Int) < indent + 1) then
        (gap ++ run, g.crossesLines, g.cursor)
      else
        let (r, crossed, d) := plain flow indent fuel g.text g.crossesLines g.cursor
        (gap ++ run ++ r, crossed, d)

end SolrRequest.Yaml.Cursor
