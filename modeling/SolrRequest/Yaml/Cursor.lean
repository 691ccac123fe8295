/-!
# A place in a text

The rest of a text from a place on, with the line and the column of that place.
-/

namespace SolrRequest.Yaml

/-- The mark that may open a text; it takes no column. -/
def byteOrderMark : Char := '\uFEFF'

def isBreak (c : Char) : Bool :=
  c == '\n' || c == '\r' || c == '\u0085' || c == '\u2028' || c == '\u2029'

def isSpaceOrBreak (c : Char) : Bool := c == ' ' || isBreak c

def isTabOrBlank (c : Char) : Bool := c == '\t' || c == ' '

def isWhite (c : Char) : Bool := c == '\t' || isSpaceOrBreak c

/-- Whether what stands at a place is of a kind, or the text ends there. -/
def endsOr (kind : Char → Bool) : Option Char → Bool
  | none => true
  | some c => kind c

structure Cursor where
  rest : List Char
  index : Nat
  line : Nat
  column : Nat

namespace Cursor

def start (s : List Char) : Cursor := ⟨s, 0, 0, 0⟩

/-- The character a number of places ahead; `none` behind the end. -/
def ahead (c : Cursor) (n : Nat) : Option Char := c.rest[n]?

def char? (c : Cursor) : Option Char := c.rest.head?

def starts (c : Cursor) (letters : List Char) : Bool := letters.isPrefixOf c.rest

def sees (c : Cursor) (kind : Char → Bool) : Bool :=
  match c.char? with
  | none => false
  | some ch => kind ch

def next (c : Cursor) : Cursor :=
  match c.rest with
  | [] => c
  | ch :: r =>
    if isBreak ch && !(ch == '\r' && r.head? == some '\n') then ⟨r, c.index + 1, c.line + 1, 0⟩
    else ⟨r, c.index + 1, c.line, if ch == byteOrderMark then c.column else c.column + 1⟩

def advance (c : Cursor) : Nat → Cursor
  | 0 => c
  | n + 1 => c.next.advance n

/-- The characters of a kind that come next, and the place after them. -/
def span (c : Cursor) (kind : Char → Bool) : List Char × Cursor :=
  let taken := c.rest.takeWhile kind
  (taken, c.advance taken.length)

def skip (c : Cursor) (kind : Char → Bool) : Cursor := (c.span kind).2

/-- A line break, as the character that it counts as, and the place after it. -/
def lineBreak? (c : Cursor) : Option (Char × Cursor) :=
  match c.rest with
  | '\r' :: '\n' :: _ => some ('\n', c.advance 2)
  | ch :: _ =>
    if ch == '\u2028' || ch == '\u2029' then some (ch, c.next)
    else if isBreak ch then some ('\n', c.next)
    else none
  | [] => none

def skipLineBreak (c : Cursor) : Cursor :=
  match c.lineBreak? with
  | some (_, d) => d
  | none => c

def skipComment (c : Cursor) : Cursor :=
  if c.sees (· == '#') then c.skip (!isBreak ·) else c

/-- The place after the rest of a line that holds nothing but blanks and a comment. -/
def skipRestOfLine? (c : Cursor) : Option Cursor :=
  let d := (c.skip (· == ' ')).skipComment
  if endsOr isBreak d.char? then some d.skipLineBreak else none

/-- Whether three given characters come next and stand alone. -/
def seesMarker (c : Cursor) (letters : List Char) : Bool :=
  c.starts letters && endsOr isWhite (c.ahead 3)

/-- Whether a line starts here that ends a document or starts another one. -/
def seesSeparator (c : Cursor) : Bool :=
  c.seesMarker ['-', '-', '-'] || c.seesMarker ['.', '.', '.']

end Cursor

end SolrRequest.Yaml
