import SolrRequest.DateFormat.Token
import SolrRequest.Text.Capital
import SolrRequest.Text.Digit

/-!
# Patterns of date formats

The texts that fit a format. Any run of separators in the text fits any run of separators in the
format, and letters fit in either case. Each element of a pattern offers the ways to split a text
after what it takes, the preferred one first, and a text fits if some choice of splits uses it up.
-/

namespace SolrRequest

open Text

inductive Element
  | token (t : Token)
  | separator
  | letter (c : Char)
deriving DecidableEq, Repr

namespace Element

def isLiteral (c : Char) : Bool :=
  ('0' ≤ c && c ≤ '9') || ('A' ≤ c && c ≤ 'Z') || ('a' ≤ c && c ≤ 'z')

def isSeparator (c : Char) : Bool :=
  !isLiteral c && !resemblesLetter c

/-- The elements of a format; plain characters next to each other are one separator. -/
def ofItems : List Item → List Element
  | [] => []
  | .token t :: r => token t :: ofItems r
  | .plain c :: r =>
    if isLiteral c then letter c :: ofItems r
    else match ofItems r with
      | separator :: es => separator :: es
      | es => separator :: es

/-- The splits after one to `most` characters of a kind, the longest run first. -/
def runs (kind : Char → Bool) : (most : Nat) → List Char → List (List Char × List Char)
  | 0, _ => []
  | _, [] => []
  | most + 1, c :: r =>
    if kind c then (runs kind most r).map (fun s => (c :: s.1, s.2)) ++ [([c], r)] else []

def digitRuns (least most : Nat) (s : List Char) : List (List Char × List Char) :=
  (runs isDigit most s).filter fun split => least ≤ split.1.length

/-- The splits after exactly the characters of the given kinds. -/
def exactly : List (Char → Bool) → List Char → List (List Char × List Char)
  | [], s => [([], s)]
  | kind :: kinds, c :: r =>
    if kind c then (exactly kinds r).map fun s => (c :: s.1, s.2) else []
  | _ :: _, [] => []

def isSign (c : Char) : Bool := c == '+' || c == '-'

/-- The digits of an offset, with or without a colon, after its sign. -/
def offsetRuns (s : List Char) : List (List Char × List Char) :=
  exactly [(· == 'Z')] s ++ exactly [(· == 'z')] s ++
    exactly [isSign, isDigit, isDigit, (· == ':'), isDigit, isDigit] s ++
    exactly [isSign, isDigit, isDigit, isDigit, isDigit] s

def integerRuns : List Char → List (List Char × List Char)
  | '-' :: r => (digitRuns 1 r.length r).map fun s => ('-' :: s.1, s.2)
  | s => digitRuns 1 s.length s

/-- The most digits that a numeric token takes, and the least. -/
def digitBounds : Token → Nat × Nat
  | .year => (4, 4)
  | .shortYear => (2, 2)
  | .dayOfYear => (1, 3)
  | .fraction => (1, 9)
  | _ => (1, 2)

def tokenRuns (t : Token) (s : List Char) : List (List Char × List Char) :=
  match t with
  | .halfDay => exactly [fun c => c.toUpper == 'A' || c.toUpper == 'P', (·.toUpper == 'M')] s
  | .offset => offsetRuns s
  | .epoch => integerRuns s
  | t => digitRuns (digitBounds t).1 (digitBounds t).2 s

/-- What the element takes from the start of a text, with the rest, in order of preference. -/
def splits (e : Element) (s : List Char) : List (List Char × List Char) :=
  match e with
  | token t => tokenRuns t s
  | separator => runs isSeparator s.length s
  | letter c => exactly [sameLetter c] s

end Element

/-- What each token of a format took from a text, in order. -/
abbrev Captures := List (Token × List Char)

namespace Captures

def note (e : Element) (taken : List Char) (c : Captures) : Captures :=
  match e with
  | .token t => (t, taken) :: c
  | _ => c

/-- Matches all of a text, with the first choice of splits that succeeds. -/
def ofText? : List Element → List Char → Option Captures
  | [], [] => some []
  | [], _ :: _ => none
  | e :: es, s =>
    (e.splits s).findSome? fun split => (ofText? es split.2).map (note e split.1)

def last? (c : Captures) (t : Token) : Option (List Char) :=
  (c.reverse.find? (·.1 == t)).map Prod.snd

end Captures

end SolrRequest
