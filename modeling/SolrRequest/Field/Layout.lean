import SolrRequest.Text.Quoted
import SolrRequest.Number.Integer

/-!
# Layout of a text in a field of columns

A layout asks for a least width, a side and a character to fill with, and a greatest length. It is
read from a short text of the form `[[fill]align][0][width][.length][s]`; what the form has for
numbers only is refused.
-/

namespace SolrRequest

inductive Side
  | left
  | right
  | middle
deriving DecidableEq

structure Layout where
  side : Side
  fill : Char
  width : Nat
  length : Option Nat

inductive LayoutError
  | tooManyDigits
  | missingPrecision
  | bothSeparators
  | malformed (text : String)
  | separatorWith (separator kind : Char)
  | unknownKind (kind : Char)
  | spaceSign
  | sign
  | negativeZero
  | alternateForm
  | numericAlignment

namespace LayoutError

/-- A character as it stands if it is visible ASCII, else its code point in base sixteen. -/
def shown (c : Char) : String :=
  if 32 < c.toNat ∧ c.toNat < 128 then String.singleton c
  else "\\x" ++ String.ofList (Nat.toDigits 16 c.toNat)

def message : LayoutError → String
  | tooManyDigits => "Too many decimal digits in format string"
  | missingPrecision => "Format specifier missing precision"
  | bothSeparators => "Cannot specify both ',' and '_'."
  | malformed text => "Invalid format specifier '" ++ text ++ "' for object of type 'str'"
  | separatorWith separator kind =>
    "Cannot specify '" ++ String.singleton separator ++ "' with '" ++ shown kind ++ "'."
  | unknownKind kind => "Unknown format code '" ++ shown kind ++ "' for object of type 'str'"
  | spaceSign => "Space not allowed in string format specifier"
  | sign => "Sign not allowed in string format specifier"
  | negativeZero => "Negative zero coercion (z) not allowed in string format specifier"
  | alternateForm => "Alternate form (#) not allowed in string format specifier"
  | numericAlignment => "'=' alignment not allowed in string format specifier"

end LayoutError

namespace Layout

open Text

/-- Widths and lengths stay below this bound. -/
def bound : Nat := Nat.pow 2 63

/-- The number at the start of a text, `none` where there is no digit. -/
def number (s : List Char) : Except LayoutError (Option Nat × List Char) :=
  match s.takeWhile isDigit with
  | [] => .ok (none, s)
  | ds =>
    let n := Integer.ofDigits 10 (ds.filterMap digit?)
    if n < bound then .ok (some n, s.dropWhile isDigit) else .error .tooManyDigits

def isAlignment (c : Char) : Bool :=
  c == '<' || c == '>' || c == '^' || c == '='

def alignment : List Char → Option Char × Option Char × List Char
  | [] => (none, none, [])
  | [c] => if isAlignment c then (none, some c, []) else (none, none, [c])
  | f :: a :: r =>
    if isAlignment a then (some f, some a, r)
    else if isAlignment f then (none, some f, a :: r)
    else (none, none, f :: a :: r)

def flag (c : Char) : List Char → Bool × List Char
  | [] => (false, [])
  | d :: r => if d = c then (true, r) else (false, d :: r)

def signMark : List Char → Option Char × List Char
  | ' ' :: r => (some ' ', r)
  | '+' :: r => (some '+', r)
  | '-' :: r => (some '-', r)
  | r => (none, r)

def separator (s : List Char) : Except LayoutError (Option Char × List Char) :=
  match s with
  | ',' :: '_' :: _ => .error .bothSeparators
  | '_' :: ',' :: _ => .error .bothSeparators
  | ',' :: r => .ok (some ',', r)
  | '_' :: r => .ok (some '_', r)
  | r => .ok (none, r)

/-- The greatest length, after a point. -/
def precision : List Char → Except LayoutError (Option Nat × List Char)
  | '.' :: r => do
    match ← number r with
    | (none, _) => .error .missingPrecision
    | (some n, r) => .ok (some n, r)
  | r => .ok (none, r)

def takesSeparator (separator kind : Char) : Bool :=
  "defgEG%F".toList.contains kind || (separator == '_' && "boxX".toList.contains kind)

def read (spec : String) : Except LayoutError Layout := do
  let (fill, align, s) := alignment spec.toList
  let (mark, s) := signMark s
  let (coerced, s) := flag 'z' s
  let (alternate, s) := flag '#' s
  let (zero, s) := if fill.isSome then (false, s) else flag '0' s
  let (width, s) ← number s
  let (thousands, s) ← separator s
  let (length, s) ← precision s
  let kind ← match s with
    | [] => .ok 's'
    | [c] => .ok c
    | _ => .error (.malformed spec)
  if let some c := thousands then
    if !takesSeparator c kind then throw (.separatorWith c kind)
  if kind ≠ 's' then throw (.unknownKind kind)
  if let some c := mark then
    throw (if c = ' ' then .spaceSign else .sign)
  if coerced then throw .negativeZero
  if alternate then throw .alternateForm
  let side ← match align with
    | some '=' => .error .numericAlignment
    | some '>' => .ok Side.right
    | some '^' => .ok .middle
    | _ => .ok .left
  return { side, fill := fill.getD (if zero then '0' else ' '), width := width.getD 0, length }

def apply (l : Layout) (s : String) : String :=
  let body := match l.length with
    | none => s.toList
    | some n => s.toList.take n
  let missing := l.width - body.length
  let before := match l.side with
    | .left => 0
    | .right => missing
    | .middle => missing / 2
  String.ofList (List.replicate before l.fill ++ body ++ List.replicate (missing - before) l.fill)

def lay (spec s : String) : Except LayoutError String :=
  (read spec).map (·.apply s)

end Layout

end SolrRequest
