import SolrRequest.Text.Blank
import SolrRequest.Text.Digit
import SolrRequest.Text.Quoted

/-!
# Integers as text

The texts that are read as an integer, and the one in which an integer is written. Both directions
stop at the same count of digits.
-/

namespace SolrRequest.Integer

open Text

def digitLimit : Nat := 4300

inductive Fault
  /-- The text is no integer in the base. -/
  | malformed (text : String) (base : Nat)
  /-- The text has `count` digits, more than the limit. -/
  | tooManyDigits (count : Nat)
  /-- The integer would be written with more digits than the limit. -/
  | tooLong

def Fault.message : Fault → String
  | .malformed text base => s!"invalid literal for int() with base {base}: " ++ quoted text
  | .tooManyDigits count =>
    s!"Exceeds the limit ({digitLimit} digits) for integer string conversion: value has " ++
      s!"{count} digits; use sys.set_int_max_str_digits() to increase the limit"
  | .tooLong =>
    s!"Exceeds the limit ({digitLimit} digits) for integer string conversion; " ++
      "use sys.set_int_max_str_digits() to increase the limit"

def ofDigits (base : Nat) (ds : List Nat) : Nat :=
  ds.foldl (fun n d => base * n + d) 0

/-- The digits of `n` before those of `tail`. -/
def digitsBefore (n : Nat) (tail : List Nat) : List Nat :=
  if n < 10 then n :: tail else digitsBefore (n / 10) (n % 10 :: tail)

def digits (n : Nat) : List Nat :=
  digitsBefore n []

/-- Digits with at most one low line between two of them. -/
def digitRun? : List Char → Option (List Nat)
  | [] => none
  | [c] => (digit? c).map fun d => [d]
  | c :: '_' :: r => do
    let d ← digit? c
    let ds ← digitRun? r
    return d :: ds
  | c :: r => do
    let d ← digit? c
    let ds ← digitRun? r
    return d :: ds

/-- A sign, if there is one, as whether it is a minus, and what follows it. -/
def splitSign : List Char → Bool × List Char
  | '-' :: r => (true, r)
  | '+' :: r => (false, r)
  | r => (false, r)

def signed (negative : Bool) (n : Nat) : Int :=
  if negative then -(n : Int) else n

/-- Reads an integer: one sign, decimal digits of any script, blanks around. -/
def read (s : String) : Except Fault Int :=
  let (negative, body) := splitSign (trim s.toList)
  match digitRun? body with
  | none => .error (.malformed s 10)
  | some ds =>
    if digitLimit < ds.length then .error (.tooManyDigits ds.length)
    else .ok (signed negative (ofDigits 10 ds))

def read? (s : String) : Option Int :=
  (read s).toOption

def digitIn? (base : Nat) (c : Char) : Option Nat :=
  let d := match digit? c with
    | some d => d
    | none => if c.isAlpha then c.toLower.toNat - 87 else base
  if d < base then some d else none

/-- Digits of a base with at most one low line between two of them. -/
def digitRunIn? (base : Nat) : List Char → Option (List Nat)
  | [] => none
  | [c] => (digitIn? base c).map fun d => [d]
  | c :: '_' :: r => do
    let d ← digitIn? base c
    let ds ← digitRunIn? base r
    return d :: ds
  | c :: r => do
    let d ← digitIn? base c
    let ds ← digitRunIn? base r
    return d :: ds

/-- The digits after a zero and the letter of a base, and a low line, if these come first. -/
def withoutMark (mark : Char) : List Char → List Char
  | '0' :: c :: r =>
    if c.toLower = mark then (if r.head? == some '_' then r.tail else r) else '0' :: c :: r
  | s => s

/-- Reads an integer of a base that is a power of two, of any length. -/
def readIn (base : Nat) (mark : Char) (s : String) : Except Fault Int :=
  let (negative, body) := splitSign (trim s.toList)
  match digitRunIn? base (withoutMark mark body) with
  | none => .error (.malformed s base)
  | some ds => .ok (signed negative (ofDigits base ds))

def decimalChars (n : Int) : List Char :=
  let ds := (digits n.natAbs).map asciiDigit
  if n < 0 then '-' :: ds else ds

def decimal (n : Int) : String :=
  String.ofList (decimalChars n)

/-- The decimal text, unless it would pass the limit. -/
def write (n : Int) : Except Fault String :=
  if digitLimit < (digits n.natAbs).length then .error .tooLong else .ok (decimal n)

/-- The decimal text of `n` with zeros in front, up to a width. -/
def padded (width n : Nat) : String :=
  let ds := (digits n).map asciiDigit
  String.ofList (List.replicate (width - ds.length) '0' ++ ds)

end SolrRequest.Integer
