import SolrRequest.Number.Integer
import SolrRequest.Number.Shortest

/-!
# Floats as text

How a float is written, from its shortest digits, and which texts are read as a float.
-/

namespace SolrRequest.Decimal

open Text

structure Style where
  /-- The least and greatest position of the point that is written without an exponent. -/
  leastPoint : Int
  greatestPoint : Int
  exponentWidth : Nat
  nan : String
  infinity : String

/-- The point is written in place from one ten-thousandth up to below ten to the sixteenth. -/
def style : Style :=
  { leastPoint := -3, greatestPoint := 16, exponentWidth := 2, nan := "nan", infinity := "inf" }

def zeros (n : Nat) : List Char :=
  List.replicate n '0'

/-- Digits with the point in place; at least one digit stands on each side of it. -/
def positional (ds : List Char) (point : Int) : List Char :=
  if point ≤ 0 then '0' :: '.' :: (zeros (-point).toNat ++ ds)
  else
    let n := point.toNat
    let whole := ds.take n ++ zeros (n - ds.length)
    let part := ds.drop n
    whole ++ '.' :: (if part.isEmpty then ['0'] else part)

/-- Digits with the point after the first and a power of ten. -/
def scientific (st : Style) (ds : List Char) (point : Int) : List Char :=
  let exponent := point - 1
  let part := ds.drop 1
  let sign := if exponent < 0 then '-' else '+'
  ds.take 1 ++ (if part.isEmpty then [] else '.' :: part) ++ 'e' :: sign ::
    (Integer.padded st.exponentWidth exponent.natAbs).toList

def magnitude (st : Style) (m : Nat) (e : Int) : List Char :=
  if m = 0 then ['0', '.', '0']
  else
    let d := Shortest.ofDouble m e
    let ds := d.digits.map asciiDigit
    if st.leastPoint ≤ d.point ∧ d.point ≤ st.greatestPoint then positional ds d.point
    else scientific st ds d.point

def writeChars (st : Style) : FloatClass → List Char
  | .notANumber => st.nan.toList
  | .infinite negative => (if negative then ['-'] else []) ++ st.infinity.toList
  | .finite negative m e => (if negative then ['-'] else []) ++ magnitude st m e

def write (x : Float) : String :=
  String.ofList (writeChars style (FloatClass.ofFloat x))

/-- Digits with single low lines between them at the start of a text, and the rest. -/
def spanDigits : List Char → List Nat × List Char
  | [] => ([], [])
  | c :: r =>
    match digit? c with
    | none => ([], c :: r)
    | some d =>
      match r with
      | '_' :: c' :: r' =>
        if isDigit c' then
          let (ds, rest) := spanDigits (c' :: r')
          (d :: ds, rest)
        else ([d], r)
      | r =>
        let (ds, rest) := spanDigits r
        (d :: ds, rest)

def exponent? : List Char → Option Int
  | [] => some 0
  | e :: r =>
    if e = 'e' ∨ e = 'E' then
      let (negative, body) := Integer.splitSign r
      match spanDigits body with
      | (d :: ds, []) => some (Integer.signed negative (Integer.ofDigits 10 (d :: ds)))
      | _ => none
    else none

/-- Digits, an optional point with digits, an optional power of ten. -/
def unsigned? (s : List Char) : Option (Nat × Int) :=
  let (whole, rest) := spanDigits s
  let (part, rest) := match rest with
    | '.' :: r => spanDigits r
    | r => ([], r)
  if whole.isEmpty ∧ part.isEmpty then none
  else (exponent? rest).map fun e =>
    (Integer.ofDigits 10 (whole ++ part), e - part.length)

/-- The float nearest to `n * 10 ^ e`. A power beyond the reach of any digits is cut short. -/
def ofScientific (negative : Bool) (n : Nat) (e : Int) : Float :=
  let width : Int := n.log2
  if n = 0 then Double.floatOfQuotient negative 0 1
  else if 400 < e then Double.infiniteFloat negative
  else if e + width < -400 ∧ e < -400 then Double.floatOfQuotient negative 0 1
  else Double.floatOfQuotient negative (n * Nat.pow 10 e.toNat) (Nat.pow 10 (-e).toNat)

/-- Reads a float: a sign, then a number, `inf`, `infinity` or `nan` in any case; blanks around. -/
def read? (s : String) : Option Float :=
  let (negative, body) := Integer.splitSign (trim s.toList)
  match String.ofList (body.map Char.toLower) with
  | "inf" => some (Double.infiniteFloat negative)
  | "infinity" => some (Double.infiniteFloat negative)
  | "nan" => some Double.nanFloat
  | _ => (unsigned? body).map fun (n, e) => ofScientific negative n e

end SolrRequest.Decimal
