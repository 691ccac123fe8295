import SolrRequest.Number.Decimal
import SolrRequest.Value.Text
import SolrRequest.Yaml.Node

/-!
# Scalars of YAML

The types that plain scalars have by their form, and the values of scalars of each type.
-/

namespace SolrRequest.Yaml

/-! ## Forms -/

namespace Form

def isSign (c : Char) : Bool := c == '+' || c == '-'

def withoutSign (s : List Char) : List Char :=
  if (s.head?.map isSign).getD false then s.tail else s

def isRunOf (kind : Char → Bool) (s : List Char) : Bool := !s.isEmpty && s.all kind

def isDigitOrLine (c : Char) : Bool := c.isDigit || c == '_'

/-- A digit, then digits and low lines. -/
def isGrouped : List Char → Bool
  | [] => false
  | c :: r => c.isDigit && r.all isDigitOrLine

/-- Up to two digits below sixty. -/
def isSixtieth : List Char → Bool
  | [c] => c.isDigit
  | [b, c] => '0' ≤ b && b ≤ '5' && c.isDigit
  | _ => false

def splitAt (c : Char) (s : List Char) : List (List Char) :=
  s.foldr (fun ch acc => match acc with
    | [] => if ch == c then [[], []] else [[ch]]
    | w :: ws => if ch == c then [] :: w :: ws else (ch :: w) :: ws) [[]]

/-- A number before parts that count to sixty. -/
def isSexagesimal (whole : List Char → Bool) (s : List Char) : Bool :=
  match splitAt ':' s with
  | first :: next :: more => whole first && (next :: more).all isSixtieth
  | _ => false

def isInteger (s : List Char) : Bool :=
  match withoutSign s with
  | [] => false
  | ['0'] => true
  | '0' :: 'b' :: r => isRunOf (fun c => c == '0' || c == '1' || c == '_') r
  | '0' :: 'x' :: r => isRunOf (fun c => (hexValue? c).isSome || c == '_') r
  | '0' :: r => isRunOf (fun c => ('0' ≤ c && c ≤ '7') || c == '_') r
  | r => isGrouped r || isSexagesimal isGrouped r
where
  hexValue? (c : Char) : Option Nat := Integer.digitIn? 16 (if c.toNat < 128 then c else ' ')

def isExponent : List Char → Bool
  | [] => true
  | e :: sign :: r => (e == 'e' || e == 'E') && isSign sign && isRunOf Char.isDigit r
  | _ => false

def isFloat (s : List Char) : Bool :=
  let t := withoutSign s
  let after (s : List Char) : Bool := isExponent (s.dropWhile isDigitOrLine)
  match t.span (· != '.') with
  | (_, []) => false
  | ([], _ :: r) =>
    [['i', 'n', 'f'], ['I', 'n', 'f'], ['I', 'N', 'F']].contains r ||
      (s == t && ([['n', 'a', 'n'], ['N', 'a', 'N'], ['N', 'A', 'N']].contains r ||
        ((r.head?.map Char.isDigit).getD false && after r)))
  | (whole, _ :: r) =>
    (isGrouped whole && after r) || (isSexagesimal isGrouped whole && r.all isDigitOrLine)

def isNull (s : List Char) : Bool :=
  ["", "~", "null", "Null", "NULL"].contains (String.ofList s)

def truths : List (String × Bool) := [
  ("yes", true), ("no", false), ("true", true), ("false", false), ("on", true), ("off", false)]

/-- A word for a truth value in lower case, in capitals or with one capital. -/
def isTruth (s : List Char) : Bool :=
  truths.any fun (word, _) =>
    let w := word.toList
    let capitals := w.map Char.toUpper
    s == w || s == capitals || s == capitals.take 1 ++ w.drop 1

structure Stamp where
  year : List Char
  month : List Char
  day : List Char
  /-- Hour, minute and second, the digits of the fraction, and the offset in seconds. -/
  time : Option (List Char × List Char × List Char × List Char × Option Int)

def number (s : List Char) : Nat := Integer.ofDigits 10 (s.filterMap Text.digit?)

/-- Digits at the start of a text, between `least` and `most` of them. -/
def digits? (least most : Nat) (s : List Char) : Option (List Char × List Char) :=
  let ds := (s.take most).takeWhile Char.isDigit
  if least ≤ ds.length then some (ds, s.drop ds.length) else none

def after? (c : Char) : List Char → Option (List Char)
  | [] => none
  | d :: r => if d = c then some r else none

def isTabOrBlank (c : Char) : Bool := c == '\t' || c == ' '

/-- The offset at the end of a timestamp, with blanks before it. -/
def offset? (s : List Char) : Option (Option Int) :=
  match s, s.dropWhile isTabOrBlank with
  | [], _ => some none
  | _, ['Z'] => some (some 0)
  | _, sign :: r => do
    if !isSign sign then none
    let (hour, r) ← digits? 1 2 r
    let minute ← match r with
      | [] => pure []
      | ':' :: r => do
        let (minute, r) ← digits? 2 2 r
        if r.isEmpty then pure minute else none
      | _ => none
    return some (Integer.signed (sign == '-') (number hour * 3600 + number minute * 60))
  | _, [] => none

def stamp? (s : List Char) : Option Stamp := do
  let (year, r) ← digits? 4 4 s
  let (month, r) ← digits? 1 2 (← after? '-' r)
  let (day, r) ← digits? 1 2 (← after? '-' r)
  match r with
  | [] => return ⟨year, month, day, none⟩
  | c :: rest =>
    let r ← if c = 'T' ∨ c = 't' then some rest
      else if isTabOrBlank c then some (rest.dropWhile isTabOrBlank)
      else none
    let (hour, r) ← digits? 1 2 r
    let (minute, r) ← digits? 2 2 (← after? ':' r)
    let (second, r) ← digits? 2 2 (← after? ':' r)
    let (fraction, r) := match r with
      | '.' :: r => r.span Char.isDigit
      | r => ([], r)
    return ⟨year, month, day, some (hour, minute, second, fraction, ← offset? r)⟩

/-- A date alone has all its digits. -/
def isStamp (s : List Char) : Bool :=
  match stamp? s with
  | none => false
  | some t => t.time.isSome || (t.month.length == 2 && t.day.length == 2)

end Form

def Tag.ofPlain (text : String) : Tag :=
  let s := text.toList
  if Form.isTruth s then .bool
  else if Form.isFloat s then .float
  else if Form.isInteger s then .int
  else if s == ['<', '<'] then .merge
  else if Form.isNull s then .null
  else if Form.isStamp s then .timestamp
  else if s == ['='] then .default
  else .str

/-! ## Values -/

namespace Scalar

/-- A number's text without low lines, with its sign taken off. -/
def unsigned (text : String) : Except YamlError (Bool × List Char) :=
  match text.toList.filter (· != '_') with
  | [] => .error .emptyNumber
  | c :: r => .ok (c == '-', if Form.isSign c then r else c :: r)

def readInt (s : List Char) : Except YamlError Int :=
  (Integer.read (String.ofList s)).mapError .integer

def readIntIn (base : Nat) (mark : Char) (s : List Char) : Except YamlError Int :=
  (Integer.readIn base mark (String.ofList s)).mapError .integer

def sixties (ds : List Int) : Int := ds.foldl (fun n d => 60 * n + d) 0

def integer (text : String) : Except YamlError Int := do
  let (negative, s) ← unsigned text
  let n ← match s with
    | [] => .error .emptyNumber
    | ['0'] => .ok 0
    | '0' :: 'b' :: r => readIntIn 2 'b' r
    | '0' :: 'x' :: r => readIntIn 16 'x' r
    | '0' :: r => readIntIn 8 'o' ('0' :: r)
    | s =>
      if s.contains ':' then ((Form.splitAt ':' s).mapM readInt).map sixties else readInt s
  return if negative then -n else n

def readFloat (s : List Char) : Except YamlError Float :=
  match Decimal.read? (String.ofList s) with
  | some x => .ok x
  | none => .error (.float (String.ofList s))

/-- The sum of digits of base sixty, the last one first, in double precision. -/
def sumSixties (ds : List Float) : Float :=
  (ds.foldl (fun (acc : Float × Nat) d =>
    (acc.1 + d * Double.floatOfInt acc.2, acc.2 * 60)) (Double.floatOfInt 0, 1)).1

def float (text : String) : Except YamlError Float := do
  let (negative, s) ← unsigned (String.ofList (text.toList.map Char.toLower))
  let x ←
    if s == ['.', 'i', 'n', 'f'] then .ok (Double.infiniteFloat false)
    else if s == ['.', 'n', 'a', 'n'] then return Double.nanFloat
    else if s.contains ':' then
      ((Form.splitAt ':' s).mapM readFloat).map fun ds => sumSixties ds.reverse
    else readFloat s
  return if negative then -x else x

def truth (text : String) : Except YamlError Bool :=
  let word := String.ofList (text.toList.map Char.toLower)
  match Form.truths.lookup word with
  | some b => .ok b
  | none => .error (.boolean word)

def timestamp (text : String) : Except YamlError Value := do
  match Form.stamp? text.toList with
  | none => .error .notTimestamp
  | some t =>
    let date := (Date.of (Form.number t.year) (Form.number t.month) (Form.number t.day)).mapError
      YamlError.date
    match t.time with
    | none => return .date (← date)
    | some (hour, minute, second, fraction, offset) =>
      if let some seconds := offset then
        if 86400 ≤ seconds.natAbs then throw (.offset seconds)
      let date ← date
      let six := fraction.take 6
      let time ← (TimeOfDay.of (Form.number hour) (Form.number minute) (Form.number second)
        (Form.number six * Nat.pow 10 (6 - six.length))).mapError .date
      return .moment ⟨date, time, offset⟩

def sextet? (c : Char) : Option Nat :=
  if 'A' ≤ c ∧ c ≤ 'Z' then some (c.toNat - 65)
  else if 'a' ≤ c ∧ c ≤ 'z' then some (c.toNat - 71)
  else if '0' ≤ c ∧ c ≤ '9' then some (c.toNat + 4)
  else if c = '+' then some 62
  else if c = '/' then some 63
  else none

/-- The octets that digits of base sixty-four denote: `place` digits of a group of four have been
read, `left` is what they leave, and `pads` marks of padding follow them. Other characters are
skipped, and what follows a full group with padding. -/
def octets? : (place left pads : Nat) → List Char → Option (List UInt8)
  | place, _, _, [] => if place = 0 then some [] else none
  | place, left, pads, c :: r =>
    if c = '=' then
      if 2 ≤ place then (if 4 ≤ place + pads + 1 then some [] else octets? place left (pads + 1) r)
      else octets? place left pads r
    else match sextet? c with
      | none => octets? place left pads r
      | some d =>
        match place with
        | 0 => octets? 1 d 0 r
        | 1 => (octets? 2 (d % 16) 0 r).map ((left * 4 + d / 16).toUInt8 :: ·)
        | 2 => (octets? 3 (d % 4) 0 r).map ((left * 16 + d / 4).toUInt8 :: ·)
        | _ => (octets? 0 0 0 r).map ((left * 64 + d).toUInt8 :: ·)

def binary (text : String) : Except YamlError (List UInt8) :=
  let s := text.toList
  match if s.all (·.toNat < 128) then octets? 0 0 0 s else none with
  | some octets => .ok octets
  | none => .error .malformed

/-- The value of a text of a type; `none` for a type that is not one of scalars. -/
def ofText? (tag : Tag) (text : String) : Option (Except YamlError Value) :=
  match tag with
  | .null => some (.ok .null)
  | .bool => some ((truth text).map .bool)
  | .int => some ((integer text).map .int)
  | .float => some ((float text).map .float)
  | .binary => some ((binary text).map .bytes)
  | .timestamp => some (timestamp text)
  | .str => some (.ok (.text text))
  | _ => none

end Scalar

end SolrRequest.Yaml
