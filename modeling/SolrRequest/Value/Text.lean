import SolrRequest.Calendar.Span
import SolrRequest.Value
import SolrRequest.Text.Quoted

/-!
# The text of a value

A value as text, and as an item inside another value, where texts are quoted.
-/

namespace SolrRequest.Value

open Text

def commaSeparated (parts : List String) : String :=
  ", ".intercalate parts

def braced (s : String) : String :=
  "\x7b" ++ s ++ "\x7d"

def flagText (b : Bool) : String :=
  if b then "True" else "False"

/-- An offset as hours and minutes, and seconds where there are any. -/
def offsetText (offset : Int) : String :=
  let sign := if offset < 0 then "-" else "+"
  let n := offset.natAbs
  let seconds := if n % 60 = 0 then "" else ":" ++ Integer.padded 2 (n % 60)
  sign ++ Integer.padded 2 (n / 3600) ++ ":" ++ Integer.padded 2 (n / 60 % 60) ++ seconds

def dateText (d : Date) : String :=
  Integer.padded 4 d.year ++ "-" ++ Integer.padded 2 d.month ++ "-" ++ Integer.padded 2 d.day

def momentText (t : DateTime) : String :=
  let micro := if t.time.micro = 0 then "" else "." ++ Integer.padded 6 t.time.micro
  dateText t.date ++ " " ++ Integer.padded 2 t.time.hour ++ ":" ++
    Integer.padded 2 t.time.minute ++ ":" ++ Integer.padded 2 t.time.second ++ micro ++
    (t.offset.map offsetText).getD ""

def momentItem (t : DateTime) : String :=
  let m := t.time
  let fields := [t.date.year, t.date.month, t.date.day, m.hour, m.minute] ++
    (if m.second = 0 ∧ m.micro = 0 then [] else [m.second]) ++
    (if m.micro = 0 then [] else [m.micro])
  let zone := match t.offset with
    | none => []
    | some o => ["tzinfo=" ++ if o = 0 then "datetime.timezone.utc"
        else "datetime.timezone(" ++ Calendar.spanText o ++ ")"]
  "datetime.datetime(" ++
    commaSeparated (fields.map (fun n : Nat => Integer.decimal (n : Int)) ++ zone) ++ ")"

def octetText (quote : Char) (b : UInt8) : List Char :=
  let c := Char.ofNat b.toNat
  if b.toNat < 0x7f then
    if b.toNat < 0x20 ∧ c ≠ '\n' ∧ c ≠ '\r' ∧ c ≠ '\t' then '\\' :: 'x' :: hexDigits 2 b.toNat
    else escape quote c
  else '\\' :: 'x' :: hexDigits 2 b.toNat

def octetsText (octets : List UInt8) : String :=
  let quote := quoteFor (octets.map fun b => Char.ofNat b.toNat)
  String.ofList ('b' :: quote :: octets.flatMap (octetText quote) ++ [quote])

mutual

def itemText : Value → String
  | null => "None"
  | bool b => flagText b
  | int n => Integer.decimal n
  | float x => Decimal.write x
  | text s => quoted s
  | field f => "<SolrField." ++ f.catalogKey ++ ": " ++ quoted f.indexName ++ ">"
  | list items => "[" ++ commaSeparated (itemTexts items) ++ "]"
  | tuple items =>
    match itemTexts items with
    | [one] => "(" ++ one ++ ",)"
    | parts => "(" ++ commaSeparated parts ++ ")"
  | dict entries => braced (commaSeparated (entryTexts entries))
  | set [] => "set()"
  | set (x :: xs) => braced (commaSeparated (itemText x :: itemTexts xs))
  | bytes octets => octetsText octets
  | date d => "datetime.date(" ++
      commaSeparated ([d.year, d.month, d.day].map fun n : Nat => Integer.decimal (n : Int)) ++ ")"
  | moment t => momentItem t

def itemTexts : List Value → List String
  | [] => []
  | x :: xs => itemText x :: itemTexts xs

def entryTexts : List (Value × Value) → List String
  | [] => []
  | (k, v) :: rest => (itemText k ++ ": " ++ itemText v) :: entryTexts rest

end

/-- A value as text; texts, fields and moments stand as they are. Integers are written whatever
their length; where that has a limit, `write` keeps it. -/
def toText : Value → String
  | text s => s
  | field f => f.indexName
  | date d => dateText d
  | moment t => momentText t
  | v => itemText v

mutual

def isWritable : Value → Bool
  | int n => (Integer.write n).isOk
  | list items => areWritable items
  | tuple items => areWritable items
  | dict entries => areWritableEntries entries
  | set items => areWritable items
  | _ => true

def areWritable : List Value → Bool
  | [] => true
  | x :: xs => isWritable x && areWritable xs

def areWritableEntries : List (Value × Value) → Bool
  | [] => true
  | (k, v) :: rest => isWritable k && isWritable v && areWritableEntries rest

end

/-- A value as text, if there is no integer with too many digits in it. -/
def write (v : Value) : Except Integer.Fault String :=
  if v.isWritable then .ok v.toText else .error .tooLong

theorem toText_of_text? {v : Value} {s : String} (text : v.text? = some s) : v.toText = s := by
  cases v with
  | text _ | field _ =>
    cases text
    rfl
  | _ => cases text

theorem write_of_text? {v : Value} {s : String} (text : v.text? = some s) : v.write = .ok s := by
  have writable : v.isWritable = true := by
    cases v with
    | text _ | field _ => simp [isWritable]
    | _ => cases text
  rw [write, if_pos writable, toText_of_text? text]

end SolrRequest.Value
