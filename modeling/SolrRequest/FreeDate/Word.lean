import SolrRequest.Text.Blank
import SolrRequest.Text.Digit
import SolrRequest.Number.Integer

/-!
# Words of free-form dates

A date that follows no format is cut into words: runs of letters, numbers with at most one point,
blanks, and single other characters. Points that belong to no number stand alone.
-/

namespace SolrRequest.FreeDate

open Text

abbrev Word := List Char

/-- Letters; what is neither ASCII nor a digit nor blank counts as one. -/
def isLetter (c : Char) : Bool :=
  c.isAlpha || (0x80 ≤ c.toNat && !isDigit c && !isBlank c)

inductive Shape
  | letters
  | digits
  /-- With points, and a letter before. -/
  | dottedLetters
  /-- With points, and a digit before. -/
  | dottedDigits
deriving DecidableEq

/-- A word that is not finished; its characters stand in reverse order. -/
structure Partial where
  shape : Shape
  lettered : Bool
  reversed : List Char

namespace Partial

def lastIsPoint (p : Partial) : Bool :=
  p.reversed.head? == some '.'

/-- The word with one more character, if that character belongs to it. -/
def extend? (p : Partial) (c : Char) : Option Partial :=
  let next (shape : Shape) (lettered : Bool) : Option Partial :=
    some ⟨shape, lettered, c :: p.reversed⟩
  match p.shape with
  | .letters =>
    if isLetter c then next .letters true
    else if c == '.' then next .dottedLetters true
    else none
  | .digits =>
    if isDigit c then next .digits p.lettered
    else if c == '.' || (c == ',' && 2 ≤ p.reversed.length) then next .dottedDigits p.lettered
    else none
  | .dottedLetters =>
    if c == '.' || isLetter c then next .dottedLetters true
    else if isDigit c && p.lastIsPoint then next .dottedDigits true
    else none
  | .dottedDigits =>
    if c == '.' || isDigit c then next .dottedDigits p.lettered
    else if isLetter c && p.lastIsPoint then next .dottedLetters p.lettered
    else none

def isPoint (c : Char) : Bool := c == '.' || c == ','

def cut : List Char → List Word
  | [] => []
  | c :: r =>
    if isPoint c then [c] :: cut r
    else match cut r with
      | [] => [[c]]
      | w :: ws => if (w.head?.map isPoint).getD true then [c] :: w :: ws else (c :: w) :: ws

/-- The words that a finished one yields. A single decimal comma becomes a point. -/
def words (p : Partial) : List Word :=
  let w := p.reversed.reverse
  let dotted := p.shape == .dottedLetters || p.shape == .dottedDigits
  if dotted && (p.lettered || 1 < w.count '.' || (p.reversed.head?.map isPoint).getD false) then
    cut w
  else if p.shape == .dottedDigits && w.count '.' == 0 then
    [w.map fun c => if c == ',' then '.' else c]
  else [w]

/-- Finishes a word because another character follows. -/
def wordsBefore (p : Partial) : List Word :=
  words { p with lettered := p.lettered || p.shape == .dottedLetters }

end Partial

/-- The word that a character starts, or the word that it is. -/
def start (c : Char) : Option Partial × List Word :=
  if isLetter c then (some ⟨.letters, false, [c]⟩, [])
  else if isDigit c then (some ⟨.digits, false, [c]⟩, [])
  else if isBlank c then (none, [[' ']])
  else (none, [[c]])

def wordsFrom : Option Partial → List Char → List Word
  | none, [] => []
  | some p, [] => p.words
  | none, c :: r =>
    let (p, ws) := start c
    ws ++ wordsFrom p r
  | some p, c :: r =>
    match p.extend? c with
    | some q => wordsFrom (some q) r
    | none =>
      let (q, ws) := start c
      p.wordsBefore ++ ws ++ wordsFrom q r

/-- The words of a text; characters with the code zero are skipped. -/
def words (s : String) : List Word :=
  wordsFrom none (s.toList.filter (· ≠ '\x00'))

/-! ## Vocabulary -/

def rowOf (table : List (List String)) (w : Word) : Option Nat :=
  let name := String.ofList (w.map Char.toLower)
  table.findIdx? (·.contains name)

def weekdays : List (List String) := [
  ["mon", "monday"], ["tue", "tuesday"], ["wed", "wednesday"], ["thu", "thursday"],
  ["fri", "friday"], ["sat", "saturday"], ["sun", "sunday"]]

def months : List (List String) := [
  ["jan", "january"], ["feb", "february"], ["mar", "march"], ["apr", "april"], ["may"],
  ["jun", "june"], ["jul", "july"], ["aug", "august"], ["sep", "sept", "september"],
  ["oct", "october"], ["nov", "november"], ["dec", "december"]]

def units : List (List String) := [
  ["h", "hour", "hours"], ["m", "minute", "minutes"], ["s", "second", "seconds"]]

def halves : List (List String) := [["am", "a"], ["pm", "p"]]

def fillers : List String := [
  " ", ".", ",", ";", "-", "/", "'", "at", "on", "and", "ad", "m", "t", "of", "st", "nd", "rd",
  "th"]

/-- Zero is Monday. -/
def weekday? (w : Word) : Option Nat := rowOf weekdays w

def month? (w : Word) : Option Nat := (rowOf months w).map (· + 1)

/-- Zero stands for hours, one for minutes and two for seconds. -/
def unit? (w : Word) : Option Nat := rowOf units w

def afternoon? (w : Word) : Option Bool := (rowOf halves w).map (· == 1)

def isFiller (w : Word) : Bool := (rowOf [fillers] w).isSome

def isOf (w : Word) : Bool := (rowOf [["of"]] w).isSome

def isUniversal (w : Word) : Bool :=
  w == ['U', 'T', 'C'] || w == ['G', 'M', 'T'] || w == ['Z'] || w == ['z']

def isZoneName (w : Word) : Bool :=
  w.length ≤ 5 && (w.all Char.isUpper || isUniversal w)

/-- Words that spell something that is no finite number. -/
def isNonNumber (w : Word) : Bool := (rowOf [["nan", "inf", "infinity"]] w).isSome

/-! ## Numbers -/

def isDigits (w : Word) : Bool := !w.isEmpty && w.all isDigit

def natural? (w : Word) : Option Nat :=
  if isDigits w then some (Integer.ofDigits 10 (w.filterMap digit?)) else none

/-- A number: digits, and those after a point. -/
structure Numeral where
  whole : Nat
  places : List Nat

namespace Numeral

def ofWord? (w : Word) : Option Numeral := do
  let whole ← natural? (w.takeWhile isDigit)
  match w.dropWhile isDigit with
  | [] => return ⟨whole, []⟩
  | '.' :: r => if isDigits r then return ⟨whole, r.filterMap digit?⟩ else none
  | _ => none

def hasPart (n : Numeral) : Bool := n.places.any (· != 0)

/-- The whole sixtieths of what stands after the point. -/
def sixtieths (n : Numeral) : Nat :=
  60 * Integer.ofDigits 10 n.places / Nat.pow 10 n.places.length

def atMost (n : Numeral) (k : Nat) : Bool :=
  n.whole < k || (n.whole == k && !n.hasPart)

end Numeral

end SolrRequest.FreeDate
