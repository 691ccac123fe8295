import SolrRequest.FreeDate.Draft

/-!
# Reading free-form dates

The words of a text are read from left to right into a draft. Each step takes one word together
with words that follow it, and may look back at two words before.
-/

namespace SolrRequest.FreeDate

/-- A word with those before it, the nearest first, and those after it. -/
structure Place where
  before : List Word
  word : Word
  after : List Word

/-- A draft, and how many words after the present one were taken with it. -/
abbrev Step := Option (Draft × Nat)

namespace Place

def next? (p : Place) : Option Word := p.after.head?

/-- The unit of a number and how many words after the number spell it: it follows the number,
perhaps after a blank, or the number follows the next greater unit. -/
def unit? (p : Place) : Option (Nat × Nat) :=
  let follows : Option (Nat × Nat) := match p.after with
    | w :: r =>
      match FreeDate.unit? w, r with
      | some u, _ => some (u, 1)
      | none, v :: _ => if w == [' '] then (FreeDate.unit? v).map (·, 2) else none
      | none, [] => none
    | [] => none
  let precedes : Option (Nat × Nat) := match p.before with
    | w :: r =>
      match FreeDate.unit? w, r with
      | some u, _ => some (u + 1, 0)
      | none, v :: _ =>
        if w == [' '] && p.after.isEmpty then (FreeDate.unit? v).map fun u => (u + 1, 0) else none
      | none, [] => none
    | [] => none
  follows.or precedes

end Place

namespace Draft

/-! ## Times -/

/-- Seconds, and microseconds from the digits after a point. -/
def setSeconds? (d : Draft) (w : Word) : Option Draft := do
  match w.span (· != '.') with
  | (s, []) => return { d with second := some (← natural? s), micro := some 0 }
  | (s, _ :: f) =>
    let second ← natural? s
    let micro ← natural? ((f ++ List.replicate (6 - f.length) '0').take 6)
    return { d with second := some second, micro := some micro }

/-- Minutes, and seconds where a part of a minute is left. -/
def setMinutes (d : Draft) (n : Numeral) : Draft :=
  { d with
    minute := some n.whole, second := if n.hasPart then some n.sixtieths else none }

def setUnit? (d : Draft) (unit : Nat) (w : Word) (n : Numeral) : Option Draft :=
  match unit with
  | 0 => some { d with
      hour := some n.whole
      minute := if n.hasPart then some n.sixtieths else d.minute }
  | 1 => some (d.setMinutes n)
  | 2 => d.setSeconds? w
  | _ => some d

def halfDayHour (hour : Nat) (afternoon : Bool) : Nat :=
  if hour < 12 ∧ afternoon then hour + 12
  else if hour = 12 ∧ !afternoon then 0
  else hour

def setHour (d : Draft) (hour : Nat) : Draft := { d with hour := some hour }

/-- Hours, minutes and, where there are more digits, seconds without separators. -/
def setClock? (d : Draft) (w : Word) : Option Draft := do
  let hour ← natural? (w.take 2)
  let d := { d with hour := some hour }
  match w.drop 2 with
  | [] => return d
  | r =>
    let d := { d with minute := some (← natural? (r.take 2)) }
    match r.drop 2 with
    | [] => return d
    | s => d.setSeconds? s

/-! ## Numbers -/

/-- Year, month and day as eight digits, perhaps with hours and minutes, and seconds. -/
def addCompact? (d : Draft) (w : Word) : Option Draft := do
  let d ← d.addYearDigits? (w.take 4)
  let d ← d.addDigits? ((w.drop 4).take 2)
  let d ← d.addDigits? ((w.drop 6).take 2)
  match w.drop 8 with
  | [] => return d
  | r =>
    let hour ← natural? (r.take 2)
    let minute ← natural? ((r.drop 2).take 2)
    let d := { d with hour := some hour, minute := some minute }
    match r.drop 4 with
    | [] => return d
    | s => return { d with second := some (← natural? s) }

def addSeparated? (d : Draft) (w sep : Word) (after : List Word) : Step := do
  let d ← d.addDigits? w
  match after with
  | [] => return (d, 1)
  | v :: r =>
    if isFiller v then return (d, 1)
    let d ← if v.all Text.isDigit then d.addDigits? v else (month? v).bind d.addMonth?
    match r with
    | s :: r =>
      if s == sep then
        let u ← r.head?
        let d ← match month? u with
          | some m => d.addMonth? m
          | none => d.addDigits? u
        return (d, 4)
      else return (d, 2)
    | [] => return (d, 2)

def setColons? (d : Draft) (n : Numeral) (minutes : Word) (after : List Word) : Step := do
  let d := (d.setHour n.whole).setMinutes (← Numeral.ofWord? minutes)
  match after with
  | [':'] :: s :: _ => return (← d.setSeconds? s, 4)
  | _ => return (d, 2)

/-- Whether a number after a complete date is a time of day without separators. -/
def isBareClock (d : Draft) (p : Place) : Bool :=
  d.numbers.length == 3 && (p.word.length == 2 || p.word.length == 4) && d.hour.isNone &&
    match p.next? with
    | none => true
    | some w => w != [':'] && (FreeDate.unit? w).isNone

def isCompactClock (w : Word) : Bool :=
  w.length == 6 || (6 < w.length && w.findIdx? (· == '.') == some 6)

def readNumber (p : Place) (n : Numeral) (d : Draft) : Step :=
  let w := p.word
  if d.isBareClock p then (d.setClock? w).map (·, 0)
  else if isCompactClock w then
    if d.numbers.isEmpty && !w.contains '.' then do
      let d ← d.addDigits? (w.take 2)
      let d ← d.addDigits? ((w.drop 2).take 2)
      let d ← d.addDigits? (w.drop 4)
      return (d, 0)
    else (d.setClock? w).map (·, 0)
  else if w.length = 8 ∨ w.length = 12 ∨ w.length = 14 then (d.addCompact? w).map (·, 0)
  else match p.unit?, p.after with
    | some (unit, taken), _ => (d.setUnit? unit w n).map (·, taken)
    | none, [':'] :: minutes :: r => d.setColons? n minutes r
    | none, ['-'] :: r => d.addSeparated? w ['-'] r
    | none, ['/'] :: r => d.addSeparated? w ['/'] r
    | none, ['.'] :: r => d.addSeparated? w ['.'] r
    | none, [] => (d.addNumeral? n).map (·, 1)
    | none, v :: r =>
      if isFiller v then
        match r.head?.bind afternoon? with
        | some afternoon => some (d.setHour (halfDayHour n.whole afternoon), 2)
        | none => (d.addNumeral? n).map (·, 1)
      else match afternoon? v with
        | some afternoon =>
          if n.whole < 24 then some (d.setHour (halfDayHour n.whole afternoon), 1)
          else if d.couldBeDay n then (d.addNumeral? n).map (·, 0)
          else none
        | none => if d.couldBeDay n then (d.addNumeral? n).map (·, 0) else none

/-! ## Words -/

def readMonth (present : Nat) (after : List Word) (month : Nat) (d : Draft) : Step := do
  let d ← d.addMonth? month
  match after with
  | [c] :: r =>
    if c = '-' ∨ c = '/' then
      let d ← d.addDigits? (← r.head?)
      match r.tail with
      | s :: r =>
        if s == [c] then return (← d.addDigits? (← r.head?), 4) else return (d, 2)
      | [] => return (d, 2)
    else
      match c, r with
      | ' ', w :: [' '] :: y :: _ =>
        if isOf w then
          match natural? y with
          | some n => return (← d.addYear? (fullYear present n false) true, 4)
          | none => return (d, 4)
        else return (d, 0)
      | _, _ => return (d, 0)
  | _ => return (d, 0)

/-- Before or after noon, for an hour of a clock with twelve. -/
def readHalf (afternoon : Bool) (d : Draft) : Step :=
  match d.hour with
  | none => none
  | some h => if h ≤ 12 then some (d.setHour (halfDayHour h afternoon), 0) else none

/-- A zone name in parentheses after an offset. -/
def readZoneNote (after : List Word) (d : Draft) (taken : Nat) : Draft × Nat :=
  match after with
  | w :: ['('] :: name :: [')'] :: _ =>
    if isFiller w && 3 ≤ name.length && d.zone.isNone && isZoneName name then
      ({ d with zone := some name }, taken + 4)
    else (d, taken)
  | _ => (d, taken)

def readOffset (positive : Bool) (after : List Word) (d : Draft) : Step := do
  let w ← after.head?
  let set (hours minutes : Nat) : Draft :=
    { d with offset := some (Integer.signed (!positive) (hours * 3600 + minutes * 60)) }
  if w.length = 4 then
    let d := set (← natural? (w.take 2)) (← natural? (w.drop 2))
    return readZoneNote after.tail d 1
  else match after.tail with
    | [':'] :: r =>
      let d := set (← natural? w) (← natural? (← r.head?))
      return readZoneNote r.tail d 3
    | r =>
      if w.length ≤ 2 then return readZoneNote r (set (← natural? w) 0) 1
      else none

/-- The name of a zone. A sign after it tells how far universal time is from there, which is the
offset with the other sign; the zone is not universal time then. -/
def readZone (w : Word) (after : List Word) (d : Draft) : Step :=
  match after with
  | [c] :: r =>
    if c = '+' ∨ c = '-' then
      let zone := if isUniversal w then none else some w
      (readOffset (c == '-') r { d with zone }).map fun (d, taken) => (d, taken + 1)
    else some ({ d with zone := some w }, 0)
  | _ => some ({ d with zone := some w }, 0)

def readWord (present : Nat) (p : Place) (d : Draft) : Step :=
  let w := p.word
  match Numeral.ofWord? w with
  | some n => d.readNumber p n
  | none =>
    if isNonNumber w then none
    else if let some k := weekday? w then some ({ d with weekday := some k }, 0)
    else if let some m := month? w then d.readMonth present p.after m
    else if let some afternoon := afternoon? w then d.readHalf afternoon
    else if d.hour.isSome && d.zone.isNone && d.offset.isNone && isZoneName w then
      d.readZone w p.after
    else if d.hour.isSome && (w == ['+'] || w == ['-']) then d.readOffset (w == ['+']) p.after
    else if isFiller w then some (d, 0)
    else none

/-- Reads the words of a text, each step with those that it takes along. -/
def readWords (present : Nat) (before : List Word) (d : Draft) : List Word → Option Draft
  | [] => some d
  | w :: after =>
    match d.readWord present ⟨before, w, after⟩ with
    | none => none
    | some (d, taken) =>
      readWords present ((after.take taken).reverse ++ w :: before) d (after.drop taken)
termination_by words => words.length
decreasing_by
  have dropped := List.length_drop (i := taken) (l := after)
  simp only [List.length_cons]
  omega

end Draft

/-- Reads a free-form date; what it leaves open is taken from `today`. -/
def read? (today : Date) (s : String) : Option DateTime :=
  (Draft.empty.readWords today.year [] (words s)).bind (·.toDateTime? today)

end SolrRequest.FreeDate
