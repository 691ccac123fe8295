import SolrRequest.Text.Utf8
import SolrRequest.Yaml.Cursor
import SolrRequest.Yaml.Token

/-!
# Names in YAML texts

Anchors, aliases, tags and directives.
-/

namespace SolrRequest.Yaml

def isNameChar (c : Char) : Bool := c.isAlphanum || c == '-' || c == '_'

def isUriChar (c : Char) : Bool :=
  c.isAlphanum || "-;/?:@&=+$,_.!~*'()[]%".toList.contains c

def hexDigit? (c : Char) : Option Nat :=
  if '0' ≤ c ∧ c ≤ '9' then some (c.toNat - 48)
  else if 'a' ≤ c ∧ c ≤ 'f' then some (c.toNat - 87)
  else if 'A' ≤ c ∧ c ≤ 'F' then some (c.toNat - 55)
  else none

/-- The number that exactly `count` digits in base sixteen denote. -/
def hexNumber? (count : Nat) (s : List Char) : Option Nat := do
  let ds ← (s.take count).mapM hexDigit?
  if ds.length = count then return ds.foldl (fun n d => 16 * n + d) 0 else none

namespace Cursor

def anchorName? (c : Cursor) : Option (String × Cursor) :=
  let (name, d) := c.span isNameChar
  let closes (ch : Char) : Bool := isWhite ch || "?:,]\x7d%@`".toList.contains ch
  if name.isEmpty || !endsOr closes d.char? then none else some (String.ofList name, d)

/-- The octets of a run of escapes, each a percent sign and two digits. -/
def escapedOctets? : (fuel : Nat) → Cursor → Option (List UInt8 × Cursor)
  | 0, c => some ([], c)
  | fuel + 1, c =>
    if c.sees (· == '%') then do
      let n ← hexNumber? 2 c.next.rest
      let (octets, d) ← escapedOctets? fuel (c.advance 3)
      return (n.toUInt8 :: octets, d)
    else some ([], c)

def uriParts? : (fuel : Nat) → Cursor → Option (List Char × Cursor)
  | 0, c => some ([], c)
  | fuel + 1, c =>
    if c.sees (· == '%') then do
      let (octets, d) ← c.escapedOctets? c.rest.length
      let s ← (Text.Utf8.decode octets).toOption
      let (r, e) ← uriParts? fuel d
      return (s.toList ++ r, e)
    else if c.sees isUriChar then do
      let (s, d) := c.span fun ch => isUriChar ch && ch != '%'
      let (r, e) ← uriParts? fuel d
      return (s ++ r, e)
    else some ([], c)

/-- A URI, which must not be empty. -/
def uri? (c : Cursor) : Option (String × Cursor) :=
  if c.sees isUriChar then
    (uriParts? c.rest.length c).map fun (s, d) => (String.ofList s, d)
  else none

/-- A handle: an exclamation mark, or a name between two of them. -/
def tagHandle? (c : Cursor) : Option (String × Cursor) :=
  if c.sees (· == '!') then
    if c.ahead 1 == some ' ' then some ("!", c.next)
    else
      let (name, d) := c.next.span isNameChar
      if d.sees (· == '!') then some (String.ofList ('!' :: name ++ ['!']), d.next) else none
  else none

def tag? (c : Cursor) : Option (Token × Cursor) := do
  let (token, d) ←
    if c.ahead 1 == some '<' then do
      let (uri, d) ← (c.advance 2).uri?
      if d.sees (· == '>') then pure (Token.tag none uri, d.next) else none
    else if endsOr isWhite (c.ahead 1) then pure (Token.tag none "!", c.next)
    else do
      let word := c.next.rest.takeWhile (!isSpaceOrBreak ·)
      let (handle, d) ← if word.contains '!' then c.tagHandle? else pure ("!", c.next)
      let (uri, d) ← d.uri?
      pure (Token.tag (some handle) uri, d)
  if endsOr isSpaceOrBreak d.char? then return (token, d) else none

/-- A directive, after its percent sign, with the rest of its line. -/
def directive? (c : Cursor) : Option (Token × Cursor) := do
  let (name, d) := c.span isNameChar
  if name.isEmpty || !endsOr isSpaceOrBreak d.char? then none
  let (token, d) ← match String.ofList name with
    | "YAML" =>
      let (major, d) := (d.skip (· == ' ')).span Char.isDigit
      let (minor, e) := d.next.span Char.isDigit
      if major.isEmpty || minor.isEmpty || !d.sees (· == '.') || !endsOr isSpaceOrBreak e.char? then
        none
      else
        some (Token.version (major.foldl (fun n ch => 10 * n + (ch.toNat - 48)) 0), e)
    | "TAG" => do
      let (handle, d) ← (d.skip (· == ' ')).tagHandle?
      if !d.sees (· == ' ') then none
      let (uri, d) ← (d.skip (· == ' ')).uri?
      if !endsOr isSpaceOrBreak d.char? then none
      some (Token.tagShorthand handle uri, d)
    | _ => some (Token.otherDirective, d.skip (!isBreak ·))
  return (token, ← d.skipRestOfLine?)

end Cursor

end SolrRequest.Yaml
