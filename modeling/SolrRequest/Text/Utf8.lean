import SolrRequest.Text.Quoted

/-!
# UTF-8

Octets as text. The octet that starts a character tells how many follow it and bounds the first of
them, so that no character has two spellings and none is a surrogate.
-/

namespace SolrRequest.Text

inductive Utf8Cause
  | startByte
  | continuationByte
  | unexpectedEnd
deriving DecidableEq

def Utf8Cause.phrase : Utf8Cause → String
  | startByte => "invalid start byte"
  | continuationByte => "invalid continuation byte"
  | unexpectedEnd => "unexpected end of data"

/-- The octets from a position on that cannot be read; `first` is the first of them. -/
structure Utf8Error where
  cause : Utf8Cause
  position : Nat
  length : Nat
  first : UInt8
deriving DecidableEq

def Utf8Error.message (e : Utf8Error) : String :=
  let place := if e.length = 1 then
      "byte 0x" ++ String.ofList (hexDigits 2 e.first.toNat) ++ s!" in position {e.position}"
    else s!"bytes in position {e.position}-{e.position + e.length - 1}"
  "'utf-8' codec can't decode " ++ place ++ ": " ++ e.cause.phrase

namespace Utf8

/-- The start of a character: how many octets follow, the least and greatest value of the first of
them, and the bits that the start contributes. -/
structure Head where
  following : Nat
  least : Nat
  greatest : Nat
  bits : Nat

def head? (n : Nat) : Option Head :=
  if n < 0x80 then some ⟨0, 0x80, 0xBF, n⟩
  else if n < 0xC2 then none
  else if n < 0xE0 then some ⟨1, 0x80, 0xBF, n - 0xC0⟩
  else if n = 0xE0 then some ⟨2, 0xA0, 0xBF, 0⟩
  else if n = 0xED then some ⟨2, 0x80, 0x9F, 0xD⟩
  else if n < 0xF0 then some ⟨2, 0x80, 0xBF, n - 0xE0⟩
  else if n = 0xF0 then some ⟨3, 0x90, 0xBF, 0⟩
  else if n < 0xF4 then some ⟨3, 0x80, 0xBF, n - 0xF0⟩
  else if n = 0xF4 then some ⟨3, 0x80, 0x8F, 4⟩
  else none

/-- The octets of a text from `position` on, and the character that is being read: what is known of
it, with the number of octets taken and its first one. -/
structure Pending where
  head : Head
  taken : Nat
  first : UInt8

def Pending.error (p : Pending) (cause : Utf8Cause) (position : Nat) : Utf8Error :=
  ⟨cause, position - p.taken, p.taken, p.first⟩

def decodeFrom (position : Nat) : Option Pending → List UInt8 → Except Utf8Error (List Char)
  | none, [] => .ok []
  | some p, [] => .error (p.error .unexpectedEnd position)
  | none, b :: r =>
    match head? b.toNat with
    | none => .error ⟨.startByte, position, 1, b⟩
    | some h =>
      if h.following = 0 then do
        return Char.ofNat h.bits :: (← decodeFrom (position + 1) none r)
      else decodeFrom (position + 1) (some ⟨h, 1, b⟩) r
  | some p, b :: r =>
    let n := b.toNat
    if n < p.head.least ∨ p.head.greatest < n then
      .error (p.error .continuationByte position)
    else
      let bits := p.head.bits * 64 + (n - 0x80)
      if p.head.following = 1 then do
        return Char.ofNat bits :: (← decodeFrom (position + 1) none r)
      else
        decodeFrom (position + 1)
          (some ⟨⟨p.head.following - 1, 0x80, 0xBF, bits⟩, p.taken + 1, p.first⟩) r

def decode (octets : List UInt8) : Except Utf8Error String :=
  (decodeFrom 0 none octets).map String.ofList

end Utf8

/-- Every way to end a line becomes a newline. -/
def unixLines : List Char → List Char
  | [] => []
  | '\r' :: '\n' :: r => '\n' :: unixLines r
  | '\r' :: r => '\n' :: unixLines r
  | c :: r => c :: unixLines r

end SolrRequest.Text
