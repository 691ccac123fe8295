import SolrRequest.Calendar.Span

/-!
# Faults of YAML texts

Why a text yields no value. Faults of the form of the text are not told apart; a scalar of a known
type that cannot be read has a fault of its own.
-/

namespace SolrRequest

inductive YamlError
  /-- The text breaks the rules of the language, or uses a tag that is not known. -/
  | malformed
  /-- An escape in a quoted scalar is beyond the characters. -/
  | noCharacter (code : Nat)
  | integer (fault : Integer.Fault)
  | float (text : String)
  | emptyNumber
  | boolean (text : String)
  | notTimestamp
  | date (fault : DateError)
  /-- The offset of a timestamp, in seconds, is a day or more. -/
  | offset (seconds : Int)

namespace YamlError

/-- The numbers of characters fit thirty-two bits with a sign. -/
def codeBound : Nat := Nat.pow 2 31

def message : YamlError → String
  | malformed => ""
  | noCharacter code =>
    if code < codeBound then "chr() arg not in range(0x110000)"
    else "Python int too large to convert to C int"
  | integer fault => fault.message
  | float text => "could not convert string to float: " ++ Text.quoted text
  | emptyNumber => "string index out of range"
  | boolean text => Text.quoted text
  | notTimestamp => "'NoneType' object has no attribute 'groupdict'"
  | date fault => fault.message
  | offset seconds =>
    "offset must be a timedelta strictly between -timedelta(hours=24) and timedelta(hours=24), not "
      ++ Calendar.spanText seconds ++ "."

end YamlError

end SolrRequest
