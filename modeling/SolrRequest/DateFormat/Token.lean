/-!
# Tokens of date formats

A format is a text in which certain groups of letters, the tokens, stand for parts of a date and
time. All other characters are plain. Where several tokens could start, the first of the list does.
-/

namespace SolrRequest

inductive Token
  | year
  | shortYear
  | dayOfYear
  | paddedDay
  | day
  | paddedMonth
  | month
  | paddedHour
  | hour
  | paddedClockHour
  | clockHour
  | paddedMinute
  | minute
  | fraction
  | paddedSecond
  | second
  | halfDay
  | offset
  | epoch
deriving DecidableEq, Repr

namespace Token

/-- All tokens; one that another one starts with comes after it. -/
def all : List Token := [
  .year, .shortYear, .dayOfYear, .paddedDay, .day, .paddedMonth, .month, .paddedHour, .hour,
  .paddedClockHour, .clockHour, .paddedMinute, .minute, .fraction, .paddedSecond, .second,
  .halfDay, .offset, .epoch]

def letters : Token → List Char
  | year => ['Y', 'Y', 'Y', 'Y']
  | shortYear => ['Y', 'Y']
  | dayOfYear => ['D', 'D', 'D']
  | paddedDay => ['D', 'D']
  | day => ['D']
  | paddedMonth => ['M', 'M']
  | month => ['M']
  | paddedHour => ['H', 'H']
  | hour => ['H']
  | paddedClockHour => ['h', 'h']
  | clockHour => ['h']
  | paddedMinute => ['m', 'm']
  | minute => ['m']
  | fraction => ['S', 'S', 'S']
  | paddedSecond => ['s', 's']
  | second => ['s']
  | halfDay => ['A']
  | offset => ['Z']
  | epoch => ['x']

theorem mem_all (t : Token) : t ∈ all := by
  cases t <;> decide

def first? (s : List Char) : Option Token :=
  all.find? fun t => t.letters.isPrefixOf s

end Token

inductive Item
  | token (t : Token)
  | plain (c : Char)
deriving DecidableEq, Repr

namespace Item

/-- The items of a format after its first `skip` characters. -/
def after : (skip : Nat) → List Char → List Item
  | _, [] => []
  | skip + 1, _ :: r => after skip r
  | 0, c :: r =>
    match Token.first? (c :: r) with
    | some t => token t :: after (t.letters.length - 1) r
    | none => plain c :: after 0 r

def letters : Item → List Char
  | token t => t.letters
  | plain c => [c]

end Item

namespace DateFormat

def named : List (String × String) := [
  ("SIMPLE_ISO", "YYYY-MM-DD HH:mm:ss"),
  ("ORDINAL_DATE", "YYYY-DDD"),
  ("MILLIS", "x"),
  ("ISO", "YYYY-MM-DDTHH:mm:ss.SSSZ"),
  ("CALENDAR_DATE", "YYYY-MM-DD")]

def resolve (format : String) : String :=
  (named.lookup format).getD format

def items (format : String) : List Item :=
  Item.after 0 (resolve format).toList

def standardInput : String := "YYYY-MM-DD HH:mm:ss"

def standardOutput : String := "DD/MM/YYYY"

end DateFormat

end SolrRequest
