/-!
# Log records

What the library reports while it works: a message with the weight it has.
-/

namespace SolrRequest

inductive Severity
  | debug
  | info
  | warning
  | error
  | critical
deriving DecidableEq, Repr

namespace Severity

def name : Severity → String
  | debug => "DEBUG"
  | info => "INFO"
  | warning => "WARNING"
  | error => "ERROR"
  | critical => "CRITICAL"

def level : Severity → Int
  | debug => 10
  | info => 20
  | warning => 30
  | error => 40
  | critical => 50

def all : List Severity := [debug, info, warning, error, critical]

theorem mem_all (s : Severity) : s ∈ all := by
  cases s <;> decide

end Severity

structure Record where
  severity : Severity
  message : String
deriving DecidableEq

end SolrRequest
