import SolrRequest.Endpoint
import SolrRequest.Log
import SolrRequest.Settings.Error
import SolrRequest.Text.Capital

/-!
# Settings

Settings are read from a table with the parts `log` and `solr`. First the kinds of all values of a
part are checked, then what they hold. A part or a value that is missing has its default.
-/

namespace SolrRequest

abbrev Table := List (Value × Value)

namespace Table

def get? (t : Table) (key : String) : Option Value :=
  Entries.get? (.text key) t

/-- A part of the settings; one that is missing or null is empty. -/
def part (t : Table) (name : String) : Except SettingsError Table :=
  match t.get? name with
  | none => .ok []
  | some .null => .ok []
  | some (.dict entries) => .ok entries
  | some _ => .error (.noObject name)

def string (t : Table) (key setting absent : String) : Except SettingsError String :=
  match t.get? key with
  | none => .ok absent
  | some v => match v.text? with
    | some s => .ok s
    | none => .error (.wrongKind setting .string)

def boolean (t : Table) (key setting : String) (absent : Bool) : Except SettingsError Bool :=
  match t.get? key with
  | none => .ok absent
  | some (.bool b) => .ok b
  | some _ => .error (.wrongKind setting .boolean)

end Table

/-- A number of seconds, as it was written. -/
inductive Seconds
  | whole (n : Int)
  | real (x : Float)

namespace Seconds

def toFloat : Seconds → Except SettingsError Float
  | whole n =>
    if (Double.nearest n 1).overflows then .error .timeoutTooLarge
    else .ok (Double.floatOfInt n)
  | real x => .ok x

end Seconds

def Table.seconds (t : Table) (key setting : String) (absent : Value) :
    Except SettingsError (Option Seconds) :=
  match (t.get? key).getD absent with
  | .null => .ok none
  | .int n => .ok (some (.whole n))
  | .float x => .ok (some (.real x))
  | _ => .error (.wrongKind setting .numberOrNull)

structure LogSettings where
  level : Severity
  toFile : Bool
  directory : String

structure Settings where
  log : LogSettings
  solr : Endpoint

namespace LogSettings

/-- The level with a name in any case. -/
def level? (name : String) : Option Severity :=
  Severity.all.find? (·.name == Text.upper name)

def read (settings : Table) : Except SettingsError LogSettings := do
  let t ← settings.part "log"
  let name ← t.string "level" "log.level" "INFO"
  let toFile ← t.boolean "to_file" "log.to_file" false
  let directory ← t.string "dir" "log.dir" "log"
  match level? name with
  | none => .error .unknownLevel
  | some level =>
    if Text.allBlank directory then .error .blankDirectory
    else .ok { level, toFile, directory }

end LogSettings

namespace Endpoint

/-- Whether a float is zero or below; what is no number is not. -/
def notPositive (x : Float) : Bool :=
  match FloatClass.ofFloat x with
  | .finite negative m _ => negative || m == 0
  | .infinite negative => negative
  | .notANumber => false

def hasQuery (url : String) : Bool :=
  url.toList.contains '?'

/-- A timeout that is a number has to be above zero. -/
def isTooShort : Value → Bool
  | .float x => notPositive x
  | _ => false

def check (e : Endpoint) : Except SettingsError Endpoint :=
  if isTooShort e.timeout then .error .timeoutNotPositive
  else if hasQuery e.getUrl || hasQuery e.postUrl then .error .queryInUrl
  else if Text.allBlank e.userAgent then .error .blankUserAgent
  else .ok e

def read (settings : Table) : Except SettingsError Endpoint := do
  let t ← settings.part "solr"
  let seconds ← t.seconds "timeout" "solr.timeout" standard.timeout
  let getUrl ← t.string "get_url" "solr.get_url" standard.getUrl
  let postUrl ← t.string "post_url" "solr.post_url" standard.postUrl
  let timeout ← match seconds with
    | none => .ok .null
    | some s => s.toFloat.map .float
  let userAgent ← t.string "user_agent" "solr.user_agent" standard.userAgent
  check { getUrl, postUrl, timeout, userAgent }

end Endpoint

namespace Settings

def read (settings : Table) : Except SettingsError Settings := do
  let log ← LogSettings.read settings
  let solr ← Endpoint.read settings
  return { log, solr }

end Settings

end SolrRequest
