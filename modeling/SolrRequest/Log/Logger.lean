import SolrRequest.Calendar.DateTime
import SolrRequest.Log
import SolrRequest.Settings
import SolrRequest.Text.Capital
import SolrRequest.Text.CodePoint
import SolrRequest.Text.Quoted

/-!
# The logger

A logger passes the records that reach its level on to its handlers, and a handler writes those that
reach the level of the handler, each in the format of the handler. Setting the logger up replaces
its handlers: one for the stream, and one for a file where that is wanted. The stream takes any
text, but the file is in UTF-8 and leaves out a text that cannot be encoded.
-/

namespace SolrRequest

/-- A record with the number of its level, and the second of universal time since 1970 in which it
was made. -/
structure LogEntry where
  level : Int
  message : CodeText
  second : Int
deriving DecidableEq

namespace LogEntry

/-- Four letters for a level. One without a name has the first letters of its number's text. -/
def label (level : Int) : String :=
  if level = 10 then "DEBG"
  else if level = 20 then "INFO"
  else if level = 30 then "WARN"
  else if level = 40 ∨ level = 50 then "ERRO"
  else if level = 0 then "NOTS"
  else "Leve"

/-- Month, day and time; the calendar repeats after four hundred years. -/
def stamp (second : Int) : String :=
  let day := (second.fdiv 86400 + 719162).fmod 146097
  let t := TimeOfDay.ofMicros ((second.fmod 86400).toNat * 1000000)
  let date := match Date.ofDayNumber? (day + 1) with
    | some d => Integer.padded 2 d.month ++ "-" ++ Integer.padded 2 d.day
    | none => ""
  date ++ " " ++ Integer.padded 2 t.hour ++ ":" ++ Integer.padded 2 t.minute ++ ":" ++
    Integer.padded 2 t.second

end LogEntry

inductive LogPart
  | time
  | label
  | message
  | plain (s : String)
deriving DecidableEq

def LogPart.text (e : LogEntry) : LogPart → CodeText
  | time => .ofString (LogEntry.stamp e.second)
  | label => .ofString (LogEntry.label e.level)
  | message => e.message
  | plain s => .ofString s

inductive LogTarget
  | stream
  | file (path : String)
deriving DecidableEq

structure Handler where
  target : LogTarget
  level : Int
  format : List LogPart
deriving DecidableEq

namespace Handler

def text (h : Handler) (e : LogEntry) : CodeText :=
  h.format.flatMap (·.text e)

/-- Whether the target takes the text of an entry. -/
def takes (h : Handler) (e : LogEntry) : Bool :=
  match h.target with
  | .stream => true
  | .file _ => (h.text e).isEncodable

end Handler

structure Logger where
  level : Int
  handlers : List Handler

inductive LogError
  /-- The text that stands for a level is none. -/
  | unknownLevel (text : String)
  /-- What stands for a level is neither a number nor a text; it is told as it is written. -/
  | noLevel (written : String)
deriving DecidableEq

def LogError.message : LogError → String
  | unknownLevel text => "Unknown level: " ++ Text.quoted text
  | noLevel written => "Level not an integer or a valid string: " ++ written

structure LogOptions where
  level : String
  toFile : Bool
  directory : String
deriving DecidableEq

namespace LogOptions

def standard : LogOptions := { level := "INFO", toFile := false, directory := "log" }

def ofSettings (s : LogSettings) : LogOptions :=
  { level := s.level.name, toFile := s.toFile, directory := s.directory }

/-- Loaded options take the place of all others. -/
def choose (loaded : Option LogOptions) (given : LogOptions) : LogOptions :=
  loaded.getD given

def levels : List (String × Int) := [
  ("DEBUG", 10), ("INFO", 20), ("WARN", 30), ("WARNING", 30), ("ERROR", 40), ("FATAL", 50),
  ("CRITICAL", 50), ("NOTSET", 0)]

/-- The text of the plain line format, which has a name like a level but is none. -/
def plainFormat : String := "%(levelname)s:%(name)s:%(message)s"

/-- The table of the styles of line formats, which has such a name too. -/
def formatStyles : String :=
  "\x7b'%': (<class 'logging.PercentStyle'>, '%(levelname)s:%(name)s:%(message)s'), " ++
    "'\x7b': (<class 'logging.StrFormatStyle'>, " ++
    "'\x7blevelname\x7d:\x7bname\x7d:\x7bmessage\x7d'), " ++
    "'$': (<class 'logging.StringTemplateStyle'>, " ++
    "'$\x7blevelname\x7d:$\x7bname\x7d:$\x7bmessage\x7d')\x7d"

/-- The level with a name in any case; an empty or unknown name stands for `INFO`. -/
def threshold (o : LogOptions) : Except LogError Int :=
  match Text.upper o.level with
  | "BASIC_FORMAT" => .error (.unknownLevel plainFormat)
  | "_STYLES" => .error (.noLevel formatStyles)
  | name => .ok ((levels.lookup name).getD 20)

/-- The parts of a path, without those that have no effect. -/
def pathParts (path : String) : List String :=
  (path.splitOn "/").foldl (fun parts part =>
    if part == "" || part == "." then parts
    else if part == ".." then
      match parts.getLast? with
      | none => [".."]
      | some ".." => parts ++ [".."]
      | some _ => parts.dropLast
    else parts ++ [part]) []

def fileName : String := "solr_<timestamp>.log"

/-- The log file; an empty directory stands for `log`. -/
def path (o : LogOptions) : String :=
  let directory := if o.directory.isEmpty then "log" else o.directory
  let root := if directory.startsWith "/" then "/" else ""
  root ++ "/".intercalate (pathParts directory ++ [fileName])

end LogOptions

namespace Logger

def lowest : Int := 10

def lineFormat : List LogPart := [.time, .plain " [", .label, .plain "] ", .message]

def streamHandler (threshold : Int) : Handler := ⟨.stream, threshold, lineFormat⟩

def fileHandler (path : String) : Handler := ⟨.file path, lowest, lineFormat⟩

/-- What records are to be written to: the stream, and a file if one is wanted. -/
def handlersFor (o : LogOptions) (threshold : Int) : List Handler :=
  streamHandler threshold :: if o.toFile then [fileHandler o.path] else []

def clear (l : Logger) : Logger := { l with handlers := [] }

def attach (l : Logger) (h : Handler) : Logger := { l with handlers := l.handlers ++ [h] }

/-- Replaces the handlers, and takes a level that is above that of none of them. -/
def setUp (l : Logger) (o : LogOptions) : Except LogError Logger := do
  let threshold ← o.threshold
  return { (handlersFor o threshold).foldl attach l.clear with level := min lowest threshold }

/-- A logger without a level has that of its parent, which takes warnings. -/
def effectiveLevel (l : Logger) : Int :=
  if l.level = 0 then 30 else l.level

def enabled (l : Logger) (e : LogEntry) : Bool :=
  l.effectiveLevel ≤ e.level

def written (l : Logger) (h : Handler) (entries : List LogEntry) : List LogEntry :=
  entries.filter fun e => l.enabled e && h.level ≤ e.level && h.takes e

/-- What is written on a target: for every entry in turn, each handler that writes it there. -/
def writings (l : Logger) (target : LogTarget) (entries : List LogEntry) :
    List (Handler × LogEntry) :=
  entries.flatMap fun e =>
    (l.handlers.filter (·.target = target)).flatMap fun h => (l.written h [e]).map (h, ·)

def output (l : Logger) (target : LogTarget) (entries : List LogEntry) : List LogEntry :=
  (l.writings target entries).map Prod.snd

def texts (l : Logger) (target : LogTarget) (entries : List LogEntry) : List CodeText :=
  (l.writings target entries).map fun w => w.1.text w.2

end Logger

end SolrRequest
