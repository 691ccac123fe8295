import SolrRequest.DateFormat.Reading
import SolrRequest.DateFormat.Writing
import SolrRequest.Host
import SolrRequest.Log
import SolrRequest.Value.Text

/-!
# Dates as values

A value denotes a date if it is one, if it is a number of milliseconds since 1970, or if it is a
text that fits a format; a text that does not fit is tried as a free-form date. A date that was read
is written again in a format and on the clock of a zone.
-/

namespace SolrRequest

namespace DateError

/-- Faults that are not taken for a text without a date. -/
def escapes : DateError → Bool
  | yearTooLarge => true
  | _ => false

end DateError

namespace DateText

def ofNumber? : Value → Option DateTime
  | .int n => (DateTime.ofEpochMillis n).toOption
  | .float x => (Double.ofFloat? x).bind fun d => (DateTime.ofEpochSeconds (d.divNat 1000)).toOption
  | _ => none

/-- The date in a text without blanks at its ends. -/
def ofText (host : Host) (format text : String) : Except DateError (Option DateTime) :=
  match DateFormat.read? format text with
  | some (.ok t) => .ok (some t)
  | some (.error e) => if (host.fault e).escapes then .error (host.fault e) else .ok none
  | none => .ok (host.freeDate? text)

def read (host : Host) (format : String) (v : Value) : Except DateError (Option DateTime) :=
  match v with
  | .moment t => .ok (some t)
  | v =>
    match v.text? with
    | some s => if Text.allBlank s then .ok none else ofText host format (Text.strip s)
    | none => .ok (ofNumber? v)

/-- What reading reports: a text that fits the format without denoting a date. -/
def readReports (host : Host) (format : String) (v : Value) : List Record :=
  match v.text? with
  | none => []
  | some s =>
    let text := Text.strip s
    if Text.allBlank s then []
    else match DateFormat.read? format text with
      | some (.error e) =>
        if (host.fault e).escapes then []
        else [⟨.debug, "Date out of range: value=" ++ text ++ " format=" ++ format ++ " error=" ++
            (host.fault e).message⟩]
      | _ => []

/-- How dates are read and written. An empty zone name is none. -/
structure Style where
  input : String
  output : String
  outputZone : Option String
  inputZone : Option String

namespace Style

def zoneName? (name : Option String) : Option String :=
  name.filter fun s => !s.toList.isEmpty

def outputZone? (host : Host) (style : Style) : Option Zone :=
  (zoneName? style.outputZone).bind host.zone?

def inputZone? (host : Host) (style : Style) : Option Zone :=
  (zoneName? style.inputZone).bind host.zone?

end Style

/-- The date on the clock of the output zone, if there is one. A date that is on the clock of that
very zone, by the name `clock`, stays as it is. A local date is told by the clock of the input zone,
or else by that of the output zone. -/
def convert (host : Host) (style : Style) (clock : Option String) (t : DateTime) :
    Except DateError DateTime :=
  match style.outputZone? host with
  | none => .ok t
  | some zone =>
    match t.offset with
    | some _ => if clock == some zone.name then .ok t else t.inZone zone
    | none =>
      let told := (style.inputZone? host).getD zone
      if told.name == zone.name then .ok (t.placedIn zone) else (t.placedIn told).inZone zone

/-- A value written in a style; one that denotes no date stays as it is. -/
def render (host : Host) (style : Style) (v : Value) : Except DateError String := do
  match ← read host style.input v with
  | none => v.write.mapError .number
  | some t => DateFormat.write style.output (← convert host style (host.clock? v) t)

def renderReports (host : Host) (style : Style) (v : Value) : List Record :=
  readReports host style.input v ++
    match read host style.input v with
    | .error _ => []
    | .ok none =>
      [⟨.debug, "Unparseable date left unchanged: value=" ++ v.itemText ++ " format=" ++
          style.input⟩]
    | .ok (some _) =>
      match Style.zoneName? style.outputZone, style.outputZone? host with
      | some name, none => [⟨.warning, "Unknown output timezone ignored: " ++ name⟩]
      | _, _ => []

end DateText

end SolrRequest
