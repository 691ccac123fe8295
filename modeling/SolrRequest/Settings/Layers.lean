import SolrRequest.Settings
import SolrRequest.Text.Utf8
import SolrRequest.Yaml.Error

/-!
# Layers of settings

Settings are read from layers, each laid over those before it: tables are joined key by key, and any
other value takes the place of the one below. A layer is a YAML text in UTF-8, or it is missing. Who
reads the texts, and how deep tables may lie in tables that are joined, is left open.
-/

namespace SolrRequest

/-- A file with settings; without contents it does not exist. -/
structure Layer where
  name : String
  octets : Option (List UInt8)

structure LayerReader where
  /-- The value of a document. One that contains itself is written out, to more levels than are
  joined. -/
  document : String → Except YamlError Value
  /-- How many levels of tables within tables are joined at most. -/
  limit : Nat

inductive LayerError
  | missing (name : String)
  | encoding (error : Text.Utf8Error)
  | yaml (error : YamlError)
  /-- The layer holds something else than a table. -/
  | noTable (name : String)
  /-- A table lies too deep to be joined with the one below it. -/
  | tooDeep
  | settings (error : SettingsError)

def LayerError.message : LayerError → String
  | missing name => "[Errno 2] No such file or directory: " ++ Text.quoted name
  | encoding error => error.message
  | yaml error => error.message
  | noTable name => name ++ ": config root must be a mapping"
  | tooDeep => "maximum recursion depth exceeded in comparison"
  | settings error => error.message

namespace Table

mutual

def overlay (base : Table) : Table → Table
  | [] => base
  | (k, v) :: r => overlay (Entries.put k (overlayValue (Entries.get? k base) v) base) r

/-- The value of a layer over the one below it. -/
def overlayValue (below : Option Value) : Value → Value
  | .dict entries =>
    match below with
    | some (.dict base) => .dict (overlay base entries)
    | _ => .dict entries
  | v => v

end

mutual

/-- How many levels of tables within tables are joined when a layer is laid over a table. -/
def nesting (base : Table) : Table → Nat
  | [] => 0
  | (k, v) :: r =>
    let below := Entries.get? k base
    max (valueNesting below v) (nesting (Entries.put k (overlayValue below v) base) r)

def valueNesting (below : Option Value) : Value → Nat
  | .dict entries =>
    match below with
    | some (.dict base) => nesting base entries + 1
    | _ => 0
  | _ => 0

end

end Table

namespace Layer

def text (l : Layer) : Except LayerError String :=
  match l.octets with
  | none => .error (.missing l.name)
  | some octets =>
    match Text.Utf8.decode octets with
    | .ok s => .ok (String.ofList (Text.unixLines s.toList))
    | .error e => .error (.encoding e)

/-- The table that a value is; what does not hold counts as an empty one. -/
def ofValue (l : Layer) (v : Value) : Except LayerError Table :=
  if v.truthy then
    match v with
    | .dict entries => .ok entries
    | _ => .error (.noTable l.name)
  else .ok []

def table (reader : LayerReader) (l : Layer) : Except LayerError Table := do
  let text ← l.text
  let v ← (reader.document text).mapError .yaml
  l.ofValue v

end Layer

namespace LayerReader

def join (reader : LayerReader) (base layer : Table) : Except LayerError Table :=
  if reader.limit < base.nesting layer then .error .tooDeep else .ok (base.overlay layer)

end LayerReader

namespace Settings

/-- The layers from the first to the last, laid over a table. -/
def overlayAll (reader : LayerReader) (base : Table) : List Layer → Except LayerError Table
  | [] => .ok base
  | l :: r => do
    let t ← l.table reader
    overlayAll reader (← reader.join base t) r

def load (reader : LayerReader) (layers : List Layer) : Except LayerError Settings := do
  let t ← overlayAll reader [] layers
  (read t).mapError .settings

end Settings

end SolrRequest
