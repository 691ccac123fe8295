import SolrRequest.Proofs.Settings.Nesting
import SolrRequest.Proofs.Settings.Overlay

/-!
# The last value of each setting

Settings are read from layers as from one table with the last value of each setting, taken from the
layers above the last one in which the part of the setting is null. By induction on the layers, the
merged table tells these values. Only layers that go too deep to be joined are not read.
-/

namespace SolrRequest

namespace Settings

variable {m t entries : Table} {tables : List Table} {part : String}

/-- The value of the last table that has the key in the part. -/
def lastGiven (tables : List Table) (part key : String) : Option Value :=
  tables.reverse.findSome? fun t => t.inPart? part key

/-- The value of the last table that has the key in the part, above the tables in which the part is
null. -/
def lastStanding (tables : List Table) (part key : String) : Option Value :=
  (tables.reverse.takeWhile fun t => !t.isNull part).findSome? fun t => t.inPart? part key

theorem lastStanding_append (tables : List Table) (t : Table) (part key : String) :
    lastStanding (tables ++ [t]) part key =
      if t.isNull part then none else (t.inPart? part key).or (lastStanding tables part key) := by
  rw [lastStanding, List.reverse_append, List.reverse_singleton, List.singleton_append,
    List.takeWhile_cons]
  cases t.isNull part with
  | true => rfl
  | false =>
    rw [Bool.not_false, if_pos rfl, List.findSome?_cons, if_neg Bool.false_ne_true]
    cases t.inPart? part key <;> rfl

theorem lastStanding_eq_lastGiven {tables : List Table} {part : String}
    (noNull : ∀ t ∈ tables, t.isNull part = false) (key : String) :
    lastStanding tables part key = lastGiven tables part key := by
  have all : tables.reverse.takeWhile (fun t => !t.isNull part) = tables.reverse := by
    have kept : ∀ t ∈ tables.reverse, (!t.isNull part) = true := by
      intro t membership
      rw [noNull t (List.mem_reverse.mp membership)]
      rfl
    simpa using @List.takeWhile_append_of_pos _ _ _ [] kept
  rw [lastStanding, lastGiven, all]

/-- The part of the merged table tells the settings that stand in the tables. -/
def Tells (m : Table) (tables : List Table) (part : String) : Prop :=
  ∃ entries, m.part part = .ok entries ∧
    ∀ key, entries.setting? key = (lastStanding tables part key).map Value.flat

theorem Tells.step (told : Tells m tables part) (distinct : Entries.HasDistinctTexts t)
    (isPart : t.part part = .ok entries) : Tells (m.overlay t) (tables ++ [t]) part := by
  obtain ⟨below, lower, settings⟩ := told
  obtain ⟨e, joined, both⟩ := Table.part_overlay distinct isPart lower
  refine ⟨e, joined, ?_⟩
  intro key
  rw [both, settings, lastStanding_append, Table.inPart?, isPart]
  split
  · rfl
  · exact Option.map_or.symm

theorem tells_foldl {later : List Table}
    (distinct : ∀ t ∈ later, Entries.HasDistinctTexts t)
    (parts : ∀ t ∈ later, ∃ entries, t.part part = .ok entries) (told : Tells m tables part) :
    Tells (later.foldl Table.overlay m) (tables ++ later) part := by
  induction later generalizing m tables with
  | nil => rwa [List.append_nil]
  | cons t later inductionHypothesis =>
    obtain ⟨distinctFirst, distinctLater⟩ := List.forall_mem_cons.mp distinct
    obtain ⟨⟨entries, isPart⟩, partsLater⟩ := List.forall_mem_cons.mp parts
    rw [← List.singleton_append, ← List.append_assoc]
    exact inductionHypothesis distinctLater partsLater (told.step distinctFirst isPart)

theorem tells_empty (part : String) : Tells [] [] part :=
  ⟨[], rfl, fun _ => rfl⟩

theorem read_foldl_eq (distinct : ∀ t ∈ tables, Entries.HasDistinctTexts t)
    (parts : ∀ t ∈ tables, ∀ part ∈ keys, ∃ entries, t.part part.1 = .ok entries) :
    read (tables.foldl Table.overlay []) = read (ofValues (lastStanding tables)) := by
  apply read_congr
  intro part isPart
  obtain ⟨entries, isEntries, settings⟩ :=
    tells_foldl distinct (fun t member => parts t member part isPart) (tells_empty part.1)
  refine ⟨entries, _, isEntries, part_ofValues (lastStanding tables) isPart, ?_⟩
  intro key isKey
  rw [settings, Table.setting?, get?_filterMap, if_pos isKey, List.nil_append]

theorem ofValues_congr {value? other? : String → String → Option Value}
    (same : ∀ part ∈ keys, ∀ key, value? part.1 key = other? part.1 key) :
    ofValues value? = ofValues other? := by
  apply List.map_congr_left
  intro part isPart
  rw [funext (same part isPart)]

/-- Layers whose parts are missing, null or tables are read as one table with the value of each
setting from the last layer that has it, above the last one in which its part is null, unless the
layers go too deep to be joined. -/
theorem load_eq_read_last (reader : LayerReader) (sound : reader.IsSound) (layers : List Layer)
    (tables : List Table)
    (given : List.Forall₂ (fun l t => l.table reader = .ok t) layers tables)
    (parts : ∀ t ∈ tables, ∀ part ∈ keys, ∃ entries, t.part part.1 = .ok entries) :
    ((∀ t ∈ tables, t.depth ≤ reader.limit) →
      load reader layers = (read (ofValues (lastStanding tables))).mapError .settings ∧
        ((∀ t ∈ tables, ∀ part ∈ keys, t.isNull part.1 = false) →
          load reader layers = (read (ofValues (lastGiven tables))).mapError .settings)) ∧
      (load reader layers = (read (ofValues (lastStanding tables))).mapError .settings ∨
        load reader layers = .error .tooDeep) := by
  have same := read_foldl_eq (hasDistinctTexts_of_layers sound given) parts
  have loaded {m : Table} (overlaid : overlayAll reader [] layers = .ok m) :
      load reader layers = (read m).mapError .settings := by
    rw [load, overlaid]
    rfl
  constructor
  · intro shallow
    have standing := loaded (overlayAll_eq_ok given shallow [])
    rw [same] at standing
    refine ⟨standing, fun noNull => ?_⟩
    rw [standing, ofValues_congr]
    intro part isPart
    exact lastStanding_eq_lastGiven fun t member => noNull t member part isPart
  · rcases overlayAll_eq given [] with overlaid | tooDeep
    · left
      rw [loaded overlaid, same]
    · right
      rw [load, tooDeep]
      rfl

end Settings

/-! ## Layers of texts -/

namespace Value

mutual

/-- Compares values that are made of texts and tables alone. -/
def isSame : Value → Value → Bool
  | null, null => true
  | text s, text t => s == t
  | dict entries, dict others => areSame entries others
  | _, _ => false

def areSame : Table → Table → Bool
  | [], [] => true
  | (k, v) :: entries, (l, w) :: others => isSame k l && isSame v w && areSame entries others
  | _, _ => false

end

mutual

theorem eq_of_isSame : (v w : Value) → isSame v w = true → v = w
  | null, null, _ => rfl
  | text _, text _, same => congrArg text (eq_of_beq same)
  | dict entries, dict others, same => congrArg dict (eq_of_areSame entries others same)

theorem eq_of_areSame : (t u : Table) → areSame t u = true → t = u
  | [], [], _ => rfl
  | (k, v) :: entries, (l, w) :: others, same => by
    simp only [areSame, Bool.and_eq_true] at same
    rw [eq_of_isSame k l same.1.1, eq_of_isSame v w same.1.2, eq_of_areSame entries others same.2]

end

end Value

namespace Layer

def ofAscii (name text : String) : Layer :=
  ⟨name, some (text.toList.map fun c => c.toNat.toUInt8)⟩

def holds (reader : LayerReader) (l : Layer) (t : Table) : Bool :=
  match l.table reader with
  | .ok u => Value.areSame u t
  | .error _ => false

theorem table_eq_of_holds {reader : LayerReader} {l : Layer} {t : Table}
    (same : l.holds reader t = true) : l.table reader = .ok t := by
  unfold holds at same
  split at same
  · next u table => rw [table, Value.eq_of_areSame u t same]
  · cases same

end Layer

namespace Settings

/-- A layer that gives a level, and no time after which a request ends. -/
def debugLayer : Layer :=
  .ofAscii "default.yml" "log:\n  level: DEBUG\nsolr:\n  timeout: null\n"

def debugTable : Table :=
  [(.text "log", .dict [(.text "level", .text "DEBUG")]),
    (.text "solr", .dict [(.text "timeout", .null)])]

/-- A layer with a part in which nothing is left but a comment. -/
def commentLayer : Layer :=
  .ofAscii "site.yml" "log:\n  # level: INFO\n"

def commentTable : Table :=
  [(.text "log", .null)]

theorem table_debugLayer : debugLayer.table (.standard 500) = .ok debugTable :=
  Layer.table_eq_of_holds (by decide +kernel)

theorem table_commentLayer : commentLayer.table (.standard 500) = .ok commentTable :=
  Layer.table_eq_of_holds (by decide +kernel)

/-- What stands above the comment is read. -/
theorem load_eq_read_last_aboveComment :
    let reader := LayerReader.standard 500
    let layers := [commentLayer, debugLayer]
    let tables := [commentTable, debugTable]
    reader.IsSound ∧ List.Forall₂ (fun l t => l.table reader = .ok t) layers tables ∧
      (∀ t ∈ tables, ∀ part ∈ keys, ∃ entries, t.part part.1 = .ok entries) ∧
      (∀ t ∈ tables, t.depth ≤ reader.limit) ∧
      lastStanding tables "log" "level" = some (.text "DEBUG") ∧
      load reader layers = (read (ofValues (lastStanding tables))).mapError .settings := by
  intro reader layers tables
  have sound : reader.IsSound := LayerReader.isSound_standard _
  have given : List.Forall₂ (fun l t => l.table reader = .ok t) layers tables :=
    .cons table_commentLayer (.cons table_debugLayer .nil)
  have parts : ∀ t ∈ tables, ∀ part ∈ keys, ∃ entries, t.part part.1 = .ok entries := by
    simp only [tables, keys, List.forall_mem_cons, List.not_mem_nil, false_imp_iff, implies_true,
      and_true]
    exact ⟨⟨⟨_, rfl⟩, ⟨_, rfl⟩⟩, ⟨_, rfl⟩, ⟨_, rfl⟩⟩
  have shallow : ∀ t ∈ tables, t.depth ≤ reader.limit := by decide
  exact ⟨sound, given, parts, shallow, rfl,
    ((load_eq_read_last reader sound layers tables given parts).1 shallow).1⟩

/-- What stands below the comment is lost, though the layer of the comment names no setting. -/
theorem load_loses_belowComment :
    let reader := LayerReader.standard 500
    let layers := [debugLayer, commentLayer]
    let tables := [debugTable, commentTable]
    List.Forall₂ (fun l t => l.table reader = .ok t) layers tables ∧
      (read (ofValues (lastGiven tables))).toOption.map (fun s => s.log.level) = some .debug ∧
      (load reader layers).toOption.map (fun s => s.log.level) = some .info := by
  intro reader layers tables
  refine ⟨.cons table_debugLayer (.cons table_commentLayer .nil), ?_, ?_⟩
  · decide +kernel
  · decide +kernel

end Settings

end SolrRequest
