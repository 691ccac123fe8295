import SolrRequest.Proofs.Settings.Validity

/-!
# Settings written as a table

Settings that were read are written as a table with each value under its key, and this table is read
as the same settings. Nor does it matter in which order the keys stand, or what stands under keys
that are none of the settings.
-/

namespace SolrRequest

/-- The entries of `t` in any order, among others under keys that `t` does not have. -/
def Table.Extends (t u : Table) : Prop :=
  ∃ others : Table, u.Perm (t ++ others) ∧ ∀ name ∈ Entries.texts t, name ∉ Entries.texts others

def LogSettings.toTable (log : LogSettings) : Table :=
  [(.text "level", .text log.level.name), (.text "to_file", .bool log.toFile),
    (.text "dir", .text log.directory)]

def Endpoint.toTable (e : Endpoint) : Table :=
  [(.text "get_url", .text e.getUrl), (.text "post_url", .text e.postUrl),
    (.text "timeout", e.timeout), (.text "user_agent", .text e.userAgent)]

namespace Settings

def ofParts (log solr : Table) : Table :=
  [(.text "log", .dict log), (.text "solr", .dict solr)]

def toTable (settings : Settings) : Table :=
  ofParts settings.log.toTable settings.solr.toTable

/-- The table of the settings, with its keys and those of the two parts in any order, and with any
other keys among them. -/
def IsWritten (settings : Settings) (u : Table) : Prop :=
  ∃ log solr, settings.log.toTable.Extends log ∧ settings.solr.toTable.Extends solr ∧
    (ofParts log solr).Extends u

end Settings

namespace Table

variable {t u entries : Table} {name : String}

theorem Extends.refl (t : Table) : t.Extends t :=
  ⟨[], .of_eq (List.append_nil t).symm, fun _ _ => List.not_mem_nil⟩

theorem Extends.get?_eq (larger : t.Extends u) (distinct : (Entries.texts t).Nodup)
    (known : name ∈ Entries.texts t) : u.get? name = t.get? name := by
  obtain ⟨others, perm, unknown⟩ := larger
  have text : (Value.text name).text? = some name := rfl
  have absent : Entries.get? (.text name) others = none :=
    (Entries.get?_eq_none_iff_of_text? text).mpr (unknown name known)
  have once : (Entries.texts (t ++ others)).count name ≤ 1 := by
    rw [Entries.texts, List.filterMap_append, List.count_append, ← Entries.texts, ← Entries.texts,
      List.count_eq_zero_of_not_mem (unknown name known)]
    exact List.nodup_iff_count_le_one.mp distinct name
  rw [get?, ← Entries.get?_eq_of_perm text perm.symm once, Entries.get?_append, absent,
    Option.or_none, get?]

theorem part_of_get? (given : t.get? name = some (.dict entries)) : t.part name = .ok entries :=
  part_eq_ok_iff.mpr (.inr given)

theorem string_of_get? {key s : String} (given : t.get? key = some (.text s))
    (setting absent : String) : t.string key setting absent = .ok s :=
  string_eq_ok_iff.mpr (.inr ⟨_, given, rfl⟩)

end Table

namespace LogSettings

variable {log : LogSettings} {table entries : Table}

theorem level?_name (level : Severity) : level? level.name = some level := by
  cases level <;> decide +kernel

theorem distinct_toTable (log : LogSettings) : (Entries.texts log.toTable).Nodup := by
  change ["level", "to_file", "dir"].Nodup
  decide

/-- What was read passes the checks again. -/
theorem read_of_extends (result : read table = .ok log) {u : Table}
    (isPart : u.part "log" = .ok entries)
    (written : log.toTable.Extends entries) : read u = .ok log := by
  obtain ⟨_, _, _, _, _, _, _, visible⟩ := read_eq_ok_iff.mp result
  have given {key : String} (known : key ∈ ["level", "to_file", "dir"]) :
      entries.get? key = log.toTable.get? key :=
    written.get?_eq log.distinct_toTable known
  apply read_eq_ok_iff.mpr
  refine ⟨entries, log.level.name, isPart, ?_, ?_, ?_, level?_name log.level, visible⟩
  · exact Table.string_of_get? (given (by decide)) _ _
  · rw [Table.boolean, given (by decide)]
    rfl
  · exact Table.string_of_get? (given (by decide)) _ _

end LogSettings

namespace Endpoint

variable {e : Endpoint} {table entries : Table}

theorem distinct_toTable (e : Endpoint) : (Entries.texts e.toTable).Nodup := by
  change ["get_url", "post_url", "timeout", "user_agent"].Nodup
  decide

/-- The timeout that was read stands for seconds that become this timeout. -/
theorem exists_seconds_of_timeout (result : read table = .ok e) :
    ∃ seconds, e.timeout = Seconds.written seconds ∧ timeoutOf seconds = .ok e.timeout := by
  rcases timeout_eq_of_read result with null | ⟨x, float⟩
  · exact ⟨none, null, by rw [null]; rfl⟩
  · exact ⟨some (.real x), float, by rw [float]; rfl⟩

theorem read_of_extends (result : read table = .ok e) {u : Table}
    (isPart : u.part "solr" = .ok entries)
    (written : e.toTable.Extends entries) : read u = .ok e := by
  obtain ⟨seconds, isTimeout, becomes⟩ := exists_seconds_of_timeout result
  have given {key : String} (known : key ∈ ["get_url", "post_url", "timeout", "user_agent"]) :
      entries.get? key = e.toTable.get? key :=
    written.get?_eq e.distinct_toTable known
  apply read_eq_ok_iff.mpr
  refine ⟨entries, seconds, isPart, ?_, ?_, ?_, becomes, ?_, checked_of_read result⟩
  · rw [Table.seconds_eq_ok_iff, given (by decide)]
    exact isTimeout
  · exact Table.string_of_get? (given (by decide)) _ _
  · exact Table.string_of_get? (given (by decide)) _ _
  · exact Table.string_of_get? (given (by decide)) _ _

end Endpoint

namespace Settings

variable {table u : Table} {settings : Settings}

theorem isWritten_toTable (settings : Settings) : settings.IsWritten settings.toTable :=
  ⟨_, _, .refl _, .refl _, .refl _⟩

theorem read_of_isWritten (result : read table = .ok settings) (written : settings.IsWritten u) :
    read u = .ok settings := by
  obtain ⟨log, solr, ofLog, ofSolr, parts⟩ := written
  obtain ⟨readLog, readSolr⟩ := read_eq_ok_iff.mp result
  have distinct : (Entries.texts (ofParts log solr)).Nodup := by
    change ["log", "solr"].Nodup
    decide
  have given {name : String} (known : name ∈ ["log", "solr"]) :
      u.get? name = (ofParts log solr).get? name :=
    parts.get?_eq distinct known
  apply read_eq_ok_iff.mpr
  constructor
  · exact LogSettings.read_of_extends readLog (Table.part_of_get? (given (by decide))) ofLog
  · exact Endpoint.read_of_extends readSolr (Table.part_of_get? (given (by decide))) ofSolr

/-- Settings that were read are read again from the table that is written of them, also if its keys
stand in another order and other keys among them, in the table and in its parts. -/
theorem read_toTable_of_read (table : Table) (settings : Settings)
    (result : read table = .ok settings) :
    read settings.toTable = .ok settings ∧
      ∀ u, settings.IsWritten u → read u = .ok settings :=
  ⟨read_of_isWritten result settings.isWritten_toTable, fun _ => read_of_isWritten result⟩

/-- The keys of the parts backwards, and others between them. -/
def scattered (settings : Settings) : Table :=
  [(.text "solr", .dict (settings.solr.toTable.reverse ++ [(.text "level", .int 0)])),
    (.text "logs", .list []),
    (.text "log", .dict ((.field .title, .null) :: settings.log.toTable))]

theorem isWritten_scattered (settings : Settings) : settings.IsWritten settings.scattered := by
  refine ⟨(.field .title, .null) :: settings.log.toTable,
    settings.solr.toTable.reverse ++ [(.text "level", .int 0)], ?_, ?_, ?_⟩
  · refine ⟨[(.field .title, .null)], (List.perm_append_singleton _ _).symm, ?_⟩
    change ∀ name ∈ ["level", "to_file", "dir"], name ∉ ["title"]
    decide
  · refine ⟨[(.text "level", .int 0)], (List.reverse_perm _).append_right _, ?_⟩
    change ∀ name ∈ ["get_url", "post_url", "timeout", "user_agent"], name ∉ ["level"]
    decide
  · refine ⟨[(.text "logs", .list [])], List.perm_append_singleton _ [_, _], ?_⟩
    change ∀ name ∈ ["log", "solr"], name ∉ ["logs"]
    decide

/-- A level in small letters, one of them without a dot, and a timeout that is no number. -/
theorem read_toTable_of_read_noNumber : ∃ settings,
    read (levelAndTimeout (.text "warnıng") (.float Double.nanFloat)) = .ok settings ∧
      settings.log.level.name = "WARNING" ∧ read settings.toTable = .ok settings ∧
      settings.IsWritten settings.scattered ∧ read settings.scattered = .ok settings := by
  obtain ⟨settings, result⟩ := exists_ok_of_toBool
    (x := read (levelAndTimeout (.text "warnıng") (.float Double.nanFloat))) (by decide +kernel)
  have level := LogSettings.name_of_read (read_eq_ok_iff.mp result).1
  have upper : Text.upper "warnıng" = "WARNING" := by decide +kernel
  obtain ⟨again, otherwise⟩ := read_toTable_of_read _ settings result
  exact ⟨settings, result, level.trans upper, again, settings.isWritten_scattered,
    otherwise _ settings.isWritten_scattered⟩

end Settings

end SolrRequest
