import SolrRequest.Proofs.Entries.Texts
import SolrRequest.Settings

/-!
# What is read of a table

Settings depend on a table by the values of their keys alone. No setting is a table, so that of a
table under a key it only counts that it is one.
-/

namespace SolrRequest

namespace Value

/-- A value as the settings see it: a table is none of their kinds, whatever it holds. -/
def flat : Value → Value
  | dict _ => dict []
  | v => v

theorem eq_or_dict_of_flat_eq {v w : Value} (same : v.flat = w.flat) :
    v = w ∨ ∃ e f, v = dict e ∧ w = dict f := by
  cases v with
  | dict e =>
    cases w with
    | dict f => exact .inr ⟨e, f, rfl, rfl⟩
    | _ => cases same
  | _ =>
    cases w with
    | dict f => cases same
    | _ => exact .inl same

end Value

/-- The value that stands for a number of seconds, or for none. -/
def Seconds.written : Option Seconds → Value
  | none => .null
  | some (.whole n) => .int n
  | some (.real x) => .float x

namespace Table

variable {t u entries : Table} {name key : String}

def setting? (t : Table) (key : String) : Option Value :=
  (t.get? key).map Value.flat

theorem eq_or_dict_of_setting?_eq (same : t.setting? key = u.setting? key) :
    t.get? key = u.get? key ∨
      ∃ e f, t.get? key = some (.dict e) ∧ u.get? key = some (.dict f) := by
  rw [setting?, setting?] at same
  cases ofT : t.get? key with
  | none =>
    rw [ofT, Option.map_none, eq_comm, Option.map_eq_none_iff] at same
    exact .inl same.symm
  | some v =>
    rw [ofT, Option.map_some, eq_comm, Option.map_eq_some_iff] at same
    obtain ⟨w, ofU, seen⟩ := same
    rw [ofU]
    rcases Value.eq_or_dict_of_flat_eq seen with rfl | ⟨e, f, rfl, rfl⟩
    · exact .inl rfl
    · exact .inr ⟨f, e, rfl, rfl⟩

theorem string_congr (same : t.setting? key = u.setting? key) (setting absent : String) :
    t.string key setting absent = u.string key setting absent := by
  rw [string, string]
  rcases eq_or_dict_of_setting?_eq same with equal | ⟨e, f, ofT, ofU⟩
  · rw [equal]
  · rw [ofT, ofU]
    rfl

theorem boolean_congr (same : t.setting? key = u.setting? key) (setting : String) (absent : Bool) :
    t.boolean key setting absent = u.boolean key setting absent := by
  rw [boolean, boolean]
  rcases eq_or_dict_of_setting?_eq same with equal | ⟨e, f, ofT, ofU⟩
  · rw [equal]
  · rw [ofT, ofU]

theorem seconds_congr (same : t.setting? key = u.setting? key) (setting : String) (absent : Value) :
    t.seconds key setting absent = u.seconds key setting absent := by
  rw [seconds, seconds]
  rcases eq_or_dict_of_setting?_eq same with equal | ⟨e, f, ofT, ofU⟩
  · rw [equal]
  · rw [ofT, ofU]
    rfl

theorem part_eq_ok_iff : t.part name = .ok entries ↔
    (t.get? name = none ∨ t.get? name = some .null) ∧ entries = [] ∨
      t.get? name = some (.dict entries) := by
  rw [part]
  cases t.get? name with
  | none => simp [eq_comm]
  | some v => cases v <;> simp [eq_comm]

/-- A part is the same in both tables, but for what is no setting in it. -/
def AgreeOn (t u : Table) (part : String) (keys : List String) : Prop :=
  t.part part = u.part part ∨ ∃ a b, t.part part = .ok a ∧ u.part part = .ok b ∧
    ∀ key ∈ keys, a.setting? key = b.setting? key

def inPart? (t : Table) (part key : String) : Option Value :=
  (t.part part).toOption.bind fun entries => entries.get? key

theorem inPart?_of_part (isPart : t.part name = .ok entries) (key : String) :
    t.inPart? name key = entries.get? key := by
  rw [inPart?, isPart]
  rfl

theorem inPart?_eq_some_iff {v : Value} : t.inPart? name key = some v ↔
    ∃ entries, t.part name = .ok entries ∧ entries.get? key = some v := by
  rw [inPart?]
  cases t.part name <;> simp [Except.toOption]

theorem string_eq_ok_iff {setting absent s : String} : t.string key setting absent = .ok s ↔
    t.get? key = none ∧ s = absent ∨ ∃ v, t.get? key = some v ∧ v.text? = some s := by
  rw [string]
  cases t.get? key with
  | none => simp [eq_comm]
  | some v => cases text : v.text? <;> simp [text]

theorem seconds_eq_ok_iff {setting : String} {absent : Value} {given : Option Seconds} :
    t.seconds key setting absent = .ok given ↔
      (t.get? key).getD absent = Seconds.written given := by
  rw [seconds]
  constructor
  · intro result
    split at result <;> cases result <;> assumption
  · intro value
    rw [value]
    rcases given with _ | n | x <;> rfl

end Table

namespace Settings

def keys : List (String × List String) := [
  ("log", ["level", "to_file", "dir"]),
  ("solr", ["get_url", "post_url", "timeout", "user_agent"])]

/-- Settings depend on the parts, and on a part that is a table by its settings. -/
theorem read_congr_of_agreeOn {t u : Table}
    (agree : ∀ part ∈ keys, t.AgreeOn u part.1 part.2) : read t = read u := by
  simp only [keys, List.forall_mem_cons, List.not_mem_nil, false_imp_iff, implies_true,
    and_true] at agree
  obtain ⟨inLog, inSolr⟩ := agree
  have log : LogSettings.read t = LogSettings.read u := by
    rcases inLog with equal | ⟨a, b, ofT, ofU, same⟩
    · rw [LogSettings.read, LogSettings.read, equal]
    · simp only [List.forall_mem_cons, List.not_mem_nil, false_imp_iff, implies_true,
        and_true] at same
      obtain ⟨level, toFile, dir⟩ := same
      simp only [LogSettings.read, ofT, ofU, Except.bind, bind, Table.string_congr level,
        Table.boolean_congr toFile, Table.string_congr dir]
  have solr : Endpoint.read t = Endpoint.read u := by
    rcases inSolr with equal | ⟨a, b, ofT, ofU, same⟩
    · rw [Endpoint.read, Endpoint.read, equal]
    · simp only [List.forall_mem_cons, List.not_mem_nil, false_imp_iff, implies_true,
        and_true] at same
      obtain ⟨getUrl, postUrl, timeout, userAgent⟩ := same
      simp only [Endpoint.read, ofT, ofU, Except.bind, bind, Table.seconds_congr timeout,
        Table.string_congr getUrl, Table.string_congr postUrl, Table.string_congr userAgent]
  rw [read, read, log, solr]

theorem read_congr {t u : Table} (same : ∀ part ∈ keys, ∃ a b, t.part part.1 = .ok a ∧
    u.part part.1 = .ok b ∧ ∀ key ∈ part.2, a.setting? key = b.setting? key) :
    read t = read u :=
  read_congr_of_agreeOn fun part isPart => .inr (same part isPart)

def ofValues (value? : String → String → Option Value) : Table :=
  keys.map fun part => (.text part.1, .dict (part.2.filterMap fun key =>
    (value? part.1 key).map fun v => (.text key, v)))

theorem get?_filterMap (value? : String → Option Value) (names : List String) (key : String) :
    Table.get? (names.filterMap fun name => (value? name).map fun v => (.text name, v)) key =
      if key ∈ names then value? key else none := by
  have text : (Value.text key).text? = some key := rfl
  induction names with
  | nil => rfl
  | cons name names inductionHypothesis =>
    rw [Table.get?] at inductionHypothesis ⊢
    rw [List.filterMap_cons]
    cases value : value? name with
    | none =>
      by_cases same : key = name
      · subst same
        simp [inductionHypothesis, value]
      · simp [inductionHypothesis, same]
    | some v =>
      by_cases same : key = name
      · subst same
        simp [Entries.get?_cons_of_text? text, text, value]
      · simp [Entries.get?_cons_of_text? text, Value.text?, inductionHypothesis, same, Ne.symm same]

theorem part_ofValues (value? : String → String → Option Value) {part : String × List String}
    (isPart : part ∈ keys) : (ofValues value?).part part.1 = .ok (part.2.filterMap fun key =>
      (value? part.1 key).map fun v => (.text key, v)) := by
  simp only [keys, List.mem_cons, List.not_mem_nil, or_false] at isPart
  rcases isPart with rfl | rfl <;> rfl

end Settings

end SolrRequest
