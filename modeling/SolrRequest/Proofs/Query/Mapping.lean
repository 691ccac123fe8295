import SolrRequest.Proofs.Entries.Keys
import SolrRequest.Proofs.Query.Step

/-!
# The field mapping of a run

Accepted calls give entries, one each or a whole table. Each source stands in the mapping where it
was first accepted, with the destination that it was given last. What is kept of a destination is
plain: one text, or the texts of a list or tuple, and none of them is blank.
-/

namespace SolrRequest

open Entries

namespace Destination

/-- A text as one name, a list or tuple as the texts of its items. -/
def ofValue : Value → Destination
  | .list items => many (items.map Value.toText)
  | .tuple items => many (items.map Value.toText)
  | v => one v.toText

/-- Fields can be copied there: one name, or at least one of several, and none is blank. -/
def IsUsable : Destination → Prop
  | one name => Text.allBlank name = false
  | many names => names ≠ [] ∧ ∀ name ∈ names, Text.allBlank name = false

end Destination

namespace Value

theorem ofValue_of_text? {v : Value} {s : String} (text : v.text? = some s) :
    Destination.ofValue v = .one s := by
  cases v with
  | text _ | field _ =>
    cases text
    rfl
  | _ => cases text

theorem ofValue_of_words? {v : Value} {names : List String} (words : v.words? = some names) :
    Destination.ofValue v = .many names ∧ (Destination.many names).IsUsable := by
  obtain ⟨items, isList, passed⟩ := Option.bind_eq_some_iff.mp words
  have plain : names = items.map toText :=
    eq_map_of_mapM (fun _ _ word => toText_of_text? (word?_eq_some_iff.mp word).1) passed
  have usable : ∀ name ∈ names, Text.allBlank name = false :=
    forall_of_mapM (fun _ _ word => (word?_eq_some_iff.mp word).2) passed
  cases v with
  | list all | tuple all =>
    cases all with
    | nil => cases isList
    | cons first rest =>
      obtain rfl : first :: rest = items := Option.some.inj isList
      refine ⟨congrArg Destination.many plain.symm, ?_, usable⟩
      simp [plain]
  | _ => cases isList

theorem ofValue_of_destination? {v : Value} {d : Destination} (kept : v.destination? = some d) :
    Destination.ofValue v = d ∧ d.IsUsable := by
  rcases Option.or_eq_some_iff.mp kept with one | ⟨_, many⟩
  · obtain ⟨s, word, rfl⟩ := Option.map_eq_some_iff.mp one
    obtain ⟨text, notBlank⟩ := word?_eq_some_iff.mp word
    exact ⟨ofValue_of_text? text, notBlank⟩
  · obtain ⟨names, words, rfl⟩ := Option.map_eq_some_iff.mp many
    exact ofValue_of_words? words

end Value

/-- An entry of a mapping that serves: its source is not blank, and its destination is usable. -/
def IsEntry (e : String × Destination) : Prop :=
  Text.allBlank e.1 = false ∧ e.2.IsUsable

namespace Call

/-- The entries of a field mapping that a call gives, as they are. -/
def given : Call → List (Value × Value)
  | addFieldMapping source destination => [(source, destination)]
  | addFieldMappingTable (.dict entries) => entries
  | _ => []

/-- The entries that the accepted calls give, in order. -/
def givenEntries (calls : List Call) : List (Value × Value) :=
  (calls.filter accepts).flatMap given

/-- An entry in the form in which it is kept. -/
def plain (e : Value × Value) : String × Destination :=
  (e.1.toText, .ofValue e.2)

theorem plain_eq {e : Value × Value} {s : String} {d : Destination} (word : e.1.word? = some s)
    (kept : e.2.destination? = some d) : plain e = (s, d) ∧ IsEntry (s, d) := by
  obtain ⟨text, notBlank⟩ := Value.word?_eq_some_iff.mp word
  obtain ⟨same, usable⟩ := Value.ofValue_of_destination? kept
  exact ⟨Prod.ext (Value.toText_of_text? text) same, notBlank, usable⟩

theorem entries_of_mapping? {table : Value} {entries : FieldMapping}
    (mapped : table.mapping? = some entries) :
    entries = (given (addFieldMappingTable table)).map plain ∧ ∀ e ∈ entries, IsEntry e := by
  cases table with
  | dict all =>
    cases all with
    | nil => cases mapped
    | cons first rest =>
      rw [Value.mapping?_cons] at mapped
      have each : ∀ (e : Value × Value) (kept : String × Destination),
          ((e.1.word?.map fun s => (s, e.2)).bind fun t =>
            t.2.destination?.map fun d => (t.1, d)) = some kept →
        plain e = kept ∧ IsEntry kept := by
        intro e kept result
        simp only [Option.bind_eq_some_iff, Option.map_eq_some_iff] at result
        obtain ⟨_, ⟨s, word, rfl⟩, d, kept, rfl⟩ := result
        exact plain_eq word kept
      exact ⟨eq_map_of_mapM (fun e kept result => (each e kept result).1) mapped,
        forall_of_mapM (fun e kept result => (each e kept result).2) mapped⟩
  | _ => cases mapped

/-- The edit of an accepted call has the entries that the call gives. -/
theorem entries_of_edit? {c : Call} {e : Edit} (edit : c.edit? = some e) :
    e.entries = c.given.map plain ∧ ∀ entry ∈ e.entries, IsEntry entry := by
  cases c with
  | addFieldMapping source destination =>
    simp only [edit?, Option.bind_eq_bind, Option.bind_eq_some_iff, Option.pure_def,
      Option.some.injEq] at edit
    obtain ⟨s, word, d, kept, rfl⟩ := edit
    obtain ⟨same, isEntry⟩ := plain_eq (e := (source, destination)) word kept
    exact ⟨congrArg ([·]) same.symm, List.forall_mem_singleton.mpr isEntry⟩
  | addFieldMappingTable table =>
    obtain ⟨entries, mapped, rfl⟩ := Option.map_eq_some_iff.mp edit
    exact entries_of_mapping? mapped
  | switchToPost | restrictByRoles =>
    cases edit
    exact ⟨rfl, List.forall_mem_nil _⟩
  | query | filter | fields | sort | start | limit =>
    obtain ⟨_, _, rfl⟩ := Option.map_eq_some_iff.mp edit
    exact ⟨rfl, List.forall_mem_nil _⟩

theorem givenEntries_cons_of_edit? {c : Call} {e : Edit} (edit : c.edit? = some e)
    (calls : List Call) : givenEntries (c :: calls) = c.given ++ givenEntries calls := by
  simp [givenEntries, accepts_of_edit? edit]

theorem givenEntries_cons_of_refused {c : Call} (refused : c.edit? = none) (calls : List Call) :
    givenEntries (c :: calls) = givenEntries calls := by
  simp [givenEntries, c.edit?_eq_none_iff.mp refused]

theorem isEntry_plain {calls : List Call} {e : Value × Value} (isGiven : e ∈ givenEntries calls) :
    IsEntry (plain e) := by
  obtain ⟨c, accepted, member⟩ := List.mem_flatMap.mp isGiven
  obtain ⟨edit, denoted⟩ := exists_edit? (List.of_mem_filter accepted)
  obtain ⟨same, areEntries⟩ := entries_of_edit? denoted
  apply areEntries
  rw [same]
  exact List.mem_map_of_mem member

end Call

namespace Query

/-- A call writes the entries of its edit. One that fails has none, as it has a number. -/
theorem after_mapping (q : Query) (c : Call) :
    (q.after c).mapping = putAll q.mapping ((c.edit?.map Edit.entries).getD []) := by
  rcases q.after_cases c with ⟨edit, after⟩ | ⟨e, edit, ⟨_, after⟩ | ⟨unwritable, _, after⟩⟩
  · rw [after, edit]
    rfl
  · rw [after, edit]
    rfl
  · have noEntries : e.entries = [] := by
      cases e with
      | map entries => exact absurd trivial unwritable
      | _ => rfl
    simp [after, edit, noEntries]

theorem mapping_run (q : Query) (calls : List Call) :
    (q.run calls).mapping = putAll q.mapping ((Call.givenEntries calls).map Call.plain) := by
  induction calls generalizing q with
  | nil => rfl
  | cons c calls inductionHypothesis =>
    rw [run, List.foldl_cons, ← run, inductionHypothesis, after_mapping]
    cases edit : c.edit? with
    | none =>
      rw [Call.givenEntries_cons_of_refused edit]
      rfl
    | some e =>
      rw [Call.givenEntries_cons_of_edit? edit, List.map_append, putAll_append,
        ← (Call.entries_of_edit? edit).1]
      rfl

/-- Every source that an accepted call gave stands in the field mapping once, in the order in which
the sources were accepted first, and has the destination of the last entry that names it, whichever
call that entry came with. No source is blank, and every destination is usable. -/
theorem run_mapping (baseUrl : Option String) (endpoint : Endpoint) (calls : List Call) :
    let given := Call.givenEntries calls
    let mapping := ((new baseUrl endpoint).run calls).mapping
    keys mapping = (given.map fun e => e.1.toText).eraseDups ∧ (keys mapping).Nodup ∧
      (∀ source destination, (source, destination) ∈ mapping ↔
        ∃ before e after, given = before ++ e :: after ∧ e.1.toText = source ∧
          Destination.ofValue e.2 = destination ∧ ∀ later ∈ after, later.1.toText ≠ source) ∧
      ∀ e ∈ mapping, Text.allBlank e.1 = false ∧ e.2.IsUsable := by
  intro given mapping
  have written : mapping = putAll [] (given.map Call.plain) := mapping_run _ calls
  have sources : ∀ entries : List (Value × Value),
      keys (entries.map Call.plain) = entries.map fun e => e.1.toText := fun _ => List.map_map
  refine ⟨?_, ?_, ?_, ?_⟩
  · rw [written, keys_putAll_nil, sources]
  · rw [written]
    exact nodup_keys_putAll_nil _
  · intro source destination
    rw [written, mem_putAll_nil_iff]
    constructor
    · rintro ⟨_, _, split, absent⟩
      obtain ⟨before, rest, place, rfl, tail⟩ := List.map_eq_append_iff.mp split
      obtain ⟨e, after, rfl, isPlain, rfl⟩ := List.map_eq_cons_iff.mp tail
      obtain ⟨isSource, isDestination⟩ := Prod.ext_iff.mp isPlain
      refine ⟨before, e, after, place, isSource, isDestination, ?_⟩
      simpa [sources] using absent
    · rintro ⟨before, e, after, place, rfl, rfl, last⟩
      refine ⟨before.map Call.plain, after.map Call.plain, by simp [place, Call.plain], ?_⟩
      simpa [sources] using last
  · intro e member
    rw [written] at member
    obtain ⟨before, after, split, _⟩ := mem_putAll_nil_iff.mp member
    have present : e ∈ given.map Call.plain := by simp [split]
    obtain ⟨raw, isGiven, rfl⟩ := List.mem_map.mp present
    exact Call.isEntry_plain isGiven

/-- A later table takes over a source of an earlier call, which keeps its place, and a table with a
blank destination is not taken. -/
example :
    ((new none .standard).run [.addFieldMapping (.text "a") (.text "b"), .switchToPost,
      .addFieldMappingTable (.dict [(.text "c", .list [.text "d", .text "e"]),
        (.text "a", .text "f")]),
      .addFieldMappingTable (.dict [(.text "a", .text "g"), (.text "h", .text " ")])]).mapping =
      [("a", .one "f"), ("c", .many ["d", "e"])] := by
  decide

end Query

end SolrRequest
