import SolrRequest.Call
import SolrRequest.Proofs.Number.Writable
import SolrRequest.Proofs.Passes

/-!
# Acceptance of calls

The checks that a call makes on its arguments, said without the values that come out of them. A call
denotes an edit exactly if its arguments pass the checks, and the number in that edit can be written
unless it was given with too many digits.
-/

namespace SolrRequest

namespace Value

/-- A list or tuple that has items, all of them texts that are not blank. -/
def isWordList (v : Value) : Bool :=
  v.items?.any fun items => items.all isWord

def isDestination (v : Value) : Bool :=
  v.isWord || v.isWordList

/-- A table with entries, each from a name to a name or names. -/
def isMapping : Value → Bool
  | dict entries => !entries.isEmpty && entries.all fun e => e.1.isWord && e.2.isDestination
  | _ => false

/-- One entry of a table that fails a check makes the whole table fail. -/
theorem isMapping_eq_false {entries : List (Value × Value)} {e : Value × Value}
    (present : e ∈ entries) (bad : e.1.isWord = false ∨ e.2.isDestination = false) :
    (dict entries).isMapping = false := by
  have failing : (entries.all fun e => e.1.isWord && e.2.isDestination) = false := by
    rw [List.all_eq_false]
    exact ⟨e, present, by rcases bad with key | target <;> simp [*]⟩
  rw [isMapping, failing, Bool.and_false]

theorem isSome_words? (v : Value) : v.words?.isSome = v.isWordList := by
  unfold words? isWordList
  cases v.items? with
  | none => rfl
  | some items => exact isSome_mapM word? items

theorem isSome_names? (v : Value) : v.names?.isSome = v.isDestination := by
  unfold names? isDestination
  cases text : v.text? with
  | none =>
    have noWord : v.isWord = false := by simp [isWord, word?, text]
    simp [noWord, isSome_words?]
  | some s =>
    have noList : v.isWordList = false := by simp [isWordList, items?_eq_none_of_text? text]
    simp [noList, isWord]

theorem isSome_destination? (v : Value) : v.destination?.isSome = v.isDestination := by
  simp [destination?, isDestination, isWord, isSome_words?]

/-- The keys and the targets of a table are checked in one pass. -/
theorem mapping?_cons (e : Value × Value) (rest : List (Value × Value)) :
    (dict (e :: rest)).mapping? = (e :: rest).mapM fun e =>
      (e.1.word?.map fun s => (s, e.2)).bind fun t => t.2.destination?.map fun d => (t.1, d) :=
  mapM_bind_mapM _ _ _

theorem isSome_mapping? (v : Value) : v.mapping?.isSome = v.isMapping := by
  cases v with
  | dict entries =>
    cases entries with
    | nil => rfl
    | cons e rest =>
      rw [mapping?_cons, isSome_mapM, isMapping, List.isEmpty_cons, Bool.not_false, Bool.true_and]
      congr 1
      funext e
      rw [isWord, ← isSome_destination?]
      cases e.1.word? with
      | none => rfl
      | some s => simp
  | _ => rfl

end Value

namespace Call

/-- Whether the arguments pass the checks of the call. -/
def accepts : Call → Bool
  | switchToPost => true
  | query clause => clause.isWord
  | filter clause => clause.isWord
  | fields names => names.isWordList
  | sort names _ => names.isDestination
  | start offset => offset.isInteger
  | limit count => count.isInteger
  | restrictByRoles => true
  | addFieldMapping source destination => source.isWord && destination.isDestination
  | addFieldMappingTable table => table.isMapping

/-- A number of a parameter that is given as an integer can be written. -/
def Writable : Call → Prop
  | start offset => offset.NumberWritable
  | limit count => count.NumberWritable
  | _ => True

theorem isSome_edit? (c : Call) : c.edit?.isSome = c.accepts := by
  cases c with
  | switchToPost => rfl
  | query clause => exact Option.isSome_map
  | filter clause => exact Option.isSome_map
  | fields names => simp [edit?, accepts, Value.isSome_words?]
  | sort names flags => simp [edit?, accepts, Value.isSome_names?]
  | start offset => exact Option.isSome_map
  | limit count => exact Option.isSome_map
  | restrictByRoles => rfl
  | addFieldMapping source destination =>
    rw [accepts, Value.isWord, ← Value.isSome_destination?, edit?]
    cases source.word? with
    | none => rfl
    | some s => cases destination.destination? <;> rfl
  | addFieldMappingTable table => simp [edit?, accepts, Value.isSome_mapping?]

theorem edit?_eq_none_iff (c : Call) : c.edit? = none ↔ c.accepts = false := by
  rw [← isSome_edit?, Option.isSome_eq_false_iff, Option.isNone_iff_eq_none]

theorem exists_edit? {c : Call} (accepted : c.accepts = true) : ∃ e, c.edit? = some e :=
  Option.isSome_iff_exists.mp ((isSome_edit? c).trans accepted)

theorem accepts_of_edit? {c : Call} {e : Edit} (edit : c.edit? = some e) : c.accepts = true := by
  rw [← isSome_edit?, edit, Option.isSome_some]

end Call

end SolrRequest
