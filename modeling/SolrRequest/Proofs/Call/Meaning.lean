import Mathlib.Data.List.Forall2
import SolrRequest.Proofs.Call.Number
import SolrRequest.Proofs.Query.Step

/-!
# What accepted calls say

What a call says is read off its arguments, kind by kind: the parameter that it adds to a request,
and the member of a body with the value that it gives to it. A call that is not accepted says
nothing, and neither does one about anything else. The edit that a call denotes says the same.
-/

namespace SolrRequest

namespace Value

/-- A text, or the text of a field, that is not blank. -/
inductive Reads : Value → String → Prop
  | text {s : String} (visible : Text.allBlank s = false) : Reads (text s) s
  | field {f : Field} (visible : Text.allBlank f.indexName = false) : Reads (field f) f.indexName

/-- A list or tuple with items that all are texts. -/
def ReadsAll (v : Value) (ss : List String) : Prop :=
  ∃ items, (v = list items ∨ v = tuple items) ∧ items ≠ [] ∧ List.Forall₂ Reads items ss

def ReadsNames (v : Value) (names : List String) : Prop :=
  (∃ name, v.Reads name ∧ names = [name]) ∨ v.ReadsAll names

/-- The flag at a position of a list or tuple; any other value is the flag of the first position. -/
def flagAt? : Value → Nat → Option Value
  | list items, i => items[i]?
  | tuple items, i => items[i]?
  | v, 0 => some v
  | _, _ => none

theorem getElem?_flags (v : Value) (i : Nat) : v.flags[i]? = v.flagAt? i := by
  cases v <;> cases i <;> rfl

theorem reads_iff {v : Value} {s : String} : v.Reads s ↔ v.word? = some s := by
  rw [word?_eq_some_iff]
  constructor
  · rintro (⟨visible⟩ | ⟨visible⟩)
    · exact ⟨rfl, visible⟩
    · exact ⟨rfl, visible⟩
  · rintro ⟨isText, visible⟩
    cases v with
    | text s =>
      cases isText
      exact .text visible
    | field f =>
      cases isText
      exact .field visible
    | _ => cases isText

theorem text?_of_reads {v : Value} {s : String} (reads : v.Reads s) : v.text? = some s :=
  (word?_eq_some_iff.mp (reads_iff.mp reads)).1

theorem items?_eq_some_iff {v : Value} {items : List Value} :
    v.items? = some items ↔ (v = list items ∨ v = tuple items) ∧ items ≠ [] := by
  constructor
  · intro isItems
    cases v with
    | list all | tuple all =>
      cases all with
      | nil => cases isItems
      | cons first rest =>
        cases isItems
        simp
    | _ => cases isItems
  · rintro ⟨rfl | rfl, nonempty⟩
    all_goals
      obtain ⟨first, rest, rfl⟩ := List.exists_cons_of_ne_nil nonempty
      rfl

theorem readsAll_iff {v : Value} {ss : List String} : v.ReadsAll ss ↔ v.words? = some ss := by
  have each : Reads = fun (v : Value) s => v.word? = some s := by
    funext v s
    exact propext reads_iff
  simp only [ReadsAll, words?, Option.bind_eq_bind, Option.bind_eq_some_iff, items?_eq_some_iff,
    mapM_eq_some_iff, each, and_assoc]

theorem readsNames_iff {v : Value} {names : List String} :
    v.ReadsNames names ↔ v.names? = some names := by
  rw [ReadsNames, readsAll_iff, names?]
  cases text : v.text? with
  | none =>
    have noName : ∀ name, ¬ v.Reads name := fun name reads => by
      rw [text?_of_reads reads] at text
      cases text
    simp [noName]
  | some s =>
    have noList : v.words? = none := by
      rw [words?, items?_eq_none_of_text? text]
      rfl
    simp [noList, reads_iff, eq_comm]

end Value

namespace SortOrder

theorem terms_eq_mapIdx (names : List String) (flags : List Value) :
    terms names flags = names.mapIdx fun i name => name ++ " " ++ direction flags[i]? := by
  induction names generalizing flags with
  | nil => rfl
  | cons name names inductionHypothesis =>
    rw [terms, List.mapIdx_cons, inductionHypothesis, List.head?_eq_getElem?]
    congr 2
    funext i name
    rw [List.getElem?_tail]

theorem direction_eq (flag : Option Value) :
    direction flag = if flag.any fun v => !v.truthy then "desc" else "asc" := by
  rw [direction]
  cases flag with
  | none => rfl
  | some v => cases holds : v.truthy <;> simp [holds]

/-- The names, each with the word for the direction of the flag at its position. -/
theorem text_eq (names : List String) (flags : Value) :
    text names flags.flags = ", ".intercalate (names.mapIdx fun i name =>
      name ++ " " ++ if (flags.flagAt? i).any fun flag => !flag.truthy then "desc" else "asc") := by
  rw [text, terms_eq_mapIdx]
  simp only [direction_eq, Value.getElem?_flags]

end SortOrder

/-- A parameter, and a member of a body with its value. -/
abbrev Saying := (String × String) × (String × Value)

namespace Call

inductive Tells : Call → Saying → Prop
  | query {v : Value} {s : String} (reads : v.Reads s) :
      Tells (query v) (("q", s), ("query", .text s))
  | filter {v : Value} {s : String} (reads : v.Reads s) :
      Tells (filter v) (("fq", s), ("filter", .text s))
  | fields {v : Value} {ss : List String} (reads : v.ReadsAll ss) :
      Tells (fields v) (("fl", ",".intercalate ss), ("fields", .list (ss.map .text)))
  | sort {v flags : Value} {names : List String} {order : String} (reads : v.ReadsNames names)
      (ordered : order = ", ".intercalate (names.mapIdx fun i name =>
        name ++ " " ++ if (flags.flagAt? i).any fun flag => !flag.truthy then "desc" else "asc")) :
      Tells (sort v flags) (("sort", order), ("sort", .text order))
  | start {v : Value} {n : Int} (denotes : v.Denotes n) :
      Tells (start v) (("start", toString n), ("start", .int n))
  | limit {v : Value} {n : Int} (denotes : v.Denotes n) :
      Tells (limit v) (("rows", toString n), ("limit", .int n))

/-- What calls say, in the order of the calls. Some say nothing. -/
inductive Told : List Call → List Saying → Prop
  | nil : Told [] []
  | cons {c : Call} {m : Saying} {calls : List Call} {told : List Saying} (tells : c.Tells m)
      (rest : Told calls told) : Told (c :: calls) (m :: told)
  | silent {c : Call} {calls : List Call} {told : List Saying} (silent : ∀ m, ¬ c.Tells m)
      (rest : Told calls told) : Told (c :: calls) told

end Call

namespace Edit

/-- The member of a body that an edit sets or adds to. -/
def member? : Edit → Option (String × Value)
  | query s => some ("query", .text s)
  | filter s => some ("filter", .text s)
  | fields names => some ("fields", .list (names.map .text))
  | sort order => some ("sort", .text order)
  | start n => some ("start", .int n)
  | limit n => some ("limit", .int n)
  | _ => none

def saying? (e : Edit) : Option Saying :=
  e.pair?.bind fun p => e.member?.map fun m => (p, m)

theorem filterMap_pair? (es : List Edit) :
    es.filterMap pair? = (es.filterMap saying?).map Prod.fst := by
  rw [List.map_filterMap]
  exact List.filterMap_congr fun e _ => by cases e <;> rfl

theorem filterMap_member? (es : List Edit) :
    es.filterMap member? = (es.filterMap saying?).map Prod.snd := by
  rw [List.map_filterMap]
  exact List.filterMap_congr fun e _ => by cases e <;> rfl

end Edit

namespace Call

theorem saying?_of_tells {c : Call} {m : Saying} (tells : c.Tells m) :
    c.edit?.bind Edit.saying? = some m := by
  rcases tells with reads | reads | reads | ⟨reads, rfl⟩ | denotes | denotes
  · rw [edit?, Value.reads_iff.mp reads]
    rfl
  · rw [edit?, Value.reads_iff.mp reads]
    rfl
  · rw [edit?, Value.readsAll_iff.mp reads]
    rfl
  · rw [edit?, Value.readsNames_iff.mp reads, ← SortOrder.text_eq]
    rfl
  · rw [edit?, Value.integer?_eq_some_iff.mpr denotes, ← Integer.decimal_eq_toString]
    rfl
  · rw [edit?, Value.integer?_eq_some_iff.mpr denotes, ← Integer.decimal_eq_toString]
    rfl

theorem tells_of_edit? {c : Call} {e : Edit} {m : Saying} (edit : c.edit? = some e)
    (said : e.saying? = some m) : c.Tells m := by
  cases c with
  | switchToPost | restrictByRoles =>
    cases edit
    cases said
  | addFieldMapping source destination =>
    simp only [edit?, Option.bind_eq_bind, Option.bind_eq_some_iff, Option.pure_def,
      Option.some.injEq] at edit
    obtain ⟨s, _, d, _, rfl⟩ := edit
    cases said
  | addFieldMappingTable table =>
    obtain ⟨_, _, rfl⟩ := Option.map_eq_some_iff.mp edit
    cases said
  | query clause | filter clause =>
    obtain ⟨s, word, rfl⟩ := Option.map_eq_some_iff.mp edit
    cases said
    constructor
    exact Value.reads_iff.mpr word
  | fields names =>
    obtain ⟨ss, words, rfl⟩ := Option.map_eq_some_iff.mp edit
    cases said
    exact .fields (Value.readsAll_iff.mpr words)
  | sort names flags =>
    obtain ⟨ss, words, rfl⟩ := Option.map_eq_some_iff.mp edit
    cases said
    exact .sort (Value.readsNames_iff.mpr words) (SortOrder.text_eq ss flags)
  | start number | limit number =>
    obtain ⟨n, value, rfl⟩ := Option.map_eq_some_iff.mp edit
    cases said
    dsimp only
    rw [Integer.decimal_eq_toString]
    constructor
    exact Value.integer?_eq_some_iff.mp value

/-- A call says what its edit says. -/
theorem tells_iff {c : Call} {m : Saying} : c.Tells m ↔ c.edit?.bind Edit.saying? = some m := by
  refine ⟨saying?_of_tells, fun said => ?_⟩
  obtain ⟨e, edit, said⟩ := Option.bind_eq_some_iff.mp said
  exact tells_of_edit? edit said

theorem told_iff {calls : List Call} {told : List Saying} :
    Told calls told ↔ told = (edits calls).filterMap Edit.saying? := by
  rw [edits, List.filterMap_filterMap]
  constructor
  · intro hears
    induction hears with
    | nil => rfl
    | cons tells _ inductionHypothesis =>
      rw [List.filterMap_cons, tells_iff.mp tells, inductionHypothesis]
    | silent silent _ inductionHypothesis =>
      have nothing :=
        Option.eq_none_iff_forall_ne_some.mpr fun m said => silent m (tells_iff.mpr said)
      rw [List.filterMap_cons, nothing, inductionHypothesis]
  · rintro rfl
    induction calls with
    | nil => exact .nil
    | cons c calls inductionHypothesis =>
      rw [List.filterMap_cons]
      cases said : c.edit?.bind Edit.saying? with
      | none =>
        refine .silent (fun m tells => ?_) inductionHypothesis
        rw [tells_iff.mp tells] at said
        cases said
      | some m => exact .cons (tells_iff.mpr said) inductionHypothesis

end Call

end SolrRequest
