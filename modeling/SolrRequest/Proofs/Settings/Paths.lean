import SolrRequest.Proofs.Settings.Overlay

/-!
# Tables laid over each other, path by path

A path of keys leads through tables in tables. What a merged table holds at the end of a path is
told by the upper table alone, unless that one has nothing there: a leaf of the upper table hides
all that the lower one has below it, and elsewhere the lower table shows through. A table of both is
joined, the keys of the lower one first.
-/

namespace SolrRequest

namespace Value

/-- Everything but a table is a leaf. -/
def IsLeaf (v : Value) : Prop :=
  ∀ entries, v ≠ dict entries

/-- What stands under a key; under a leaf there is nothing. -/
def child? : Value → String → Option Value
  | dict entries, key => Entries.get? (text key) entries
  | _, _ => none

def at? : Value → List String → Option Value
  | v, [] => some v
  | v, key :: rest => (v.child? key).bind fun child => child.at? rest

/-- The entries of a table; there are none in anything else. -/
def entries : Option Value → Table
  | some (dict entries) => entries
  | _ => []

/-- Some leaf stands before the end of the path. -/
def EndsWithin (v : Value) (path : List String) : Prop :=
  ∃ before key after leaf, path = before ++ key :: after ∧ v.at? before = some leaf ∧ leaf.IsLeaf

end Value

/-- Every key is a text, and no two are the same. -/
structure Table.HasTextKeys (t : Table) : Prop where
  isText : ∀ k ∈ Entries.keys t, k.text?.isSome = true
  distinct : (Entries.texts t).Nodup

/-- All tables that paths lead to have texts as keys. -/
def Value.IsNested (v : Value) : Prop :=
  ∀ path entries, v.at? path = some (.dict entries) → Table.HasTextKeys entries

namespace Value

variable {v : Value} {entries : Table} {key : String} {path rest : List String}

theorem at?_cons (v : Value) (key : String) (rest : List String) :
    v.at? (key :: rest) = (v.child? key).bind fun child => child.at? rest :=
  rfl

theorem IsLeaf.child?_eq (leaf : v.IsLeaf) (key : String) : v.child? key = none := by
  cases v with
  | dict entries => exact absurd rfl (leaf entries)
  | _ => rfl

theorem IsLeaf.entries_eq (leaf : v.IsLeaf) : Value.entries (some v) = [] := by
  cases v with
  | dict entries => exact absurd rfl (leaf entries)
  | _ => rfl

theorem not_isLeaf_dict (entries : Table) : ¬ (dict entries).IsLeaf := by
  intro leaf
  exact leaf entries rfl

theorem isLeaf_or_dict (v : Value) : v.IsLeaf ∨ ∃ entries, v = dict entries := by
  cases v with
  | dict entries => exact .inr ⟨entries, rfl⟩
  | _ => exact .inl nofun

theorem not_endsWithin_nil (v : Value) : ¬ v.EndsWithin [] := by
  rintro ⟨before, key, after, leaf, goesOn, _⟩
  exact List.append_ne_nil_of_right_ne_nil before (List.cons_ne_nil key after) goesOn.symm

theorem endsWithin_cons : v.EndsWithin (key :: rest) ↔
    v.IsLeaf ∨ ∃ child, v.child? key = some child ∧ child.EndsWithin rest := by
  constructor
  · rintro ⟨before, next, after, leaf, goesOn, found, isLeaf⟩
    cases before with
    | nil =>
      cases found
      exact .inl isLeaf
    | cons first before =>
      cases goesOn
      obtain ⟨child, present, found⟩ := Option.bind_eq_some_iff.mp found
      exact .inr ⟨child, present, before, next, after, leaf, rfl, found, isLeaf⟩
  · rintro (isLeaf | ⟨child, present, before, next, after, leaf, rfl, found, isLeaf⟩)
    · exact ⟨[], key, rest, v, rfl, rfl, isLeaf⟩
    · refine ⟨key :: before, next, after, leaf, rfl, ?_, isLeaf⟩
      rw [at?_cons, present]
      exact found

theorem IsNested.hasTextKeys (nested : (dict entries).IsNested) : Table.HasTextKeys entries :=
  nested [] entries rfl

theorem IsLeaf.isNested (leaf : v.IsLeaf) : v.IsNested := by
  intro path entries found
  cases path with
  | nil =>
    cases found
    exact absurd leaf (not_isLeaf_dict entries)
  | cons key rest =>
    rw [at?_cons, leaf.child?_eq] at found
    cases found

theorem isNested_dict (textKeys : Table.HasTextKeys entries)
    (inner : ∀ v ∈ Entries.values entries, v.IsNested) : (dict entries).IsNested := by
  intro path found foundThere
  cases path with
  | nil =>
    cases foundThere
    exact textKeys
  | cons key rest =>
    obtain ⟨child, present, foundThere⟩ := Option.bind_eq_some_iff.mp foundThere
    exact inner child (Entries.mem_values_of_get? present) rest found foundThere

theorem IsNested.child {child : Value} (nested : v.IsNested) (present : v.child? key = some child) :
    child.IsNested := by
  intro path entries found
  apply nested (key :: path) entries
  rw [at?_cons, present]
  exact found

end Value

/-! ## Keys in order -/

namespace Entries

universe u v

theorem keys_put_eq {κ : Type u} {α : Type v} [BEq κ] (key : κ) (value : α)
    (entries : List (κ × α)) : keys (put key value entries) =
      if contains key entries then keys entries else keys entries ++ [key] := by
  induction entries with
  | nil => rfl
  | cons e rest inductionHypothesis =>
    rw [put, contains, get?]
    split
    · rfl
    · rw [keys_cons, inductionHypothesis, contains]
      split <;> rfl

end Entries

namespace Table

open Entries Value

variable {base layer : Table} {below : Option Value} {v w : Value} {path : List String}

theorem contains_put {key other : Value} {s : String} (text : key.text? = some s)
    (different : other.text? ≠ some s) (v : Value) (t : Table) :
    contains key (put other v t) = contains key t := by
  rw [contains, get?_put_of_text? text, if_neg different, contains]

theorem mem_texts_of_mem_keys {key : Value} {s : String} (text : key.text? = some s)
    (member : key ∈ keys layer) : s ∈ texts layer := by
  obtain ⟨e, found, rfl⟩ := List.mem_map.mp member
  exact List.mem_filterMap.mpr ⟨e, found, text⟩

/-- The keys of the lower table stay where they are, and the new ones of the upper table follow. -/
theorem keys_overlay (textKeys : layer.HasTextKeys) (base : Table) :
    keys (overlay base layer) =
      keys base ++ (keys layer).filter fun k => !contains k base := by
  induction layer generalizing base with
  | nil => rw [overlay, keys_nil, List.filter_nil, List.append_nil]
  | cons e rest inductionHypothesis =>
    obtain ⟨k, v⟩ := e
    obtain ⟨isText, distinct⟩ := textKeys
    obtain ⟨_, isTextRest⟩ := List.forall_mem_cons.mp isText
    obtain ⟨absent, distinctRest⟩ := nodup_texts_cons.mp distinct
    have others : (keys rest).filter (fun other => !contains other
        (put k (overlayValue (Entries.get? k base) v) base)) =
          (keys rest).filter fun other => !contains other base := by
      apply List.filter_congr
      intro other member
      obtain ⟨s, text⟩ := Option.isSome_iff_exists.mp (isTextRest other member)
      have different : k.text? ≠ some s := by
        intro same
        exact absent s same (mem_texts_of_mem_keys text member)
      rw [contains_put text different]
    rw [overlay, inductionHypothesis ⟨isTextRest, distinctRest⟩, others, keys_put_eq, keys_cons,
      List.filter_cons]
    cases contains k base with
    | true => rfl
    | false => exact List.append_assoc _ _ _

/-! ## Values at paths -/

theorem overlayValue_none (v : Value) : overlayValue none v = v := by
  cases v <;> rfl

theorem overlayValue_of_isLeaf (leaf : v.IsLeaf) (below : Option Value) :
    overlayValue below v = v := by
  cases v with
  | dict entries => exact absurd rfl (leaf entries)
  | _ => rfl

theorem overlayValue_of_isLeaf_below (leaf : w.IsLeaf) (layer : Table) :
    overlayValue (some w) (.dict layer) = .dict layer := by
  cases w with
  | dict entries => exact absurd rfl (leaf entries)
  | _ => rfl

/-- Under a key, the value of the upper table lies over that of the lower one. -/
theorem child?_overlayValue (textKeys : layer.HasTextKeys) (below : Option Value) (key : String) :
    (overlayValue below (.dict layer)).child? key =
      (((dict layer).child? key).map (overlayValue (below.bind fun v => v.child? key))).or
        (below.bind fun v => v.child? key) := by
  have alone : (dict layer).child? key =
      (((dict layer).child? key).map (overlayValue none)).or none := by
    simp [funext overlayValue_none]
  cases below with
  | none =>
    rw [overlayValue_none]
    exact alone
  | some w =>
    rw [Option.bind_some]
    rcases w.isLeaf_or_dict with leaf | ⟨base, rfl⟩
    · rw [overlayValue_of_isLeaf_below leaf, leaf.child?_eq]
      exact alone
    · exact get?_overlay_of_text? rfl textKeys.distinct base

theorem bind_at?_cons (below : Option Value) (key : String) (rest : List String) :
    (below.bind fun v => v.at? (key :: rest)) =
      (below.bind fun v => v.child? key).bind fun child => child.at? rest := by
  rw [Option.bind_assoc]
  rfl

theorem at?_overlayValue (nested : v.IsNested) (found : v.at? path = some w)
    (below : Option Value) : (overlayValue below v).at? path =
      some (overlayValue (below.bind fun lower => lower.at? path) w) := by
  induction path generalizing v below with
  | nil =>
    cases found
    cases below <;> rfl
  | cons key rest inductionHypothesis =>
    obtain ⟨child, present, foundThere⟩ := Option.bind_eq_some_iff.mp found
    rcases v.isLeaf_or_dict with leaf | ⟨layer, rfl⟩
    · rw [leaf.child?_eq] at present
      cases present
    · rw [at?_cons, child?_overlayValue nested.hasTextKeys, present, bind_at?_cons]
      exact inductionHypothesis (nested.child present) foundThere _

/-- A leaf of the upper table hides all that lies below it. -/
theorem at?_overlayValue_of_endsWithin (nested : v.IsNested) (ends : v.EndsWithin path)
    (below : Option Value) : (overlayValue below v).at? path = none := by
  induction path generalizing v below with
  | nil => exact absurd ends v.not_endsWithin_nil
  | cons key rest inductionHypothesis =>
    rcases endsWithin_cons.mp ends with leaf | ⟨child, present, endsThere⟩
    · rw [overlayValue_of_isLeaf leaf, at?_cons, leaf.child?_eq]
      rfl
    · rcases v.isLeaf_or_dict with leaf | ⟨layer, rfl⟩
      · rw [leaf.child?_eq] at present
        cases present
      · rw [at?_cons, child?_overlayValue nested.hasTextKeys, present]
        exact inductionHypothesis (nested.child present) endsThere _

/-- Where the upper table has nothing, the lower one shows through. -/
theorem at?_overlayValue_of_none (nested : v.IsNested) (nothing : v.at? path = none)
    (goesOn : ¬ v.EndsWithin path) (below : Option Value) :
    (overlayValue below v).at? path = below.bind fun lower => lower.at? path := by
  induction path generalizing v below with
  | nil => cases nothing
  | cons key rest inductionHypothesis =>
    rw [endsWithin_cons, not_or] at goesOn
    rcases v.isLeaf_or_dict with leaf | ⟨layer, rfl⟩
    · exact absurd leaf goesOn.1
    · rw [at?_cons, child?_overlayValue nested.hasTextKeys, bind_at?_cons]
      cases present : (dict layer).child? key with
      | none => rfl
      | some child =>
        rw [at?_cons, present] at nothing
        exact inductionHypothesis (nested.child present) nothing
          (fun ends => goesOn.2 ⟨child, present, ends⟩) _

theorem keys_overlayValue (textKeys : layer.HasTextKeys) (below : Option Value) :
    ∃ joined, overlayValue below (.dict layer) = .dict joined ∧
      keys joined =
        keys (entries below) ++ (keys layer).filter fun k => !contains k (entries below) := by
  let noEntries : Table := []
  have alone : keys layer =
      keys noEntries ++ (keys layer).filter fun k => !contains k noEntries :=
    (List.filter_eq_self.mpr fun _ _ => rfl).symm
  cases below with
  | none => exact ⟨layer, overlayValue_none _, alone⟩
  | some w =>
    rcases w.isLeaf_or_dict with leaf | ⟨base, rfl⟩
    · refine ⟨layer, overlayValue_of_isLeaf_below leaf layer, ?_⟩
      rw [leaf.entries_eq]
      exact alone
    · exact ⟨overlay base layer, rfl, keys_overlay textKeys base⟩

/-- What a merged table holds at any path, from what the two tables hold there: the leaf of the
upper table; nothing below a leaf of the upper table; what the lower table holds, where the upper
one has nothing and no leaf before; and a table where the upper table holds one, with the keys of
the lower one first. -/
theorem overlay_at_path (base layer : Table) (nested : (Value.dict layer).IsNested)
    (path : List String) :
    let lower := Value.dict base
    let upper := Value.dict layer
    let merged := Value.dict (overlay base layer)
    (∀ leaf, upper.at? path = some leaf → leaf.IsLeaf → merged.at? path = some leaf) ∧
    (upper.EndsWithin path → merged.at? path = none) ∧
    (upper.at? path = none → ¬ upper.EndsWithin path → merged.at? path = lower.at? path) ∧
    ∀ above, upper.at? path = some (.dict above) → ∃ joined, merged.at? path = some (.dict joined) ∧
      keys joined = keys (entries (lower.at? path)) ++
        (keys above).filter fun k => !contains k (entries (lower.at? path)) := by
  intro lower upper merged
  have merging : merged = overlayValue (some lower) upper := rfl
  rw [merging]
  refine ⟨?_, ?_, ?_, ?_⟩
  · intro leaf found isLeaf
    rw [at?_overlayValue nested found, overlayValue_of_isLeaf isLeaf]
  · intro ends
    exact at?_overlayValue_of_endsWithin nested ends _
  · intro nothing goesOn
    exact at?_overlayValue_of_none nested nothing goesOn _
  · intro above found
    obtain ⟨joined, joining, order⟩ := keys_overlayValue (nested path above found) (lower.at? path)
    refine ⟨joined, ?_, order⟩
    rw [at?_overlayValue nested found]
    exact congrArg some joining

/-- Settings of a log and of an index; the former is a table of three keys. -/
def siteTable : Table :=
  [(.text "log", .dict [(.text "level", .text "INFO"), (.text "file", .dict []),
    (.text "dir", .text "log")]), (.text "solr", .null)]

/-- A table in which two keys are new, one is null and one replaces a table. -/
def hostTable : Table :=
  [(.text "solr", .dict [(.text "url", .text "/search")]),
    (.text "log", .dict [(.text "format", .dict []), (.text "file", .text "a.log"),
      (.text "level", .null)])]

theorem isNested_hostTable : (dict hostTable).IsNested := by
  have leaf (s : String) : (Value.text s).IsNested := IsLeaf.isNested nofun
  have null : Value.null.IsNested := IsLeaf.isNested nofun
  have noKeys : (dict []).IsNested :=
    isNested_dict ⟨List.forall_mem_nil _, List.nodup_nil⟩ (List.forall_mem_nil _)
  have solr : (dict [(.text "url", .text "/search")]).IsNested :=
    isNested_dict ⟨by decide, by decide⟩ (List.forall_mem_singleton.mpr (leaf _))
  have log : (dict [(.text "format", .dict []), (.text "file", .text "a.log"),
      (.text "level", .null)]).IsNested :=
    isNested_dict ⟨by decide, by decide⟩ (List.forall_mem_cons.mpr ⟨noKeys,
      List.forall_mem_cons.mpr ⟨leaf _, List.forall_mem_singleton.mpr null⟩⟩)
  exact isNested_dict ⟨by decide, by decide⟩
    (List.forall_mem_cons.mpr ⟨solr, List.forall_mem_singleton.mpr log⟩)

/-- Under the log, a leaf takes the place of a table, and the one new key follows the old ones. -/
theorem overlay_at_path_ofHost :
    let lower := Value.dict siteTable
    let upper := Value.dict hostTable
    let merged := Value.dict (overlay siteTable hostTable)
    upper.IsNested ∧
      merged.at? ["log", "file"] = some (.text "a.log") ∧
      merged.at? ["log", "file", "name"] = none ∧
      merged.at? ["log", "dir"] = lower.at? ["log", "dir"] ∧
      ∃ joined, merged.at? ["log"] = some (.dict joined) ∧
        keys joined = keys (entries (lower.at? ["log"])) ++ [.text "format"] := by
  intro lower upper merged
  have nested : upper.IsNested := isNested_hostTable
  have file : upper.at? ["log", "file"] = some (.text "a.log") := rfl
  have isLeaf : (Value.text "a.log").IsLeaf := nofun
  have goesOn : ¬ upper.EndsWithin ["log", "dir"] := by
    simp only [endsWithin_cons, not_endsWithin_nil, and_false, exists_false, or_false]
    rintro (isLeaf | ⟨child, present, isLeaf⟩)
    · exact not_isLeaf_dict _ isLeaf
    · cases present
      exact not_isLeaf_dict _ isLeaf
  refine ⟨nested, ?_, ?_, ?_, ?_⟩
  · exact (overlay_at_path siteTable hostTable nested ["log", "file"]).1 _ file isLeaf
  · apply (overlay_at_path siteTable hostTable nested ["log", "file", "name"]).2.1
    exact ⟨["log", "file"], "name", [], _, rfl, file, isLeaf⟩
  · exact (overlay_at_path siteTable hostTable nested ["log", "dir"]).2.2.1 rfl goesOn
  · exact (overlay_at_path siteTable hostTable nested ["log"]).2.2.2 _ rfl

end Table

end SolrRequest
