import SolrRequest.Proofs.Document.Remapping
import SolrRequest.Proofs.Entries.Texts

/-!
# Mappings in stages

A mapping that is put behind another one acts on what the other one has made out of the documents.
So both of them together do the same as one after the other, and this includes a mapping without
entries, which gives the documents back as they are.
-/

namespace SolrRequest.Document

open Entries Route

theorem carry_append (first second : List (Route Value)) (v : Value) :
    carry (first ++ second) v = carry second (carry first v) := by
  cases v with
  | dict doc => exact congrArg Value.dict (followAll_append first second doc)
  | _ => rfl

theorem exists_text_of_routes? {mapping : List (Value × Value)} {names : List (Route String)}
    (named : routes? mapping = some names) : ∀ e ∈ mapping, ∃ s, e.1.text? = some s := by
  induction mapping generalizing names with
  | nil => exact List.forall_mem_nil _
  | cons entry mapping inductionHypothesis =>
    obtain ⟨_, rest, namedFirst, namedRest, _⟩ := mapM_cons_eq_some.mp named
    obtain ⟨s, text, _⟩ := Option.bind_eq_some_iff.mp namedFirst
    exact List.forall_mem_cons.mpr ⟨⟨s, text⟩, inductionHypothesis namedRest⟩

/-- Two mappings of names with no source in common, one put behind the other, act on documents of
any kind as the first one and then the second one do. -/
theorem remapAll_stages {first second : List (Value × Value)}
    {firstNames secondNames : List (Route String)} (named : routes? first = some firstNames)
    (namedSecond : routes? second = some secondNames) (distinct : (texts second).Nodup)
    (apart : ∀ s ∈ texts first, s ∉ texts second) (docs : List Value) :
    putAll first second = first ++ second ∧
      ∃ staged mapped, remapAll first docs = .ok staged ∧ remapAll second staged = .ok mapped ∧
        remapAll (putAll first second) docs = .ok mapped := by
  have behind : putAll first second = first ++ second :=
    putAll_eq_append (exists_text_of_routes? namedSecond) distinct apart
  obtain ⟨rs, _, copied⟩ := exists_routes named
  obtain ⟨rsSecond, _, copiedSecond⟩ := exists_routes namedSecond
  have copiedBoth : ∀ doc, (first ++ second).foldlM copy doc =
      .ok (followAll (rs ++ rsSecond) doc) := by
    intro doc
    rw [List.foldlM_append, copied, followAll_append]
    exact copiedSecond _
  refine ⟨behind, docs.map (carry rs), (docs.map (carry rs)).map (carry rsSecond),
    remapAll_eq_map copied docs, remapAll_eq_map copiedSecond _, ?_⟩
  rw [behind, remapAll_eq_map copiedBoth docs, List.map_map]
  apply congrArg Except.ok
  apply List.map_congr_left
  intro v _
  exact carry_append rs rsSecond v

/-- The second mapping reads what the first one wrote, and writes over the field it came from. -/
theorem remapAll_stages_cycle :
    let first : List (Value × Value) := [(.field .title, .text "b")]
    let second : List (Value × Value) := [(.text "b", .tuple [.text "c", .text "title"])]
    let docs : List Value := [.text "raw", .dict [(.text "c", .int 1), (.text "title", .int 2)]]
    let mapped : List Value := [.text "raw",
      .dict [(.text "c", .int 2), (.text "title", .int 2), (.text "b", .int 2)]]
    routes? first = some [⟨"title", ["b"]⟩] ∧ routes? second = some [⟨"b", ["c", "title"]⟩] ∧
      (texts second).Nodup ∧ (∀ s ∈ texts first, s ∉ texts second) ∧
      ∃ staged, remapAll first docs = .ok staged ∧ remapAll second staged = .ok mapped ∧
        remapAll (putAll first second) docs = .ok mapped := by
  intro first second docs mapped
  have named : routes? first = some [⟨"title", ["b"]⟩] := rfl
  have namedSecond : routes? second = some [⟨"b", ["c", "title"]⟩] := rfl
  have distinct : (texts second).Nodup := by decide
  have apart : ∀ s ∈ texts first, s ∉ texts second := by decide
  obtain ⟨_, staged, result, ofFirst, ofSecond, ofBoth⟩ :=
    remapAll_stages named namedSecond distinct apart docs
  obtain rfl : mapped = result := Except.ok.inj ofBoth
  exact ⟨named, namedSecond, distinct, apart, staged, ofFirst, ofSecond, ofBoth⟩

end SolrRequest.Document
