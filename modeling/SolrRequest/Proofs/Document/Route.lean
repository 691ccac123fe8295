import Mathlib.Data.List.Chain
import SolrRequest.Proofs.Entries.Keys

/-!
# Routes

A route copies the field at its source to its destinations. Routes are followed one after the other
on entries, so that a later one may read what an earlier one wrote. A field is there in the end if
it was there before or if a chain of routes leads to it, and its value is that of the source of the
last route that wrote it.
-/

namespace SolrRequest

universe u v

structure Route (κ : Type u) where
  source : κ
  destinations : List κ

namespace Route

open Entries

variable {κ : Type u} {α : Type v}

/-- The first route starts from a name that is there, every next one from a destination of the one
before it, and `key` is a destination of the last one. -/
def Leads (start : κ → Prop) (chain : List (Route κ)) (key : κ) : Prop :=
  (∃ first ∈ chain.head?, start first.source) ∧
    chain.IsChain (fun r next => next.source ∈ r.destinations) ∧
      ∃ last ∈ chain.getLast?, key ∈ last.destinations

theorem not_leads_nil {start : κ → Prop} {key : κ} : ¬ Leads start [] key := by
  rintro ⟨⟨first, isFirst, _⟩, _⟩
  cases isFirst

theorem leads_cons {start : κ → Prop} {r : Route κ} {chain : List (Route κ)} {key : κ} :
    Leads start (r :: chain) key ↔
      start r.source ∧
        (chain = [] ∧ key ∈ r.destinations ∨ Leads (· ∈ r.destinations) chain key) := by
  cases chain with
  | nil => simp [Leads]
  | cons next rest =>
    simp only [Leads, List.head?_cons, List.getLast?_cons_cons, List.isChain_cons_cons,
      Option.mem_def, Option.some.injEq, exists_eq_left', reduceCtorEq, false_and, false_or]
    tauto

theorem leads_or {start other : κ → Prop} {p : Prop} {chain : List (Route κ)} {key : κ} :
    Leads (fun k => start k ∨ p ∧ other k) chain key ↔
      Leads start chain key ∨ p ∧ Leads other chain key := by
  cases chain with
  | nil => simp [not_leads_nil]
  | cons r rest =>
    rw [leads_cons, leads_cons, leads_cons]
    tauto

variable [BEq κ]

def writes (r : Route κ) (doc : List (κ × α)) : List (κ × α) :=
  match get? r.source doc with
  | none => []
  | some a => r.destinations.map fun key => (key, a)

def follow (doc : List (κ × α)) (r : Route κ) : List (κ × α) :=
  putAll doc (r.writes doc)

def followAll (routes : List (Route κ)) (doc : List (κ × α)) : List (κ × α) :=
  routes.foldl follow doc

/-- What routes write when they are followed one after the other. -/
def writesAll : List (Route κ) → List (κ × α) → List (κ × α)
  | [], _ => []
  | r :: routes, doc => r.writes doc ++ writesAll routes (follow doc r)

theorem followAll_append (first second : List (Route κ)) (doc : List (κ × α)) :
    followAll (first ++ second) doc = followAll second (followAll first doc) :=
  List.foldl_append

theorem followAll_eq_putAll (routes : List (Route κ)) (doc : List (κ × α)) :
    followAll routes doc = putAll doc (writesAll routes doc) := by
  induction routes generalizing doc with
  | nil => rfl
  | cons r routes inductionHypothesis =>
    rw [followAll, List.foldl_cons, ← followAll, inductionHypothesis, writesAll, putAll_append,
      follow]

theorem mem_values_follow {a : α} {doc : List (κ × α)} {r : Route κ}
    (present : a ∈ values (follow doc r)) : a ∈ values doc := by
  rcases mem_values_putAll present with old | new
  · exact old
  · unfold writes at new
    split at new
    · cases new
    · next b found =>
      obtain ⟨_, written, rfl⟩ := List.mem_map.mp new
      obtain ⟨_, _, rfl⟩ := List.mem_map.mp written
      exact mem_values_of_get? found

theorem mem_values_followAll {a : α} {routes : List (Route κ)} {doc : List (κ × α)}
    (present : a ∈ values (followAll routes doc)) : a ∈ values doc := by
  induction routes generalizing doc with
  | nil => exact present
  | cons r routes inductionHypothesis => exact mem_values_follow (inductionHypothesis present)

variable [LawfulBEq κ]

theorem mem_keys_writes {key : κ} {r : Route κ} {doc : List (κ × α)} :
    key ∈ keys (r.writes doc) ↔ r.source ∈ keys doc ∧ key ∈ r.destinations := by
  unfold writes
  split
  · next missing => simp [get?_eq_none_iff.mp missing]
  · next a found =>
    have present : r.source ∈ keys doc := mem_keys_of_get? found
    have written : keys (r.destinations.map fun key => (key, a)) = r.destinations := by
      simp [keys, Function.comp_def]
    rw [written]
    exact (and_iff_right present).symm

theorem mem_keys_follow {key : κ} {r : Route κ} {doc : List (κ × α)} :
    key ∈ keys (follow doc r) ↔
      key ∈ keys doc ∨ r.source ∈ keys doc ∧ key ∈ r.destinations := by
  rw [follow, mem_keys_putAll, mem_keys_writes]

theorem get?_follow_of_not_written {key : κ} {r : Route κ} {doc : List (κ × α)}
    (idle : r.source ∈ keys doc → key ∉ r.destinations) :
    get? key (follow doc r) = get? key doc := by
  apply get?_putAll_of_notMem
  intro written
  obtain ⟨present, named⟩ := mem_keys_writes.mp written
  exact idle present named

/-- A destination of a route gets the value of its source. -/
theorem get?_follow_of_written {key : κ} {r : Route κ} {doc : List (κ × α)}
    (present : r.source ∈ keys doc) (named : key ∈ r.destinations) :
    get? key (follow doc r) = get? r.source doc := by
  obtain ⟨a, found⟩ := exists_get? present
  have written : ∃ b, get? key (r.writes doc).reverse = some b := by
    apply exists_get?
    rw [keys, List.map_reverse, List.mem_reverse]
    exact mem_keys_writes.mpr ⟨present, named⟩
  obtain ⟨b, last⟩ := written
  have same : b = a := by
    have value := mem_values_of_get? last
    simp only [writes, found, values, List.map_reverse, List.mem_reverse, List.map_map,
      List.mem_map, Function.comp_apply] at value
    obtain ⟨_, _, rfl⟩ := value
    rfl
  rw [follow, get?_putAll, last, found, Option.some_or, same]

/-- A name is there in the end if it was there before or if routes lead to it, in their order. -/
theorem mem_keys_followAll {key : κ} {routes : List (Route κ)} {doc : List (κ × α)} :
    key ∈ keys (followAll routes doc) ↔
      key ∈ keys doc ∨ ∃ chain, chain.Sublist routes ∧ Leads (· ∈ keys doc) chain key := by
  induction routes generalizing doc with
  | nil =>
    constructor
    · exact .inl
    · rintro (old | ⟨chain, isSublist, leads⟩)
      · exact old
      · rw [List.sublist_nil.mp isSublist] at leads
        exact absurd leads not_leads_nil
  | cons r routes inductionHypothesis =>
    rw [followAll, List.foldl_cons, ← followAll, inductionHypothesis]
    simp only [mem_keys_follow, leads_or]
    constructor
    · rintro ((old | ⟨present, named⟩) | ⟨chain, isSublist, leads | ⟨present, leads⟩⟩)
      · exact .inl old
      · exact .inr ⟨[r], (List.nil_sublist routes).cons_cons r,
          leads_cons.mpr ⟨present, .inl ⟨rfl, named⟩⟩⟩
      · exact .inr ⟨chain, isSublist.cons r, leads⟩
      · exact .inr ⟨r :: chain, isSublist.cons_cons r, leads_cons.mpr ⟨present, .inr leads⟩⟩
    · rintro (old | ⟨chain, isSublist, leads⟩)
      · exact .inl (.inl old)
      · rcases List.sublist_cons_iff.mp isSublist with withoutFirst | ⟨rest, rfl, isRest⟩
        · exact .inr ⟨chain, withoutFirst, .inl leads⟩
        · obtain ⟨present, ⟨rfl, named⟩ | leads⟩ := leads_cons.mp leads
          · exact .inl (.inr ⟨present, named⟩)
          · exact .inr ⟨rest, isRest, .inr ⟨present, leads⟩⟩

/-- Of routes that are followed in order, one writes a name: its source is there when it is reached,
and the name is one of its destinations. -/
structure Writes (routes : List (Route κ)) (doc : List (κ × α)) (key : κ)
    (before : List (Route κ)) (r : Route κ) (after : List (Route κ)) : Prop where
  place : routes = before ++ r :: after
  present : r.source ∈ keys (followAll before doc)
  named : key ∈ r.destinations

omit [LawfulBEq κ] in
theorem Writes.cons {routes before after : List (Route κ)} {doc : List (κ × α)} {key : κ}
    {r : Route κ} (first : Route κ) (writes : Writes routes (follow doc first) key before r after) :
    Writes (first :: routes) doc key (first :: before) r after :=
  ⟨congrArg (first :: ·) writes.place, writes.present, writes.named⟩

theorem get?_followAll_of_not_written {routes : List (Route κ)} {doc : List (κ × α)} {key : κ}
    (idle : ∀ before r after, ¬ Writes routes doc key before r after) :
    get? key (followAll routes doc) = get? key doc := by
  induction routes generalizing doc with
  | nil => rfl
  | cons first routes inductionHypothesis =>
    have idleFirst : first.source ∈ keys doc → key ∉ first.destinations := fun present named =>
      idle [] first routes ⟨rfl, present, named⟩
    have idleRest : ∀ before r after, ¬ Writes routes (follow doc first) key before r after :=
      fun before r after writes => idle (first :: before) r after (writes.cons first)
    rw [followAll, List.foldl_cons, ← followAll, inductionHypothesis idleRest,
      get?_follow_of_not_written idleFirst]

theorem get?_followAll_of_last {routes before after : List (Route κ)} {doc : List (κ × α)} {key : κ}
    {r : Route κ} (writes : Writes routes doc key before r after)
    (last : ∀ before' r' after', Writes routes doc key before' r' after' →
      before'.length ≤ before.length) :
    get? key (followAll routes doc) = get? r.source (followAll before doc) := by
  obtain ⟨rfl, present, named⟩ := writes
  have idle : ∀ between r' after',
      ¬ Writes after (follow (followAll before doc) r) key between r' after' := by
    rintro between r' after' ⟨rfl, present', named'⟩
    have later := last (before ++ r :: between) r' after'
      ⟨by simp, by rwa [followAll_append], named'⟩
    simp only [List.length_append, List.length_cons] at later
    omega
  rw [followAll_append, followAll, List.foldl_cons, ← followAll, get?_followAll_of_not_written idle,
    get?_follow_of_written present named]

/-- What the entries `out` are that routes make out of the entries `doc`. -/
structure Yields (routes : List (Route κ)) (doc out : List (κ × α)) : Prop where
  mem_keys : ∀ key, key ∈ keys out ↔
    key ∈ keys doc ∨ ∃ chain, chain.Sublist routes ∧ Leads (· ∈ keys doc) chain key
  get?_of_not_written : ∀ key, (∀ before r after, ¬ Writes routes doc key before r after) →
    get? key out = get? key doc
  get?_of_last : ∀ key before r after, Writes routes doc key before r after →
    (∀ before' r' after', Writes routes doc key before' r' after' →
      before'.length ≤ before.length) →
    get? key out = get? r.source (followAll before doc)
  mem_values : ∀ a ∈ values out, a ∈ values doc
  keys_eq : keys out = keys doc ++ ((keys (writesAll routes doc)).removeAll (keys doc)).eraseDups
  nodup : (keys out).Nodup

theorem yields_followAll (routes : List (Route κ)) {doc : List (κ × α)}
    (distinct : (keys doc).Nodup) : Yields routes doc (followAll routes doc) where
  mem_keys _ := mem_keys_followAll
  get?_of_not_written _ := get?_followAll_of_not_written
  get?_of_last _ _ _ _ := get?_followAll_of_last
  mem_values _ := mem_values_followAll
  keys_eq := by rw [followAll_eq_putAll, keys_putAll]
  nodup := by
    rw [followAll_eq_putAll]
    exact nodup_keys_putAll distinct _

end Route

end SolrRequest
