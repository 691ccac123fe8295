import SolrRequest.Document
import SolrRequest.Proofs.Document.Route
import SolrRequest.Proofs.Passes

/-!
# Documents under a mapping of names

A mapping from names to names makes routes, and a document whose keys are texts makes entries of
names. Such a mapping never fails, whatever the documents are, and what it does to a document is
what its routes do to the entries.
-/

namespace SolrRequest

namespace Value

theorem eq_of_text? {v : Value} {s : String} (text : v.text? = some s) :
    v = .text s ∨ ∃ f, v = .field f ∧ f.indexName = s := by
  cases v with
  | text t =>
    cases text
    exact .inl rfl
  | field f =>
    cases text
    exact .inr ⟨f, rfl, rfl⟩
  | _ => cases text

theorem beq_of_text? {a b : Value} {s t : String} (first : a.text? = some s)
    (second : b.text? = some t) : (a == b) = (s == t) := by
  rcases eq_of_text? first with rfl | ⟨f, rfl, rfl⟩ <;>
    rcases eq_of_text? second with rfl | ⟨g, rfl, rfl⟩ <;> rfl

theorem isKey_of_text? {v : Value} {s : String} (text : v.text? = some s) : v.isKey = true := by
  rcases eq_of_text? text with rfl | ⟨f, rfl, rfl⟩ <;> rfl

end Value

namespace Document

open Entries Route

/-- The entry under the text that its key is. -/
def named? (e : Value × Value) : Option (String × Value) :=
  e.1.text?.map fun s => (s, e.2)

/-- The fields of a document all of whose keys are texts. -/
def fields? (doc : List (Value × Value)) : Option (List (String × Value)) :=
  doc.mapM named?

/-- The names that a target stands for: a text, or the texts of a list or tuple. -/
def names? : Value → Option (List String)
  | .list items => items.mapM Value.text?
  | .tuple items => items.mapM Value.text?
  | target => target.text?.map fun s => [s]

def route? (entry : Value × Value) : Option (Route String) := do
  let source ← entry.1.text?
  let destinations ← names? entry.2
  return { source, destinations }

def routes? (mapping : List (Value × Value)) : Option (List (Route String)) :=
  mapping.mapM route?

/-! ## Entries under their names -/

theorem fields?_cons {e : Value × Value} {doc : List (Value × Value)}
    {fields : List (String × Value)} :
    fields? (e :: doc) = some fields ↔
      ∃ s rest, e.1.text? = some s ∧ fields? doc = some rest ∧ fields = (s, e.2) :: rest := by
  rw [fields?, mapM_cons_eq_some]
  constructor
  · rintro ⟨_, rest, text, named, rfl⟩
    obtain ⟨s, ofKey, rfl⟩ := Option.map_eq_some_iff.mp text
    exact ⟨s, rest, ofKey, named, rfl⟩
  · rintro ⟨s, rest, text, named, rfl⟩
    exact ⟨_, rest, Option.map_eq_some_iff.mpr ⟨s, text, rfl⟩, named, rfl⟩

theorem get?_of_fields? {doc : List (Value × Value)} {fields : List (String × Value)}
    (named : fields? doc = some fields) {key : Value} {s : String} (text : key.text? = some s) :
    get? key doc = get? s fields := by
  induction doc generalizing fields with
  | nil =>
    cases named
    rfl
  | cons e doc inductionHypothesis =>
    obtain ⟨t, rest, textOfFirst, namedRest, rfl⟩ := fields?_cons.mp named
    rw [get?, get?, Value.beq_of_text? textOfFirst text, inductionHypothesis namedRest]

theorem fields?_put {doc : List (Value × Value)} {fields : List (String × Value)}
    (named : fields? doc = some fields) {key : Value} {s : String} (text : key.text? = some s)
    (a : Value) : fields? (put key a doc) = some (put s a fields) := by
  induction doc generalizing fields with
  | nil =>
    cases named
    exact fields?_cons.mpr ⟨s, [], text, rfl, rfl⟩
  | cons e doc inductionHypothesis =>
    obtain ⟨t, rest, textOfFirst, namedRest, rfl⟩ := fields?_cons.mp named
    rw [put, put, Value.beq_of_text? textOfFirst text]
    split
    · exact fields?_cons.mpr ⟨t, rest, textOfFirst, namedRest, rfl⟩
    · exact fields?_cons.mpr ⟨t, _, textOfFirst, inductionHypothesis namedRest, rfl⟩

/-! ## Routes among values -/

/-- The values of a route are texts: those of the other one. -/
structure Spells (values : Route Value) (names : Route String) : Prop where
  source : values.source.text? = some names.source
  destinations : List.Forall₂ (fun v s => v.text? = some s) values.destinations names.destinations

theorem foldlM_write {a : Value} {destinations : List Value}
    (usable : ∀ d ∈ destinations, d.isKey = true) (doc : List (Value × Value)) :
    destinations.foldlM (write a) doc = .ok (putAll doc (destinations.map fun d => (d, a))) := by
  induction destinations generalizing doc with
  | nil => rfl
  | cons d destinations inductionHypothesis =>
    obtain ⟨usableFirst, usableRest⟩ := List.forall_mem_cons.mp usable
    rw [List.foldlM_cons, write, if_pos usableFirst]
    exact inductionHypothesis usableRest _

theorem destinations_of_names? {target : Value} {names : List String}
    (named : names? target = some names) :
    ∃ values, destinations target = .ok values ∧
      List.Forall₂ (fun v s => v.text? = some s) values names := by
  unfold names? at named
  split at named
  · exact ⟨_, rfl, forall₂_of_mapM named⟩
  · exact ⟨_, rfl, forall₂_of_mapM named⟩
  · obtain ⟨s, text, rfl⟩ := Option.map_eq_some_iff.mp named
    refine ⟨[target], ?_, .cons text .nil⟩
    rcases Value.eq_of_text? text with rfl | ⟨f, rfl, rfl⟩ <;> rfl

/-- An entry among names is a route on any document, and does not fail. -/
theorem exists_route {entry : Value × Value} {names : Route String}
    (named : route? entry = some names) :
    ∃ r, Spells r names ∧ ∀ doc, copy doc entry = .ok (follow doc r) := by
  simp only [route?, Option.bind_eq_bind, Option.bind_eq_some_iff, Option.pure_def,
    Option.some.injEq] at named
  obtain ⟨s, text, ns, namedTarget, rfl⟩ := named
  obtain ⟨values, denoted, spelled⟩ := destinations_of_names? namedTarget
  refine ⟨⟨entry.1, values⟩, ⟨text, spelled⟩, fun doc => ?_⟩
  have keysSpelled : List.Forall₂ (fun v s => v.isKey = true ∧ v.text? = some s) values ns :=
    spelled.imp fun _ _ text => ⟨Value.isKey_of_text? text, text⟩
  have usable : ∀ d ∈ values, d.isKey = true := ((List.forall₂_and_left _ _).mp keysSpelled).1
  rw [copy, follow, writes]
  cases get? entry.1 doc with
  | none => rfl
  | some a =>
    rw [denoted]
    exact foldlM_write usable doc

theorem exists_routes {mapping : List (Value × Value)} {names : List (Route String)}
    (named : routes? mapping = some names) :
    ∃ rs, List.Forall₂ Spells rs names ∧
      ∀ doc, mapping.foldlM copy doc = .ok (followAll rs doc) := by
  induction mapping generalizing names with
  | nil =>
    cases named
    exact ⟨[], .nil, fun _ => rfl⟩
  | cons entry mapping inductionHypothesis =>
    obtain ⟨first, rest, namedFirst, namedRest, rfl⟩ := mapM_cons_eq_some.mp named
    obtain ⟨r, spelled, copied⟩ := exists_route namedFirst
    obtain ⟨rs, spelledRest, copiedRest⟩ := inductionHypothesis namedRest
    refine ⟨r :: rs, .cons spelled spelledRest, fun doc => ?_⟩
    rw [List.foldlM_cons, copied]
    exact copiedRest _

theorem fields?_putAll {a : Value} {values : List Value} {names : List String}
    (spelled : List.Forall₂ (fun v s => v.text? = some s) values names)
    {doc : List (Value × Value)} {fields : List (String × Value)}
    (named : fields? doc = some fields) :
    fields? (putAll doc (values.map fun v => (v, a))) =
      some (putAll fields (names.map fun s => (s, a))) := by
  induction spelled generalizing doc fields with
  | nil => exact named
  | cons text _ inductionHypothesis => exact inductionHypothesis (fields?_put named text a)

theorem fields?_follow {r : Route Value} {names : Route String} (spelled : Spells r names)
    {doc : List (Value × Value)} {fields : List (String × Value)}
    (named : fields? doc = some fields) :
    fields? (follow doc r) = some (follow fields names) := by
  rw [follow, follow, writes, writes, get?_of_fields? named spelled.source]
  cases get? names.source fields with
  | none => exact named
  | some a => exact fields?_putAll spelled.destinations named

theorem fields?_followAll {rs : List (Route Value)} {names : List (Route String)}
    (spelled : List.Forall₂ Spells rs names) {doc : List (Value × Value)}
    {fields : List (String × Value)} (named : fields? doc = some fields) :
    fields? (followAll rs doc) = some (followAll names fields) := by
  induction spelled generalizing doc fields with
  | nil => exact named
  | cons first _ inductionHypothesis => exact inductionHypothesis (fields?_follow first named)

/-! ## Lists of documents -/

/-- A document with routes followed; anything else as it is. -/
def carry (rs : List (Route Value)) : Value → Value
  | .dict doc => .dict (followAll rs doc)
  | v => v

theorem remapAll_eq_map {mapping : List (Value × Value)} {rs : List (Route Value)}
    (copied : ∀ doc, mapping.foldlM copy doc = .ok (followAll rs doc)) (docs : List Value) :
    remapAll mapping docs = .ok (docs.map (carry rs)) := by
  have each : remap mapping = fun v => pure (carry rs v) := by
    funext v
    cases v with
    | dict doc => rw [remap, copied]; rfl
    | _ => rfl
  rw [remapAll, each, List.mapM_pure]
  split
  · next empty =>
    rw [List.isEmpty_iff.mp empty] at copied
    have same : carry rs = id := by
      funext v
      cases v with
      | dict doc =>
        have unchanged : doc = followAll rs doc := Except.ok.inj (copied doc)
        rw [carry, ← unchanged, id]
      | _ => rfl
    rw [same, List.map_id]
  · rfl

/-- The names of a field mapping are its sources and destinations. -/
theorem routes?_table (mapping : FieldMapping) :
    routes? (table mapping) = some (mapping.map fun e => ⟨e.1, e.2.names⟩) := by
  have names?_toValue : ∀ destination : Destination,
      names? destination.toValue = some destination.names := by
    intro destination
    cases destination with
    | one name => rfl
    | many names =>
      have texts : (Value.text? ∘ Value.text) = pure := rfl
      rw [Destination.toValue, names?, List.mapM_map, texts, List.mapM_pure, List.map_id']
      rfl
  have each : (route? ∘ fun e : String × Destination => (.text e.1, e.2.toValue)) =
      fun e => pure ⟨e.1, e.2.names⟩ := by
    funext e
    rw [Function.comp_apply, route?, names?_toValue]
    rfl
  rw [routes?, table, List.mapM_map, each, List.mapM_pure]
  rfl

/-- A mapping of names never fails. -/
theorem exists_remapAll {mapping : List (Value × Value)} {names : List (Route String)}
    (named : routes? mapping = some names) (docs : List Value) :
    ∃ mapped, remapAll mapping docs = .ok mapped := by
  obtain ⟨rs, _, copied⟩ := exists_routes named
  exact ⟨_, remapAll_eq_map copied docs⟩

/-- A mapping to something else may fail. -/
example : remapAll [(.text "a", .int 5)] [.dict [(.text "a", .null)]] =
    .error (.noDestinations (.int 5)) := rfl

/-- A mapping of names gives a list of as many values. What is no document is unchanged at its
place, and a document with texts as keys becomes what the routes of the mapping make out of it. -/
theorem remapAll_yields {mapping : List (Value × Value)} {routes : List (Route String)}
    (named : routes? mapping = some routes) (docs : List Value) :
    ∃ mapped, remapAll mapping docs = .ok mapped ∧ mapped.length = docs.length ∧
      (∀ (i : Nat) (v : Value), docs[i]? = some v → (∀ doc, v ≠ .dict doc) →
        mapped[i]? = some v) ∧
      ∀ (i : Nat) (doc : List (Value × Value)) (fields : List (String × Value)),
        docs[i]? = some (.dict doc) → fields? doc = some fields → (keys fields).Nodup →
        ∃ out outFields, mapped[i]? = some (.dict out) ∧ fields? out = some outFields ∧
          Yields routes fields outFields := by
  obtain ⟨rs, spelled, copied⟩ := exists_routes named
  refine ⟨_, remapAll_eq_map copied docs, List.length_map _, ?_, ?_⟩
  · intro i v place noDocument
    rw [List.getElem?_map, place, Option.map_some]
    cases v with
    | dict doc => exact absurd rfl (noDocument doc)
    | _ => rfl
  · intro i doc fields place namedDoc distinct
    refine ⟨followAll rs doc, followAll routes fields, ?_, fields?_followAll spelled namedDoc,
      yields_followAll routes distinct⟩
    rw [List.getElem?_map, place]
    rfl

/-- A chain of two entries back to the field it starts from, and a value that is no document. -/
theorem remapAll_yields_chain :
    let mapping : List (Value × Value) := [(.field .title, .text "b"),
      (.text "b", .tuple [.text "c", .text "title"])]
    let doc : List (Value × Value) := [(.text "c", .int 1), (.text "title", .int 2)]
    let routes : List (Route String) := [⟨"title", ["b"]⟩, ⟨"b", ["c", "title"]⟩]
    let fields : List (String × Value) := [("c", .int 1), ("title", .int 2)]
    routes? mapping = some routes ∧ fields? doc = some fields ∧ (keys fields).Nodup ∧
      ∃ mapped out outFields, remapAll mapping [.text "raw", .dict doc] = .ok mapped ∧
        mapped[0]? = some (.text "raw") ∧ mapped[1]? = some (.dict out) ∧
        fields? out = some outFields ∧ keys outFields = ["c", "title", "b"] ∧
        get? "c" outFields = some (.int 2) := by
  intro mapping doc routes fields
  have namedMapping : routes? mapping = some routes := rfl
  have distinct : (keys fields).Nodup := by decide
  obtain ⟨mapped, result, _, others, documents⟩ :=
    remapAll_yields namedMapping [.text "raw", .dict doc]
  obtain ⟨out, outFields, place, named, yields⟩ := documents 1 doc fields rfl rfl distinct
  have raw : mapped[0]? = some (.text "raw") := others 0 _ rfl (by simp)
  refine ⟨namedMapping, rfl, distinct, mapped, out, outFields, result, raw, place, named, ?_, ?_⟩
  · rw [yields.keys_eq]
    decide
  · rw [yields.get?_of_last "c" [⟨"title", ["b"]⟩] ⟨"b", ["c", "title"]⟩ []
      ⟨rfl, by decide, by decide⟩]
    · rfl
    · rintro before r after ⟨place, _, _⟩
      have length := congrArg List.length place
      simp [routes] at length
      simp
      omega

end Document

end SolrRequest
