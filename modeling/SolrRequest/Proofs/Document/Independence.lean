import SolrRequest.Proofs.Document.Remapping

/-!
# Mappings whose entries are independent

Where no destination is a source, every route reads what the document had from the start, and where
no name is a destination of two routes, no route writes over another one. Then the order of the
routes is of no account, and following them again finds every value where it belongs already.
-/

namespace SolrRequest

universe u v

namespace Route

open Entries

variable {κ : Type u} {α : Type v}

structure Independent (routes : List (Route κ)) : Prop where
  /-- No destination is a source, be it of the same route or of another one. -/
  sources : ∀ r ∈ routes, ∀ other ∈ routes, other.source ∉ r.destinations
  /-- No two routes share a destination. -/
  destinations : routes.Pairwise fun r other => ∀ key ∈ r.destinations, key ∉ other.destinations

theorem Independent.perm {routes other : List (Route κ)} (independent : Independent routes)
    (perm : routes.Perm other) : Independent other where
  sources r membership s membershipOfSource :=
    independent.sources r (perm.mem_iff.mpr membership) s (perm.mem_iff.mpr membershipOfSource)
  destinations := independent.destinations.perm perm fun apart key named namedFirst =>
    apart key namedFirst named

variable [BEq κ]

/-- Every destination of the route has the value of its source, if there is one. -/
def Done (doc : List (κ × α)) (r : Route κ) : Prop :=
  ∀ a, get? r.source doc = some a → ∀ key ∈ r.destinations, get? key doc = some a

theorem follow_of_done {doc : List (κ × α)} {r : Route κ} (done : Done doc r) :
    follow doc r = doc := by
  apply putAll_of_get?
  intro e written
  unfold writes at written
  split at written
  · cases written
  · next a found =>
    obtain ⟨key, named, rfl⟩ := List.mem_map.mp written
    exact done a found key named

theorem followAll_of_done {doc : List (κ × α)} {routes : List (Route κ)}
    (done : ∀ r ∈ routes, Done doc r) : followAll routes doc = doc := by
  induction routes with
  | nil => rfl
  | cons r routes inductionHypothesis =>
    obtain ⟨doneFirst, doneRest⟩ := List.forall_mem_cons.mp done
    rw [followAll, List.foldl_cons, ← followAll, follow_of_done doneFirst,
      inductionHypothesis doneRest]

variable [LawfulBEq κ] {routes other : List (Route κ)} {doc : List (κ × α)} {key : κ}

/-- A field keeps its value if no route with a source in the document has it as destination. -/
theorem get?_followAll_of_idle (sources : ∀ r ∈ routes, ∀ s ∈ routes, s.source ∉ r.destinations)
    (idle : ∀ r ∈ routes, r.source ∈ keys doc → key ∉ r.destinations) :
    get? key (followAll routes doc) = get? key doc := by
  apply get?_followAll_of_not_written
  rintro before r after ⟨rfl, present, named⟩
  have member : r ∈ before ++ r :: after := by simp
  -- A source that is there when its route is reached was there before, as it is no destination.
  have original : r.source ∈ keys doc := by
    rcases mem_keys_followAll.mp present with old | ⟨chain, isSublist, _, _, last, isLast, leads⟩
    · exact old
    · have lastMember := isSublist.subset (List.mem_of_getLast? isLast)
      exact absurd leads (sources last (List.mem_append_left _ lastMember) r member)
  exact idle r member original named

theorem get?_followAll_of_unnamed (unnamed : ∀ r ∈ routes, key ∉ r.destinations) :
    get? key (followAll routes doc) = get? key doc := by
  apply get?_followAll_of_not_written
  rintro before r after ⟨rfl, _, named⟩
  exact unnamed r (by simp) named

/-- A destination gets the value that the source had from the start. -/
theorem Independent.get?_destination (independent : Independent routes) {r : Route κ}
    (member : r ∈ routes) (present : r.source ∈ keys doc) (named : key ∈ r.destinations) :
    get? key (followAll routes doc) = get? r.source doc := by
  obtain ⟨before, after, rfl⟩ := List.append_of_mem member
  have sourceKept : get? r.source (followAll before doc) = get? r.source doc :=
    get?_followAll_of_unnamed fun s earlier =>
      independent.sources s (List.mem_append_left _ earlier) r member
  have presentThen : r.source ∈ keys (followAll before doc) :=
    mem_keys_followAll.mpr (.inl present)
  have apart := (List.pairwise_cons.mp (List.pairwise_append.mp independent.destinations).2.1).1
  calc get? key (followAll (before ++ r :: after) doc)
      = get? key (followAll after (follow (followAll before doc) r)) := by
        rw [followAll_append]
        rfl
    _ = get? key (follow (followAll before doc) r) :=
        get?_followAll_of_unnamed fun s later => apart s later key named
    _ = get? r.source (followAll before doc) := get?_follow_of_written presentThen named
    _ = get? r.source doc := sourceKept

/-- The order of independent routes has no effect on any field. -/
theorem Independent.get?_followAll_perm (independent : Independent routes)
    (perm : routes.Perm other) (doc : List (κ × α)) (key : κ) :
    get? key (followAll routes doc) = get? key (followAll other doc) := by
  have independentOther := independent.perm perm
  by_cases written : ∃ r ∈ routes, r.source ∈ keys doc ∧ key ∈ r.destinations
  · obtain ⟨r, member, present, named⟩ := written
    rw [independent.get?_destination member present named,
      independentOther.get?_destination (perm.mem_iff.mp member) present named]
  · have idle : ∀ r ∈ routes, r.source ∈ keys doc → key ∉ r.destinations :=
      fun r member present named => written ⟨r, member, present, named⟩
    rw [get?_followAll_of_idle independent.sources idle,
      get?_followAll_of_idle independentOther.sources
        fun r member => idle r (perm.mem_iff.mpr member)]

theorem Independent.followAll_perm (independent : Independent routes) (perm : routes.Perm other)
    (distinct : (keys doc).Nodup) : (followAll routes doc).Perm (followAll other doc) :=
  perm_of_get?_eq (yields_followAll routes distinct).nodup (yields_followAll other distinct).nodup
    (independent.get?_followAll_perm perm doc)

/-- Independent routes have nothing left to do once they have been followed. -/
theorem Independent.done (independent : Independent routes) (doc : List (κ × α)) :
    ∀ r ∈ routes, Done (followAll routes doc) r := by
  intro r member a found key named
  have sourceKept : get? r.source (followAll routes doc) = get? r.source doc :=
    get?_followAll_of_unnamed fun s memberOther => independent.sources s memberOther r member
  rw [sourceKept] at found
  rw [independent.get?_destination member (mem_keys_of_get? found) named, found]

end Route

namespace Document

open Entries Route

/-- The keys of a document are texts, each of them once. -/
def IsNamed (doc : List (Value × Value)) : Prop :=
  ∃ fields, fields? doc = some fields ∧ (keys fields).Nodup

/-- Two documents have the same fields with the same values; anything else is just the same. -/
inductive SameFields : Value → Value → Prop
  | refl (v : Value) : SameFields v v
  | documents {doc other : List (Value × Value)} {fields otherFields : List (String × Value)}
      (named : fields? doc = some fields) (namedOther : fields? other = some otherFields)
      (perm : fields.Perm otherFields) : SameFields (.dict doc) (.dict other)

theorem done_of_spells {r : Route Value} {names : Route String} (spelled : Spells r names)
    {doc : List (Value × Value)} {fields : List (String × Value)}
    (named : fields? doc = some fields)
    (done : Done fields names) : Done doc r := by
  intro a found key isDestination
  rw [get?_of_fields? named spelled.source] at found
  obtain ⟨s, isName, text⟩ := exists_mem_of_forall₂ spelled.destinations isDestination
  rw [get?_of_fields? named text]
  exact done a found s isName

/-- Once independent routes have been followed, they change nothing in a document, whatever their
order. -/
theorem carry_carry {rs others : List (Route Value)} {names otherNames : List (Route String)}
    (spelled : List.Forall₂ Spells rs names) (spelledOther : List.Forall₂ Spells others otherNames)
    (independent : Independent names) (perm : names.Perm otherNames) {v : Value}
    (named : ∀ doc, v = .dict doc → IsNamed doc) : carry others (carry rs v) = carry rs v := by
  cases v with
  | dict doc =>
    obtain ⟨fields, namedDoc, _⟩ := named doc rfl
    apply congrArg Value.dict
    apply followAll_of_done
    intro r member
    obtain ⟨n, memberName, spells⟩ := exists_mem_of_forall₂ spelledOther member
    exact done_of_spells spells (fields?_followAll spelled namedDoc)
      (independent.done fields n (perm.mem_iff.mpr memberName))
  | _ => rfl

theorem sameFields_carry {rs others : List (Route Value)} {names otherNames : List (Route String)}
    (spelled : List.Forall₂ Spells rs names) (spelledOther : List.Forall₂ Spells others otherNames)
    (independent : Independent names) (perm : names.Perm otherNames) {v : Value}
    (named : ∀ doc, v = .dict doc → IsNamed doc) : SameFields (carry rs v) (carry others v) := by
  cases v with
  | dict doc =>
    obtain ⟨fields, namedDoc, distinct⟩ := named doc rfl
    exact .documents (fields?_followAll spelled namedDoc) (fields?_followAll spelledOther namedDoc)
      (independent.followAll_perm perm distinct)
  | _ => exact .refl _

theorem remapAll_carried {mapping : List (Value × Value)} {rs others : List (Route Value)}
    {names otherNames : List (Route String)}
    (copied : ∀ doc, mapping.foldlM copy doc = .ok (followAll others doc))
    (spelled : List.Forall₂ Spells rs names) (spelledOther : List.Forall₂ Spells others otherNames)
    (independent : Independent names) (perm : names.Perm otherNames) {docs : List Value}
    (named : ∀ v ∈ docs, ∀ doc, v = .dict doc → IsNamed doc) :
    remapAll mapping (docs.map (carry rs)) = .ok (docs.map (carry rs)) := by
  rw [remapAll_eq_map copied, List.map_map]
  apply congrArg Except.ok
  apply List.map_congr_left
  intro v member
  exact carry_carry spelled spelledOther independent perm (named v member)

/-- The entries of a mapping of names in which no destination is a source and none stands in two
entries may be put in any order: the documents get the same fields with the same values. What they
have become then, the mapping leaves as it is in either order, down to the order of the keys. -/
theorem remapAll_reordered {mapping reordered : List (Value × Value)} {routes : List (Route String)}
    (named : routes? mapping = some routes) (independent : Independent routes)
    (perm : mapping.Perm reordered) {docs : List Value}
    (namedDocs : ∀ doc, .dict doc ∈ docs → IsNamed doc) :
    ∃ mapped other, remapAll mapping docs = .ok mapped ∧ remapAll reordered docs = .ok other ∧
      List.Forall₂ SameFields mapped other ∧
      remapAll mapping mapped = .ok mapped ∧ remapAll reordered mapped = .ok mapped := by
  obtain ⟨otherRoutes, namedOther, permRoutes⟩ := exists_perm_of_mapM perm named
  obtain ⟨rs, spelled, copied⟩ := exists_routes named
  obtain ⟨others, spelledOther, copiedOther⟩ := exists_routes namedOther
  have namedEach : ∀ v ∈ docs, ∀ doc, v = .dict doc → IsNamed doc := by
    rintro v member doc rfl
    exact namedDocs doc member
  refine ⟨docs.map (carry rs), docs.map (carry others), remapAll_eq_map copied docs,
    remapAll_eq_map copiedOther docs, ?_, ?_, ?_⟩
  · rw [List.forall₂_map_left_iff, List.forall₂_map_right_iff, List.forall₂_same]
    intro v member
    exact sameFields_carry spelled spelledOther independent permRoutes (namedEach v member)
  · exact remapAll_carried copied spelled spelled independent (.refl routes) namedEach
  · exact remapAll_carried copiedOther spelled spelledOther independent permRoutes namedEach

/-- One destination is a field of the document already, and the two orders write the others in
different places. -/
theorem remapAll_reordered_pair :
    let mapping : List (Value × Value) := [(.field .title, .text "a"),
      (.text "n", .tuple [.text "b", .text "c"])]
    let docs : List Value := [.text "raw",
      .dict [(.text "b", .int 1), (.text "n", .int 2), (.text "title", .int 3)]]
    let mapped : List Value := [.text "raw", .dict [(.text "b", .int 2), (.text "n", .int 2),
      (.text "title", .int 3), (.text "a", .int 3), (.text "c", .int 2)]]
    let routes : List (Route String) := [⟨"title", ["a"]⟩, ⟨"n", ["b", "c"]⟩]
    routes? mapping = some routes ∧ Independent routes ∧ mapping.Perm mapping.reverse ∧
      (∀ doc, .dict doc ∈ docs → IsNamed doc) ∧
      ∃ other, remapAll mapping docs = .ok mapped ∧ remapAll mapping.reverse docs = .ok other ∧
        List.Forall₂ SameFields mapped other ∧ remapAll mapping mapped = .ok mapped := by
  intro mapping docs mapped routes
  have named : routes? mapping = some routes := rfl
  have independent : Independent routes := ⟨by decide, by decide⟩
  have perm : mapping.Perm mapping.reverse := (List.reverse_perm mapping).symm
  have namedDocs : ∀ doc, .dict doc ∈ docs → IsNamed doc := by
    intro doc member
    obtain rfl : doc = [(.text "b", .int 1), (.text "n", .int 2), (.text "title", .int 3)] := by
      simpa [docs] using member
    exact ⟨[("b", .int 1), ("n", .int 2), ("title", .int 3)], rfl, by decide⟩
  obtain ⟨_, other, ofMapping, ofReordered, same, again, _⟩ :=
    remapAll_reordered named independent perm namedDocs
  obtain rfl : mapped = _ := Except.ok.inj ofMapping
  exact ⟨named, independent, perm, namedDocs, other, ofMapping, ofReordered, same, again⟩

end Document

end SolrRequest
