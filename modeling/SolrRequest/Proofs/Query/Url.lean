import SolrRequest.Proofs.Query.Mode
import SolrRequest.Proofs.Query.Parameters
import SolrRequest.Proofs.Settings.Endpoint

/-!
# Reading a URL back

A URL is cut at its first question mark. What follows is split at `&`, and each piece is cut at its
first `=`. This gives back the base and all that a query sends behind it, provided that the base has
no question mark and no value has an `&`.
-/

namespace SolrRequest

namespace Params

/-- The text of the pair is not split, and is cut between name and value. -/
structure Separable (p : String × String) : Prop where
  name : '=' ∉ p.1.toList
  pair : '&' ∉ (Params.pair p).toList

theorem toList_pair (p : String × String) :
    (pair p).toList = p.1.toList ++ '=' :: p.2.toList := by
  simp [pair]

theorem toList_render {p : Params} (nonempty : p.pairs ≠ []) :
    p.render.toList = '?' :: ['&'].intercalate (p.pairs.map fun p => (pair p).toList) := by
  have marked : p.render = "?" ++ "&".intercalate (p.pairs.map pair) := by
    rw [render, if_neg (by simpa using nonempty)]
  rw [marked, String.toList_append, String.toList_intercalate, List.map_map]
  rfl

theorem render_eq_empty {p : Params} : p.render = "" ↔ p.pairs = [] := by
  constructor
  · intro empty
    apply Classical.byContradiction
    intro nonempty
    have marked := toList_render nonempty
    rw [empty] at marked
    cases marked
  · intro none
    rw [render, none]
    rfl

/-- A further pair stands behind `&`, but behind the question mark if it is the first. -/
theorem render_concat (pairs : List (String × String)) (p : String × String) :
    render ⟨pairs ++ [p]⟩ =
      render ⟨pairs⟩ ++ ((if (render ⟨pairs⟩).isEmpty then "?" else "&") ++ pair p) := by
  by_cases empty : pairs = []
  · rw [empty, render_eq_empty.mpr rfl, List.nil_append, String.empty_append]
    simp [render]
  · have filled : (render ⟨pairs⟩).isEmpty = false := by
      rw [String.isEmpty_eq_false_iff]
      exact fun none => empty (render_eq_empty.mp none)
    rw [filled, render, render, if_neg (by simp), if_neg (by simpa using empty), List.map_append,
      String.intercalate_append_of_ne_nil (by simpa using empty) (by simp)]
    simp [String.append_assoc]

end Params

namespace Url

/-- A name and, if there is an equals sign, what follows the first one. -/
def pair (piece : List Char) : String × Option String :=
  let (name, value) := Text.cut '=' piece
  (String.ofList name, value.map String.ofList)

/-- What stands before the first question mark, and the pairs behind it. -/
def decode (url : String) : String × List (String × Option String) :=
  let (base, pairs) := Text.cut '?' url.toList
  (String.ofList base, match pairs with
    | none => []
    | some s => (s.splitOn '&').map pair)

theorem pair_toList {p : String × String} (separable : Params.Separable p) :
    pair (Params.pair p).toList = (p.1, some p.2) := by
  rw [pair, Params.toList_pair, Text.cut_append_cons separable.name]
  simp

theorem decode_append_render {base : String} (noQuery : '?' ∉ base.toList)
    {pairs : List (String × String)} (separable : ∀ p ∈ pairs, Params.Separable p) :
    decode (base ++ Params.render ⟨pairs⟩) = (base, pairs.map fun p => (p.1, some p.2)) := by
  rw [decode, String.toList_append]
  by_cases empty : pairs = []
  · rw [Params.render_eq_empty.mpr empty, String.toList_empty, List.append_nil,
      Text.cut_of_notMem noQuery, empty]
    simp
  · have pieces : ∀ piece ∈ pairs.map fun p => (Params.pair p).toList, '&' ∉ piece := by
      intro piece membership
      obtain ⟨p, present, rfl⟩ := List.mem_map.mp membership
      exact (separable p present).pair
    have read : ∀ p ∈ pairs, pair (Params.pair p).toList = (p.1, some p.2) :=
      fun p present => pair_toList (separable p present)
    rw [Params.toList_render empty, Text.cut_append_cons noQuery]
    simp only [List.splitOn_intercalate _ pieces (by simpa using empty), List.map_map,
      String.ofList_toList]
    congr 1
    exact List.map_congr_left read

theorem notMem_append_render {base : String} (noQuery : '?' ∉ base.toList)
    {pairs : List (String × String)} :
    '?' ∉ (base ++ Params.render ⟨pairs⟩).toList ↔ pairs = [] := by
  rw [String.toList_append]
  constructor
  · intro absent
    apply Classical.byContradiction
    intro nonempty
    rw [Params.toList_render nonempty] at absent
    simp at absent
  · intro empty
    rw [Params.render_eq_empty.mpr empty]
    simpa using noQuery

end Url

theorem IsParameter.separable {p : String × String} (isParameter : IsParameter p) :
    Params.Separable p := by
  obtain ⟨name, value⟩ := p
  obtain ⟨known, noEnd⟩ := isParameter
  have names : ∀ s ∈ ["q", "fq", "fl", "sort", "start", "rows"],
      '=' ∉ s.toList ∧ '&' ∉ s.toList := by decide
  obtain ⟨noEquals, noEndName⟩ := names name known
  refine ⟨noEquals, ?_⟩
  rw [Params.toList_pair]
  simpa using ⟨noEndName, noEnd⟩

namespace Query

def roles (q : Query) : List (String × String) :=
  if q.restrictRoles then [("targetingRoles", "true")] else []

def sent (q : Query) : List (String × String) :=
  q.request.params ++ q.roles

theorem queryString_eq (q : Query) : q.queryString = Params.render ⟨q.request.params⟩ := by
  unfold queryString
  cases q.request <;> rfl

theorem url_eq (q : Query) : q.url = q.base ++ Params.render ⟨q.sent⟩ := by
  rw [url, queryString_eq, sent, roles, String.append_assoc]
  cases q.restrictRoles with
  | false => simp
  | true =>
    simp only [if_true, Params.render_concat]
    rfl

theorem separable_sent {q : Query} (parameters : ∀ p ∈ q.request.params, IsParameter p) :
    ∀ p ∈ q.sent, Params.Separable p := by
  intro p present
  rcases List.mem_append.mp present with parameter | role
  · exact (parameters p parameter).separable
  · rw [roles] at role
    split at role
    · rw [List.mem_singleton.mp role]
      exact ⟨by decide, by decide⟩
    · cases role

theorem not_isParameter_roles {q : Query} : ∀ p ∈ q.roles, ¬ IsParameter p := by
  rintro p role ⟨known, _⟩
  rw [roles] at role
  split at role
  · rw [List.mem_singleton.mp role] at known
    revert known
    decide
  · cases role

theorem filter_sent {q : Query} (parameters : ∀ p ∈ q.request.params, IsParameter p) :
    (q.sent.filter fun p => IsParameter p) = q.request.params := by
  have all : (q.request.params.filter fun p => IsParameter p) = q.request.params :=
    List.filter_eq_self.mpr fun p present => decide_eq_true (parameters p present)
  have none : (q.roles.filter fun p => IsParameter p) = [] :=
    List.filter_eq_nil_iff.mpr fun p role => by simpa using not_isParameter_roles p role
  rw [sent, List.filter_append, all, none, List.append_nil]

/-- The restriction to roles is told from the parameters by its name. -/
theorem eq_of_sent_eq {q r : Query} (ofFirst : ∀ p ∈ q.request.params, IsParameter p)
    (ofSecond : ∀ p ∈ r.request.params, IsParameter p) (same : q.sent = r.sent) :
    q.request.params = r.request.params ∧ q.restrictRoles = r.restrictRoles := by
  have sameParams : q.request.params = r.request.params := by
    rw [← filter_sent ofFirst, ← filter_sent ofSecond, same]
  have sameRoles : q.roles = r.roles := by
    rw [sent, sent, sameParams] at same
    exact List.append_cancel_left same
  refine ⟨sameParams, ?_⟩
  unfold roles at sameRoles
  cases first : q.restrictRoles <;> cases second : r.restrictRoles <;> simp_all

/-- The base of a run from a new query: the URL that the query was made with, unless it is empty,
and else that of the endpoint for a body or for parameters. -/
inductive IsBase (baseUrl : Option String) (endpoint : Endpoint) (calls : List Call) : String → Prop
  | own {url : String} (nonempty : url ≠ "") (made : baseUrl = some url) :
      IsBase baseUrl endpoint calls url
  | post (notMade : baseUrl = none ∨ baseUrl = some "") (switched : .switchToPost ∈ calls) :
      IsBase baseUrl endpoint calls endpoint.postUrl
  | get (notMade : baseUrl = none ∨ baseUrl = some "") (unswitched : .switchToPost ∉ calls) :
      IsBase baseUrl endpoint calls endpoint.getUrl

theorem isPost_run_new {baseUrl : Option String} {endpoint : Endpoint} {calls : List Call} :
    ((new baseUrl endpoint).run calls).isPost = true ↔ .switchToPost ∈ calls := by
  rw [isPost_run]
  simp [new, isPost]

/-- A URL that is not empty is taken before those of the endpoint. -/
theorem base_of_baseUrl {q : Query} {url : String} (nonempty : url ≠ "")
    (made : q.baseUrl = some url) : q.base = url := by
  unfold base
  rw [made]
  split
  · next empty => exact absurd (Option.some.inj empty) nonempty
  · next none => cases none
  · next found => exact (Option.some.inj found).symm

theorem IsBase.base_eq {baseUrl : Option String} {endpoint : Endpoint} {calls : List Call}
    {base : String} (isBase : IsBase baseUrl endpoint calls base) :
    ((new baseUrl endpoint).run calls).base = base := by
  have sameBaseUrl : ((new baseUrl endpoint).run calls).baseUrl = baseUrl := baseUrl_run _ calls
  have sameEndpoint : ((new baseUrl endpoint).run calls).endpoint = endpoint := endpoint_run _ calls
  cases isBase with
  | own nonempty made => exact base_of_baseUrl nonempty (sameBaseUrl.trans made)
  | post notMade switched =>
    rw [Query.base, sameBaseUrl, sameEndpoint, isPost_run_new.mpr switched]
    rcases notMade with rfl | rfl <;> rfl
  | get notMade unswitched =>
    rw [Query.base, sameBaseUrl, sameEndpoint,
      Bool.eq_false_iff.mpr (unswitched ∘ isPost_run_new.mp)]
    rcases notMade with rfl | rfl <;> rfl

/-- A run from a new query with no `&` in the texts of its accepted calls, and with a base that has
no question mark. -/
structure Decodable (baseUrl : Option String) (endpoint : Endpoint) (calls : List Call)
    (base : String) : Prop where
  isBase : IsBase baseUrl endpoint calls base
  texts : ∀ c ∈ calls, ∀ s ∈ c.texts, '&' ∉ s.toList
  noQuestionMark : '?' ∉ base.toList

namespace Decodable

variable {baseUrl : Option String} {endpoint : Endpoint} {calls : List Call} {base : String}

theorem isParameter (decodable : Decodable baseUrl endpoint calls base) :
    ∀ p ∈ ((new baseUrl endpoint).run calls).request.params, IsParameter p :=
  isParameter_run decodable.texts (by simp [new, Params.empty, Request.params])

theorem decode_url (decodable : Decodable baseUrl endpoint calls base) :
    let q := (new baseUrl endpoint).run calls
    Url.decode q.url = (base, q.sent.map fun p => (p.1, some p.2)) := by
  intro q
  rw [url_eq, decodable.isBase.base_eq]
  exact Url.decode_append_render decodable.noQuestionMark (separable_sent decodable.isParameter)

theorem eq_of_url_eq {baseUrl' : Option String} {endpoint' : Endpoint} {calls' : List Call}
    {base' : String} (decodable : Decodable baseUrl endpoint calls base)
    (decodable' : Decodable baseUrl' endpoint' calls' base') :
    let q := (new baseUrl endpoint).run calls
    let r := (new baseUrl' endpoint').run calls'
    q.url = r.url → base = base' ∧ q.request.params = r.request.params ∧
      q.restrictRoles = r.restrictRoles := by
  intro q r sameUrl
  have sameDecoded := congrArg Url.decode sameUrl
  rw [decodable.decode_url, decodable'.decode_url] at sameDecoded
  obtain ⟨sameBase, samePairs⟩ := Prod.mk.inj sameDecoded
  have sameSent : q.sent = r.sent := by
    apply List.map_injective_iff.mpr _ samePairs
    intro p p' same
    simpa [Prod.ext_iff] using same
  exact ⟨sameBase, eq_of_sent_eq decodable.isParameter decodable'.isParameter sameSent⟩

end Decodable

theorem request_eq_get {q : Query} (get : q.isPost = false) :
    q.request = .get ⟨q.request.params⟩ := by
  unfold isPost at get
  split at get
  · next params request => rw [request, Request.params]
  · cases get

theorem params_of_isPost {q : Query} (post : q.isPost = true) : q.request.params = [] := by
  unfold isPost at post
  split at post
  · cases post
  · next body request => rw [request, Request.params]

/-- The URL of a run that is decodable is read back as its base and all that is sent behind it: the
parameters in the order of the calls, none for a body, and the restriction to roles if it was
called. It has no question mark exactly if that is nothing. So two such queries that send parameters
have one URL only if they have the same base, the same parameters and the same restriction. The URLs
of settings have no question mark. -/
theorem url_decodes (baseUrl : Option String) (endpoint : Endpoint) (calls : List Call)
    (base : String) (decodable : Decodable baseUrl endpoint calls base) :
    let q := (new baseUrl endpoint).run calls
    let sent := q.request.params ++
      if q.restrictRoles then [("targetingRoles", "true")] else []
    Url.decode q.url = (base, sent.map fun p => (p.1, some p.2)) ∧
      ('?' ∉ q.url.toList ↔ sent = []) ∧
      (q.restrictRoles = true ↔ .restrictByRoles ∈ calls) ∧
      (.switchToPost ∈ calls → q.request.params = []) ∧
      (.switchToPost ∉ calls → q.request = .get ⟨q.request.params⟩ ∧
        q.request.params = calls.filterMap Call.parameter?) ∧
      (∀ baseUrl' endpoint' calls' base', Decodable baseUrl' endpoint' calls' base' →
        let r := (new baseUrl' endpoint').run calls'
        .switchToPost ∉ calls → .switchToPost ∉ calls' → q.url = r.url →
          base = base' ∧ q.request = r.request ∧ q.restrictRoles = r.restrictRoles) ∧
      ∀ table settings, Settings.read table = .ok settings →
        '?' ∉ settings.solr.getUrl.toList ∧ '?' ∉ settings.solr.postUrl.toList := by
  intro q sent
  have getOf {baseUrl : Option String} {endpoint : Endpoint} {calls : List Call}
      (absent : .switchToPost ∉ calls) : ((new baseUrl endpoint).run calls).isPost = false :=
    Bool.eq_false_iff.mpr (absent ∘ isPost_run_new.mp)
  refine ⟨decodable.decode_url, ?_, ?_, ?_, ?_, ?_, ?_⟩
  · rw [url_eq, decodable.isBase.base_eq]
    exact Url.notMem_append_render decodable.noQuestionMark
  · rw [run_restrictRoles]
    simp [new]
  · intro present
    exact params_of_isPost (isPost_run_new.mpr present)
  · intro absent
    refine ⟨request_eq_get (getOf absent), ?_⟩
    rw [run_params rfl absent]
    rfl
  · intro baseUrl' endpoint' calls' base' decodable' r absent absent' sameUrl
    obtain ⟨sameBase, sameParams, sameRestriction⟩ := decodable.eq_of_url_eq decodable' sameUrl
    refine ⟨sameBase, ?_, sameRestriction⟩
    rw [request_eq_get (getOf absent), request_eq_get (getOf absent'), sameParams]
  · intro table settings result
    have checked := Settings.checked_of_read result
    exact ⟨checked.getUrl, checked.postUrl⟩

/-- A value with both separators that are allowed in it, and a call that is not accepted. The query
was made with an empty URL, so that the one of the endpoint is the base. -/
theorem url_decodes_roles :
    let endpoint : Endpoint := { Endpoint.standard with getUrl := "http://host/a&b" }
    let calls : List Call := [.query (.text "a=b?"), .filter (.text " "), .restrictByRoles,
      .fields (.tuple [.field .title, .text "x"])]
    let q := (new (some "") endpoint).run calls
    Decodable (some "") endpoint calls "http://host/a&b" ∧
      Url.decode q.url = ("http://host/a&b",
        [("q", some "a=b?"), ("fl", some "title,x"), ("targetingRoles", some "true")]) := by
  intro endpoint calls q
  have decodable : Decodable (some "") endpoint calls "http://host/a&b" :=
    ⟨.get (.inr rfl) (by simp [calls]), by decide, by decide⟩
  refine ⟨decodable, ?_⟩
  rw [(url_decodes (some "") endpoint calls "http://host/a&b" decodable).1]
  decide

end Query

end SolrRequest
