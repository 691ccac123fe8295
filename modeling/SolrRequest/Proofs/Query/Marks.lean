import SolrRequest.Proofs.Query.Failure
import SolrRequest.Proofs.Query.Mode
import SolrRequest.Proofs.Query.Url

/-!
# Question marks in a query string

A query string begins with a question mark, and the texts of the accepted calls stand behind it as
they were given. So it has one question mark exactly if these texts have none.
-/

namespace SolrRequest

namespace Text

def marks (texts : List String) : Nat :=
  (texts.flatMap String.toList).count '?'

theorem marks_append (texts more : List String) :
    marks (texts ++ more) = marks texts + marks more := by
  rw [marks, List.flatMap_append, List.count_append]
  rfl

theorem marks_cons (text : String) (texts : List String) :
    marks (text :: texts) = text.toList.count '?' + marks texts := by
  rw [marks, List.flatMap_cons, List.count_append]
  rfl

theorem marks_eq_zero {texts : List String} :
    marks texts = 0 ↔ ∀ text ∈ texts, '?' ∉ text.toList := by
  simp [marks, List.count_eq_zero]

theorem marks_singleton (text : String) : marks [text] = text.toList.count '?' := by
  rw [marks, List.flatMap_singleton]

/-- A separator adds none of the characters that it does not have. -/
theorem marks_intercalate {separator : String} (outside : '?' ∉ separator.toList)
    (texts : List String) : marks [separator.intercalate texts] = marks texts := by
  induction texts with
  | nil => rfl
  | cons text texts inductionHypothesis =>
    cases texts with
    | nil => rfl
    | cons next texts =>
      rw [marks_singleton] at inductionHypothesis ⊢
      rw [String.intercalate_cons_cons, String.toList_append, String.toList_append,
        List.count_append, List.count_append, inductionHypothesis, List.count_eq_zero.mpr outside,
        Nat.add_zero, marks_cons text]

theorem marks_decimal (n : Int) : marks [Integer.decimal n] = 0 := by
  rw [marks_eq_zero, List.forall_mem_singleton]
  exact Integer.notMem_decimal (by decide) (by decide) n

end Text

open Text

namespace SortOrder

/-- A direction has no question mark. -/
theorem marks_terms (names : List String) (flags : List Value) :
    marks (terms names flags) = marks names := by
  induction names generalizing flags with
  | nil => rfl
  | cons name names inductionHypothesis =>
    have space : '?' ∉ " ".toList := by decide
    have noMark : '?' ∉ (direction flags.head?).toList := notMem_direction (by decide) _
    rw [terms, marks_cons, marks_cons, inductionHypothesis, String.toList_append,
      String.toList_append, List.count_append, List.count_append, List.count_eq_zero.mpr space,
      List.count_eq_zero.mpr noMark, Nat.add_zero]

theorem marks_text (names : List String) (flags : List Value) :
    marks [text names flags] = marks names := by
  rw [text, marks_intercalate (by decide), marks_terms]

end SortOrder

namespace Params

theorem marks_pair {key : String} (noMark : '?' ∉ key.toList) (value : String) :
    marks [pair (key, value)] = marks [value] := by
  rw [marks_singleton, marks_singleton, toList_pair, List.count_append,
    List.count_eq_zero.mpr noMark, Nat.zero_add, List.count_cons_of_ne (by decide)]

/-- The first question mark is that of the query string itself. -/
theorem marks_render {p : Params} (nonempty : p.pairs ≠ []) :
    marks [p.render] = 1 + marks (p.pairs.map pair) := by
  have joined : marks ["&".intercalate (p.pairs.map pair)] = marks (p.pairs.map pair) :=
    marks_intercalate (by decide) _
  rw [marks_singleton] at joined
  rw [marks_singleton, render, if_neg (by simpa using nonempty), String.toList_append,
    List.count_append, joined]
  rfl

theorem head?_render {p : Params} (nonempty : p.pairs ≠ []) : p.render.toList.head? = some '?' := by
  rw [toList_render nonempty, List.head?_cons]

end Params

namespace Call

theorem texts_of_edit?_eq_none {c : Call} (refused : c.edit? = none) : c.texts = [] := by
  cases c with
  | query clause | filter clause =>
    rw [texts, Option.map_eq_none_iff.mp refused]
    rfl
  | fields names | sort names flags =>
    rw [texts, Option.map_eq_none_iff.mp refused]
    rfl
  | _ => rfl

/-- The parameter of an edit has the question marks of the texts of its call and no others. -/
theorem marks_pair?_of_edit? {c : Call} {e : Edit} (edit : c.edit? = some e) :
    marks (e.pair?.toList.map Params.pair) = marks c.texts := by
  cases c with
  | query clause | filter clause =>
    obtain ⟨s, word, rfl⟩ := Option.map_eq_some_iff.mp edit
    rw [texts, word, Option.toList_some]
    exact Params.marks_pair (by decide) s
  | fields names =>
    obtain ⟨ss, words, rfl⟩ := Option.map_eq_some_iff.mp edit
    have joined : marks [",".intercalate ss] = marks ss := marks_intercalate (by decide) ss
    rw [texts, words, Option.getD_some, ← joined]
    exact Params.marks_pair (by decide) _
  | sort names flags =>
    obtain ⟨ss, words, rfl⟩ := Option.map_eq_some_iff.mp edit
    rw [texts, words, Option.getD_some, ← SortOrder.marks_text ss flags.flags]
    exact Params.marks_pair (by decide) _
  | start number | limit number =>
    obtain ⟨n, _, rfl⟩ := Option.map_eq_some_iff.mp edit
    exact (Params.marks_pair (by decide) _).trans (marks_decimal n)
  | addFieldMapping source destination =>
    simp only [edit?, Option.bind_eq_bind, Option.bind_eq_some_iff, Option.pure_def,
      Option.some.injEq] at edit
    obtain ⟨s, _, d, _, rfl⟩ := edit
    rfl
  | addFieldMappingTable table =>
    obtain ⟨entries, _, rfl⟩ := Option.map_eq_some_iff.mp edit
    rfl
  | switchToPost | restrictByRoles =>
    cases edit
    rfl

theorem marks_parameter? (c : Call) :
    marks (c.parameter?.toList.map Params.pair) = marks c.texts := by
  cases edit : c.edit? with
  | none =>
    rw [parameter?, edit, texts_of_edit?_eq_none edit]
    rfl
  | some e =>
    rw [parameter?_of_edit? edit]
    split
    · exact marks_pair?_of_edit? edit
    · next unwritable =>
      obtain ⟨n, _, rfl | rfl⟩ :=
        isOversized_of_not_writable (mt (writable_of_edit? edit) unwritable)
      · rfl
      · rfl

theorem marks_parameters (calls : List Call) :
    marks ((calls.filterMap parameter?).map Params.pair) = marks (calls.flatMap texts) := by
  induction calls with
  | nil => rfl
  | cons c calls inductionHypothesis =>
    have first := c.marks_parameter?
    rw [List.flatMap_cons, marks_append, ← inductionHypothesis, ← first, List.filterMap_cons]
    cases c.parameter? with
    | none => rw [Option.toList_none, List.map_nil]; simp [marks]
    | some p => rw [← marks_append]; rfl

end Call

namespace Query

/-- What a run leaves of the question marks of its texts. -/
theorem marks_queryString (baseUrl : Option String) (endpoint : Endpoint) (calls : List Call) :
    let q := (new baseUrl endpoint).run calls
    q.queryString = "" ∧ (.switchToPost ∈ calls ∨ marks (calls.flatMap Call.texts) = 0) ∨
      .switchToPost ∉ calls ∧ q.queryString.toList.head? = some '?' ∧
        marks [q.queryString] = 1 + marks (calls.flatMap Call.texts) := by
  intro q
  by_cases post : .switchToPost ∈ calls
  · have body : q.isPost = true := (isPost_run _ calls).mpr (.inr post)
    exact .inl ⟨queryString_of_isPost body, .inl post⟩
  · have request : q.request.params = calls.filterMap Call.parameter? := by
      rw [run_params rfl post]
      rfl
    rw [← Call.marks_parameters, queryString_eq, request]
    by_cases empty : calls.filterMap Call.parameter? = []
    · rw [empty]
      exact .inl ⟨rfl, .inr rfl⟩
    · exact .inr ⟨post, Params.head?_render empty, Params.marks_render empty⟩

/-- The query string of a run is empty, or it begins with a question mark and has as many more as
the texts of the accepted calls. So it has no second one exactly if a body is sent or these texts
have none. -/
theorem queryString_marks (baseUrl : Option String) (endpoint : Endpoint) (calls : List Call) :
    let s := ((new baseUrl endpoint).run calls).queryString.toList
    (s.count '?' ≤ 1 ∧ ('?' ∈ s → s.head? = some '?') ↔
      .switchToPost ∈ calls ∨ ∀ c ∈ calls, ∀ text ∈ c.texts, '?' ∉ text.toList) ∧
    (s = [] ∨ s.head? = some '?' ∧ s.count '?' = 1 + marks (calls.flatMap Call.texts)) := by
  intro s
  rw [← List.forall_mem_flatMap, ← marks_eq_zero]
  rcases marks_queryString baseUrl endpoint calls with ⟨empty, clean⟩ | ⟨get, first, count⟩
  · have empty : s = [] := congrArg String.toList empty
    rw [empty]
    exact ⟨iff_of_true ⟨Nat.zero_le 1, fun present => nomatch present⟩ clean, .inl rfl⟩
  · rw [marks_singleton] at count
    refine ⟨?_, .inr ⟨first, count⟩⟩
    rw [show s.count '?' = _ from count]
    constructor
    · rintro ⟨one, _⟩
      exact .inr (by omega)
    · rintro (post | clean)
      · exact absurd post get
      · exact ⟨by omega, fun _ => first⟩

/-- A clause with the wildcard for one character. -/
theorem queryString_has_two_marks :
    let s := ((new none .standard).run [.query (.text "te?t")]).queryString
    s = "?q=te?t" ∧ s.toList.count '?' = 2 := by
  decide

end Query

end SolrRequest
