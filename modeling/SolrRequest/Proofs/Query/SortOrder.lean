import SolrRequest.Proofs.Passes
import SolrRequest.Proofs.Query.Parameters

/-!
# Reading a sort order back

An order is split at a comma with a space behind it, and each piece is cut at its last space. This
gives back the names with their directions, whatever spaces and words the names have, provided that
none of them has a comma.
-/

namespace SolrRequest

namespace Value

/-- A single name, or a list or tuple with items, each of them a name. -/
def Names (v : Value) (names : List String) : Prop :=
  (∃ name, v.word? = some name ∧ names = [name]) ∨
    ∃ items, (v = list items ∨ v = tuple items) ∧ items ≠ [] ∧
      List.Forall₂ (fun item name => item.word? = some name) items names

theorem names?_of_items {v : Value} {items : List Value} {names : List String}
    (isItems : v.items? = some items) (noText : v.text? = none)
    (each : List.Forall₂ (fun item name => item.word? = some name) items names) :
    v.names? = some names := by
  rw [names?, noText]
  dsimp only
  rw [words?, isItems]
  exact mapM_eq_some_iff.mpr each

theorem Names.names?_eq {v : Value} {names : List String} (given : v.Names names) :
    v.names? = some names := by
  rcases given with ⟨name, word, rfl⟩ | ⟨items, isList, nonempty, each⟩
  · obtain ⟨text, _⟩ := Option.filter_eq_some_iff.mp word
    rw [names?, text]
    dsimp only
    rw [word]
    rfl
  · obtain ⟨item, rest, rfl⟩ := List.exists_cons_of_ne_nil nonempty
    rcases isList with rfl | rfl <;> exact names?_of_items rfl rfl each

theorem Names.ne_nil {v : Value} {names : List String} (given : v.Names names) : names ≠ [] := by
  rcases given with ⟨name, _, rfl⟩ | ⟨items, _, nonempty, each⟩
  · exact List.cons_ne_nil name []
  · rintro rfl
    cases each
    exact nonempty rfl

end Value

namespace SortOrder

/-- The pieces of a text between the places where a space follows a comma. -/
def pieces : List Char → List (List Char)
  | ',' :: ' ' :: s => [] :: pieces s
  | c :: s => (pieces s).modifyHead (c :: ·)
  | [] => [[]]

theorem pieces_cons_of_ne {c : Char} (different : c ≠ ',') (s : List Char) :
    pieces (c :: s) = (pieces s).modifyHead (c :: ·) := by
  simp [pieces, different]

theorem pieces_of_notMem {s : List Char} (absent : ',' ∉ s) : pieces s = [s] := by
  induction s with
  | nil => rfl
  | cons c s inductionHypothesis =>
    rw [pieces_cons_of_ne (List.ne_of_not_mem_cons absent).symm,
      inductionHypothesis (List.not_mem_of_not_mem_cons absent)]
    rfl

theorem pieces_append {s : List Char} (absent : ',' ∉ s) (t : List Char) :
    pieces (s ++ ',' :: ' ' :: t) = s :: pieces t := by
  induction s with
  | nil => rfl
  | cons c s inductionHypothesis =>
    rw [List.cons_append, pieces_cons_of_ne (List.ne_of_not_mem_cons absent).symm,
      inductionHypothesis (List.not_mem_of_not_mem_cons absent)]
    rfl

theorem pieces_intercalate {ss : List (List Char)} (nonempty : ss ≠ [])
    (absent : ∀ s ∈ ss, ',' ∉ s) : pieces ([',', ' '].intercalate ss) = ss := by
  induction ss with
  | nil => exact absurd rfl nonempty
  | cons s ss inductionHypothesis =>
    obtain ⟨absentFirst, absentRest⟩ := List.forall_mem_cons.mp absent
    cases ss with
    | nil =>
      rw [List.intercalate_singleton]
      exact pieces_of_notMem absentFirst
    | cons t ss =>
      rw [List.intercalate_cons_cons, List.append_assoc, List.cons_append, List.singleton_append,
        pieces_append absentFirst, inductionHypothesis (List.cons_ne_nil t ss) absentRest]

/-- A name and its direction, for each piece that has a space. -/
def decode (order : String) : List (Option (String × String)) :=
  (pieces order.toList).map fun piece => (Text.cutLast ' ' piece).map fun (name, direction) =>
    (String.ofList name, String.ofList direction)

theorem cutLast_term (name : String) (flag : Option Value) :
    Text.cutLast ' ' (name ++ " " ++ direction flag).toList =
      some (name.toList, (direction flag).toList) := by
  have noSpace : ' ' ∉ (direction flag).toList := notMem_direction (by decide) flag
  rw [String.toList_append, String.toList_append, List.append_assoc]
  exact Text.cutLast_append_cons noSpace name.toList

theorem text_congr {names : List String} {flags others : List Value}
    (same : ∀ i < names.length, flags[i]? = others[i]?) : text names flags = text names others := by
  have sameTerms : terms names flags = terms names others := by
    rw [terms_eq_mapIdx, terms_eq_mapIdx]
    apply List.ext_getElem
    · rw [List.length_mapIdx, List.length_mapIdx]
    · intro i bound _
      rw [List.length_mapIdx] at bound
      rw [List.getElem_mapIdx, List.getElem_mapIdx, same i bound]
  rw [text, text, sameTerms]

theorem decode_text {names : List String} (nonempty : names ≠ [])
    (noComma : ∀ name ∈ names, ',' ∉ name.toList) (flags : List Value) :
    decode (text names flags) = names.mapIdx fun i name => some (name, direction flags[i]?) := by
  have absent : ∀ s ∈ (terms names flags).map String.toList, ',' ∉ s := by
    intro s member
    obtain ⟨term, isTerm, rfl⟩ := List.mem_map.mp member
    exact notMem_terms (by decide) (by decide) noComma flags term isTerm
  have filled : (terms names flags).map String.toList ≠ [] := by
    rw [terms_eq_mapIdx]
    simpa using nonempty
  have joined : (text names flags).toList =
      [',', ' '].intercalate ((terms names flags).map String.toList) :=
    String.toList_intercalate
  rw [decode, joined, pieces_intercalate filled absent, List.map_map, terms_eq_mapIdx]
  apply List.ext_getElem?
  intro i
  rw [List.getElem?_map, List.getElem?_mapIdx, List.getElem?_mapIdx, Option.map_map]
  congr 1
  funext name
  simp only [Function.comp_apply, cutLast_term, Option.map_some, String.ofList_toList]

end SortOrder

namespace Query

/-- An accepted order is stored in a body, or else added as a parameter. -/
theorem call_sort {fields ascending : Value} {names : List String} (given : fields.Names names)
    (q : Query) : q.call (.sort fields ascending) = .ok
      (q.record "sort" (SortOrder.text names ascending.flags) fun b =>
        { b with sort := some (SortOrder.text names ascending.flags) }) := by
  rw [call, Call.edit?, given.names?_eq]
  rfl

/-- The order that is stored in a body, or added as a parameter, is read back as the names in their
order, each with the direction of its flag: descending exactly if there is a flag at its position
and it does not hold. Further flags have no effect. -/
theorem sort_decodes (fields ascending : Value) (names : List String)
    (given : fields.Names names) (noComma : ∀ name ∈ names, ',' ∉ name.toList) :
    ∃ order,
      (∀ (q : Query) (body : Body), q.request = .post body → q.call (.sort fields ascending) =
        .ok { q with request := .post { body with sort := some order } }) ∧
      (∀ (q : Query) (params : Params), q.request = .get params →
        q.call (.sort fields ascending) =
          .ok { q with request := .get ⟨params.pairs ++ [("sort", order)]⟩ }) ∧
      SortOrder.decode order = (names.mapIdx fun i name => some (name,
        if (ascending.flagAt? i).any fun flag => !flag.truthy then "desc" else "asc")) ∧
      ∀ other : Value, (∀ i < names.length, other.flagAt? i = ascending.flagAt? i) →
        ∀ q : Query, q.call (.sort fields other) = q.call (.sort fields ascending) := by
  refine ⟨SortOrder.text names ascending.flags, ?_, ?_, ?_, ?_⟩
  · intro q body request
    rw [call_sort given, record, request]
  · intro q params request
    rw [call_sort given, record, request]
    rfl
  · rw [SortOrder.decode_text given.ne_nil noComma]
    simp only [SortOrder.direction_eq, Value.getElem?_flags]
  · intro other same q
    have sameText : SortOrder.text names other.flags = SortOrder.text names ascending.flags := by
      apply SortOrder.text_congr
      intro i bound
      rw [Value.getElem?_flags, Value.getElem?_flags, same i bound]
    rw [call_sort given, call_sort given, sameText]

/-- Names with spaces at their ends and with the word of a direction; of four flags one is left
over. -/
theorem sort_decodes_withSpaces :
    let fields : Value := .tuple [.field .title, .text "rank desc ", .text " x"]
    let ascending : Value := .list [.bool false, .text "no", .null, .int 0]
    let names := ["title", "rank desc ", " x"]
    fields.Names names ∧ (∀ name ∈ names, ',' ∉ name.toList) ∧ ∃ order,
      (∀ (q : Query) (body : Body), q.request = .post body → q.call (.sort fields ascending) =
        .ok { q with request := .post { body with sort := some order } }) ∧
      SortOrder.decode order =
        [some ("title", "desc"), some ("rank desc ", "asc"), some (" x", "desc")] := by
  intro fields ascending names
  have given : fields.Names names :=
    .inr ⟨_, .inr rfl, List.cons_ne_nil _ _,
      .cons (by decide) (.cons (by decide) (.cons (by decide) .nil))⟩
  have noComma : ∀ name ∈ names, ',' ∉ name.toList := by decide
  obtain ⟨order, stored, _, decoded, _⟩ := sort_decodes fields ascending names given noComma
  exact ⟨given, noComma, order, stored, decoded⟩

end Query

end SolrRequest
