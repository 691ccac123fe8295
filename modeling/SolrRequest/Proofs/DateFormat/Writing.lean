import SolrRequest.Proofs.DateFormat.Spelling

/-!
# Layouts as text

A format that stands for a layout is written token by token, and the joints stay as they are. The
text has no blanks at its ends, since it starts and ends with the text of a token.
-/

namespace SolrRequest

open Text

theorem Token.isTrimmed_of_takes {t : Token} {s : List Char} (takes : t.Takes s) :
    IsTrimmed s := by
  obtain ⟨nonempty, word⟩ := isWord_of_takes takes
  exact isTrimmed_of_forall nonempty fun c membership => (word c membership).2

theorem IsOffset.isTrimmed {s : List Char} (offset : IsOffset s) : IsTrimmed s := by
  obtain ⟨sign, h₁, h₂, m₁, m₂, isSign, rfl⟩ := offset
  refine ⟨⟨sign, rfl, ?_⟩, ⟨asciiDigit m₂, rfl, isBlank_asciiDigit m₂⟩⟩
  simp only [Element.isSign, Bool.or_eq_true, beq_iff_eq] at isSign
  rcases isSign with rfl | rfl <;> decide

theorem Link.isTrimmed {spelling : Token → List Char} {s : List Char} (first : IsTrimmed s)
    {links : List Link} (trimmed : ∀ link ∈ links, IsTrimmed (spelling link.2)) :
    IsTrimmed (s ++ spell spelling links) := by
  induction links generalizing s with
  | nil => rwa [spell, List.append_nil]
  | cons link links inductionHypothesis =>
    obtain ⟨joint, t⟩ := link
    obtain ⟨token, others⟩ := List.forall_mem_cons.mp trimmed
    have result := inductionHypothesis (first.append joint.chars token) others
    simpa [spell] using result

theorem OffsetPlace.isTrimmed {spelling : Token → List Char} {s : List Char} (first : IsTrimmed s)
    (offset : IsTrimmed (spelling .offset)) (place : OffsetPlace) :
    IsTrimmed (s ++ place.spell spelling) := by
  cases place with
  | absent => rwa [spell, List.append_nil]
  | attached => simpa [spell] using first.append [] offset
  | joined joint => simpa [spell] using first.append joint.chars offset

def Item.spell (spelling : Token → List Char) : Item → List Char
  | token t => spelling t
  | plain c => [c]

theorem Item.flatMap_plain (spelling : Token → List Char) (run : List Char) :
    (run.map plain).flatMap (spell spelling) = run := by
  rw [List.flatMap_map]
  exact List.flatMap_singleton' run

theorem Link.flatMap_items (spelling : Token → List Char) (links : List Link) :
    (items links).flatMap (Item.spell spelling) = spell spelling links := by
  induction links with
  | nil => rfl
  | cons link links inductionHypothesis =>
    obtain ⟨joint, t⟩ := link
    rw [items, List.flatMap_append, Item.flatMap_plain, List.flatMap_cons, inductionHypothesis,
      spell, List.append_assoc, Item.spell]

theorem Link.mem_of_mem_items {token : Token} {links : List Link}
    (membership : .token token ∈ items links) : token ∈ links.map Prod.snd := by
  induction links with
  | nil => cases membership
  | cons link links inductionHypothesis =>
    obtain ⟨joint, t⟩ := link
    simp only [items, List.mem_append, List.mem_map, reduceCtorEq, and_false, exists_false,
      false_or, List.mem_cons, Item.token.injEq] at membership
    rcases membership with rfl | later
    · exact List.mem_cons_self
    · exact List.mem_cons_of_mem _ (inductionHypothesis later)

theorem OffsetPlace.flatMap_items (spelling : Token → List Char) (place : OffsetPlace) :
    place.items.flatMap (Item.spell spelling) = place.spell spelling := by
  cases place with
  | absent => rfl
  | attached => exact List.append_nil _
  | joined joint =>
    rw [items, List.flatMap_append, Item.flatMap_plain]
    exact congrArg _ (List.append_nil _)

theorem DateFormat.writeItems_eq_ok {t : DateTime} {items : List Item}
    (told : ∀ token, .token token ∈ items → t.part token = .ok (String.ofList (t.shown token))) :
    writeItems t items = .ok (String.ofList (items.flatMap (Item.spell t.shown))) := by
  induction items with
  | nil => rfl
  | cons item items inductionHypothesis =>
    have first : t.itemText item = .ok (String.ofList (item.spell t.shown)) := by
      cases item with
      | token token => exact told token List.mem_cons_self
      | plain c => rfl
    have rest := inductionHypothesis fun token membership =>
      told token (List.mem_cons_of_mem item membership)
    rw [writeItems, first, rest, List.flatMap_cons, String.ofList_append]
    rfl

namespace DateLayout

variable {layout : DateLayout} {t : DateTime}

theorem isTrimmed_shown (tellable : t.HasTellableOffset)
    (takes : ∀ token ∈ layout.tokens, token.Takes (t.shown token)) :
    IsTrimmed (layout.spell t.shown) := by
  obtain ⟨first, others⟩ := List.forall_mem_cons.mp takes
  have links : ∀ link ∈ layout.links, IsTrimmed (t.shown link.2) := fun link membership =>
    Token.isTrimmed_of_takes (others link.2 (List.mem_map_of_mem membership))
  rw [spell, ← List.append_assoc]
  exact layout.place.isTrimmed (Link.isTrimmed (Token.isTrimmed_of_takes first) links)
    (DateTime.isOffset_shown tellable).isTrimmed

theorem flatMap_items (spelling : Token → List Char) (layout : DateLayout) :
    layout.items.flatMap (Item.spell spelling) = layout.spell spelling := by
  rw [items, List.flatMap_cons, List.flatMap_append, Link.flatMap_items,
    OffsetPlace.flatMap_items]
  rfl

theorem mem_tokens_of_mem_items {token : Token} (membership : .token token ∈ layout.items) :
    token ∈ layout.tokens ∨ token = .offset := by
  have place : .token token ∈ layout.place.items → token = .offset := by
    cases layout.place <;> simp [OffsetPlace.items]
  rcases List.mem_cons.mp membership with first | later
  · cases first
    exact .inl List.mem_cons_self
  · rcases List.mem_append.mp later with inLinks | inPlace
    · exact .inl (List.mem_cons_of_mem _ (Link.mem_of_mem_items inLinks))
    · exact .inr (place inPlace)

/-- A format that stands for a layout is written in the layout's own texts. -/
theorem write_eq_ok {format : String} (resolved : DateFormat.resolve format = layout.text)
    (tellable : t.HasTellableOffset)
    (takes : ∀ token ∈ layout.tokens, token.Takes (t.shown token)) :
    DateFormat.write format t = .ok (String.ofList (layout.spell t.shown)) := by
  rw [DateFormat.write, items_eq resolved, DateFormat.writeItems_eq_ok, flatMap_items]
  intro token membership
  refine DateTime.part_eq_ok tellable ?_
  rintro rfl
  rcases mem_tokens_of_mem_items membership with stands | other
  · exact takes _ stands
  · cases other

end DateLayout

end SolrRequest
