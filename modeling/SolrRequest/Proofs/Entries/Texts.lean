import SolrRequest.Proofs.Entries.Keys
import SolrRequest.Value

/-!
# Texts among keys

Tables have keys of any kind. Keys that are texts are the same if their texts are, so that a text
that is written again keeps its one place, whatever the other keys are.
-/

namespace SolrRequest

namespace Value

variable {key other : Value} {s : String}

theorem beq_iff_of_text? (text : key.text? = some s) (other : Value) :
    (other == key) = true ↔ other.text? = some s := by
  change sameKey other key = true ↔ _
  cases key with
  | text _ | field _ =>
    cases text
    cases other <;> simp [sameKey, text?]
  | _ => cases text

theorem text?_of_beq (text : key.text? = some s) (same : (key == other) = true) :
    other.text? = some s := by
  change sameKey key other = true at same
  cases key with
  | text _ | field _ =>
    cases text
    cases other <;> simp_all [sameKey, text?]
  | _ => cases text

end Value

namespace Entries

universe u
variable {α : Type u} {entries more : List (Value × α)} {key : Value} {s : String} {a : α}

def texts (entries : List (Value × α)) : List String :=
  entries.filterMap fun e => e.1.text?

/-- No text stands twice among the keys, nor among those of a table under one of the keys. -/
structure HasDistinctTexts (entries : List (Value × Value)) : Prop where
  keys : (texts entries).Nodup
  inner : ∀ table, .dict table ∈ values entries → (texts table).Nodup

theorem mem_texts_cons {e : Value × α} :
    s ∈ texts (e :: entries) ↔ e.1.text? = some s ∨ s ∈ texts entries := by
  simp [texts]

theorem nodup_texts_cons {e : Value × α} : (texts (e :: entries)).Nodup ↔
    (∀ s ∈ e.1.text?, s ∉ texts entries) ∧ (texts entries).Nodup := by
  rw [texts, List.filterMap_cons, ← texts]
  cases e.1.text? with
  | none => simp
  | some s => simp

theorem count_texts_cons (e : Value × α) (rest : List (Value × α)) (s : String) :
    (texts (e :: rest)).count s = (texts rest).count s + if e.1.text? = some s then 1 else 0 := by
  rw [texts, List.filterMap_cons, ← texts]
  cases e.1.text? with
  | none => rfl
  | some other => simp [List.count_cons]

theorem get?_cons_of_text? (text : key.text? = some s) (e : Value × α) (rest : List (Value × α)) :
    get? key (e :: rest) = if e.1.text? = some s then some e.2 else get? key rest := by
  simp only [get?, Value.beq_iff_of_text? text]

/-- A text is found whether it stands as a field or by itself. -/
theorem get?_eq_of_text? {other : Value} (text : key.text? = some s) (same : other.text? = some s) :
    get? other entries = get? key entries := by
  induction entries with
  | nil => rfl
  | cons e rest inductionHypothesis =>
    rw [get?_cons_of_text? text, get?_cons_of_text? same, inductionHypothesis]

theorem get?_of_mem_of_text? {e : Value × α} (text : e.1.text? = some s)
    (distinct : (texts entries).Nodup) (member : e ∈ entries) : get? e.1 entries = some e.2 := by
  induction entries with
  | nil => cases member
  | cons first rest inductionHypothesis =>
    obtain ⟨fresh, distinctRest⟩ := nodup_texts_cons.mp distinct
    rw [get?_cons_of_text? text]
    rcases List.mem_cons.mp member with rfl | later
    · rw [if_pos text]
    · have present : s ∈ texts rest := List.mem_filterMap.mpr ⟨e, later, text⟩
      have different : first.1.text? ≠ some s := fun same => fresh s same present
      rw [if_neg different]
      exact inductionHypothesis distinctRest later

theorem get?_eq_none_iff_of_text? (text : key.text? = some s) :
    get? key entries = none ↔ s ∉ texts entries := by
  induction entries with
  | nil => simp [texts]
  | cons e rest inductionHypothesis =>
    rw [get?_cons_of_text? text, mem_texts_cons]
    split
    · next found => simp [found]
    · next other => simpa [other] using inductionHypothesis

/-- Where entries stand does not matter for a text that is not among the keys twice. -/
theorem get?_eq_of_perm (text : key.text? = some s) {other : List (Value × α)}
    (perm : entries.Perm other) (once : (texts entries).count s ≤ 1) :
    get? key entries = get? key other := by
  induction perm with
  | nil => rfl
  | cons e _ inductionHypothesis =>
    rw [get?_cons_of_text? text, get?_cons_of_text? text]
    split
    · rfl
    · next different =>
      rw [count_texts_cons, if_neg different] at once
      exact inductionHypothesis once
  | swap e f rest =>
    simp only [count_texts_cons] at once
    simp only [get?_cons_of_text? text]
    split
    · next first =>
      rw [if_neg]
      intro second
      rw [if_pos first, if_pos second] at once
      omega
    · rfl
  | trans perm _ firstHypothesis secondHypothesis =>
    have sameCount := (perm.filterMap fun e => e.1.text?).count_eq s
    exact (firstHypothesis once).trans (secondHypothesis (sameCount ▸ once))

theorem get?_put_of_text? (text : key.text? = some s) (k : Value) (a : α)
    (entries : List (Value × α)) :
    get? key (put k a entries) = if k.text? = some s then some a else get? key entries := by
  induction entries with
  | nil => exact get?_cons_of_text? text (k, a) []
  | cons e rest inductionHypothesis =>
    rw [put, get?_cons_of_text? text]
    split
    · next same =>
      -- The key that keeps its place may be a field where the new one is a text.
      have texts : e.1.text? = some s ↔ k.text? = some s :=
        ⟨fun found => Value.text?_of_beq found same,
          fun written => (Value.beq_iff_of_text? written e.1).mp same⟩
      simp only [get?_cons_of_text? text, texts]
      split <;> rfl
    · next different =>
      rw [get?_cons_of_text? text, inductionHypothesis]
      split
      · next found =>
        rw [if_neg]
        intro written
        exact different ((Value.beq_iff_of_text? written e.1).mpr found)
      · rfl

theorem mem_texts_put {k : Value} :
    s ∈ texts (put k a entries) ↔ k.text? = some s ∨ s ∈ texts entries := by
  have text : (Value.text s).text? = some s := rfl
  rw [← Decidable.not_iff_not, ← get?_eq_none_iff_of_text? text, get?_put_of_text? text, not_or,
    ← get?_eq_none_iff_of_text? text]
  split
  · next written => simp [written]
  · next unwritten => simp [unwritten]

theorem nodup_texts_put (distinct : (texts entries).Nodup) (k : Value) (a : α) :
    (texts (put k a entries)).Nodup := by
  induction entries with
  | nil => exact nodup_texts_cons.mpr ⟨fun _ _ => List.not_mem_nil, distinct⟩
  | cons e rest inductionHypothesis =>
    rw [put]
    split
    · exact distinct
    · next different =>
      rw [nodup_texts_cons] at distinct ⊢
      refine ⟨?_, inductionHypothesis distinct.2⟩
      intro s text present
      rcases mem_texts_put.mp present with written | old
      · exact different ((Value.beq_iff_of_text? written e.1).mpr text)
      · exact distinct.1 s text old

theorem nodup_texts_ofList (more : List (Value × α)) : (texts (ofList more)).Nodup := by
  have all (entries : List (Value × α)) (distinct : (texts entries).Nodup) :
      (texts (putAll entries more)).Nodup := by
    induction more generalizing entries with
    | nil => exact distinct
    | cons e more inductionHypothesis => exact inductionHypothesis _ (nodup_texts_put distinct _ _)
  exact all [] List.nodup_nil

/-! ## Tables one after the other -/

theorem put_of_notMem_texts (text : key.text? = some s) (absent : s ∉ texts entries) (a : α) :
    put key a entries = entries ++ [(key, a)] := by
  induction entries with
  | nil => rfl
  | cons e rest inductionHypothesis =>
    rw [mem_texts_cons, not_or] at absent
    have different : ¬ (e.1 == key) = true := fun same =>
      absent.1 ((Value.beq_iff_of_text? text e.1).mp same)
    rw [put, if_neg different, inductionHypothesis absent.2]
    rfl

/-- Entries under new texts follow the old ones. -/
theorem putAll_eq_append (named : ∀ e ∈ more, ∃ s, e.1.text? = some s)
    (distinct : (texts more).Nodup) (apart : ∀ s ∈ texts entries, s ∉ texts more) :
    putAll entries more = entries ++ more := by
  induction more generalizing entries with
  | nil => exact (List.append_nil entries).symm
  | cons e more inductionHypothesis =>
    obtain ⟨⟨s, text⟩, namedRest⟩ := List.forall_mem_cons.mp named
    obtain ⟨fresh, distinctRest⟩ := nodup_texts_cons.mp distinct
    have absent : s ∉ texts entries := fun old => apart s old (mem_texts_cons.mpr (.inl text))
    rw [putAll_cons, put_of_notMem_texts text absent, inductionHypothesis namedRest distinctRest,
      List.append_assoc, List.singleton_append]
    intro other old later
    rw [texts, List.filterMap_append, List.mem_append] at old
    rcases old with old | last
    · exact apart other old (mem_texts_cons.mpr (.inr later))
    · have same : e.1.text? = some other := by simpa using last
      exact fresh other same later

end Entries

end SolrRequest
