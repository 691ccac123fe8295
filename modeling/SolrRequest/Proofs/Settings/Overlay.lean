import SolrRequest.Proofs.Settings.Reading
import SolrRequest.Settings.Layers

/-!
# One table over another

A key has its value from the upper table, or else from the lower one. For the settings this holds in
each part as well, but a part that is null in the upper table is empty.
-/

namespace SolrRequest

namespace Table

open Entries

variable {m t entries below : Table} {name : String}

theorem get?_overlay_of_text? {key : Value} {s : String} (text : key.text? = some s) {layer : Table}
    (distinct : (texts layer).Nodup) (base : Table) : Entries.get? key (overlay base layer) =
      ((Entries.get? key layer).map (overlayValue (Entries.get? key base))).or
        (Entries.get? key base) := by
  induction layer generalizing base with
  | nil => rw [overlay, get?_nil, Option.map_none, Option.none_or]
  | cons e rest inductionHypothesis =>
    obtain ⟨k, v⟩ := e
    obtain ⟨absent, distinctRest⟩ := nodup_texts_cons.mp distinct
    rw [overlay, get?_cons_of_text? text, inductionHypothesis distinctRest, get?_put_of_text? text]
    split
    · next written =>
      rw [(get?_eq_none_iff_of_text? text).mpr (absent s written), get?_eq_of_text? text written]
      simp
    · rfl

theorem flat_overlayValue (below : Option Value) (v : Value) :
    (overlayValue below v).flat = v.flat := by
  cases v with
  | dict entries =>
    rw [overlayValue.eq_def]
    dsimp only
    split <;> rfl
  | _ => rfl

theorem setting?_overlay (distinct : (Entries.texts entries).Nodup) (below : Table) (key : String) :
    (overlay below entries).setting? key =
      (entries.setting? key).or (below.setting? key) := by
  rw [setting?, get?, get?_overlay_of_text? rfl distinct]
  simp only [setting?, get?]
  cases Entries.get? (.text key) entries with
  | none => simp
  | some v => simp [flat_overlayValue]

def isNull (t : Table) (part : String) : Bool :=
  match t.get? part with
  | some .null => true
  | _ => false

theorem part_overlay (distinct : HasDistinctTexts t)
    (upper : t.part name = .ok entries) (lower : m.part name = .ok below) :
    ∃ e, (m.overlay t).part name = .ok e ∧ ∀ key, e.setting? key =
      if t.isNull name then none else (entries.setting? key).or (below.setting? key) := by
  have found : (m.overlay t).get? name =
      ((t.get? name).map (overlayValue (m.get? name))).or (m.get? name) :=
    get?_overlay_of_text? rfl distinct.keys m
  rcases part_eq_ok_iff.mp upper with ⟨absent | null, rfl⟩ | given
  · refine ⟨below, ?_, ?_⟩
    · rw [part, found, absent]
      exact lower
    · intro key
      rw [isNull, absent]
      rfl
  · refine ⟨[], ?_, ?_⟩
    · rw [part, found, null]
      rfl
    · intro key
      rw [isNull, null]
      rfl
  · have distinctInner := distinct.inner entries (mem_values_of_get? given)
    have notNull : t.isNull name = false := by
      rw [isNull, given]
    rw [part, found, given]
    simp only [notNull]
    -- Only a table below is joined with the one above.
    rcases part_eq_ok_iff.mp lower with ⟨noTable, rfl⟩ | table
    · have alone : overlayValue (m.get? name) (.dict entries) = .dict entries := by
        rcases noTable with absent | null
        · rw [absent]
          rfl
        · rw [null]
          rfl
      refine ⟨entries, ?_, ?_⟩
      · rw [Option.map_some, alone]
        rfl
      · intro key
        exact Option.or_none.symm
    · refine ⟨below.overlay entries, ?_, ?_⟩
      · rw [table]
        rfl
      · exact setting?_overlay distinctInner below

end Table

end SolrRequest
