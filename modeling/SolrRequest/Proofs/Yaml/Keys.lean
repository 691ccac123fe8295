import SolrRequest.Proofs.Entries.Texts
import SolrRequest.Proofs.Faults
import SolrRequest.Yaml.Document

/-!
# Keys of tables that are read

A mapping becomes a table by writing its entries one after the other, whatever was merged into it.
So no text stands twice among the keys of a table that was read.
-/

namespace SolrRequest.Yaml

open Entries

namespace Built

theorem both_eq_ok {α β : Type} {x : Built α} {y : Built β} {a : α} {b : β} :
    both x y = .ok (a, b) ↔ x = .ok a ∧ y = .ok b := by
  unfold both
  split <;> simp

theorem mem_of_all_eq_ok {α : Type} {xs : List (Built α)} {as : List α} (done : all xs = .ok as) :
    ∀ a ∈ as, .ok a ∈ xs := by
  induction xs generalizing as with
  | nil =>
    cases done
    exact fun _ absent => nomatch absent
  | cons x xs inductionHypothesis =>
    rw [all] at done
    cases pair : both x (all xs) with
    | error fault =>
      rw [pair] at done
      cases done
    | ok parts =>
      obtain ⟨a, rest⟩ := parts
      obtain ⟨first, others⟩ := both_eq_ok.mp pair
      rw [pair] at done
      cases done
      rw [first]
      intro b membership
      rcases List.mem_cons.mp membership with rfl | later
      · exact List.mem_cons_self
      · exact List.mem_cons_of_mem _ (inductionHypothesis others b later)

end Built

namespace Scalar

theorem timestamp_ne_dict (text : String) (entries : List (Value × Value)) :
    timestamp text ≠ .ok (.dict entries) := by
  intro read
  unfold timestamp at read
  split at read
  · cases read
  · split at read
    · simp only [bind_eq_ok] at read
      obtain ⟨date, _, read⟩ := read
      cases read
    · split at read
      · split at read
        · obtain ⟨_, thrown, _⟩ := bind_eq_ok.mp read
          cases thrown
        · simp only [bind_eq_ok] at read
          obtain ⟨_, _, _, _, read⟩ := read
          cases read
      · simp only [bind_eq_ok] at read
        obtain ⟨_, _, _, _, read⟩ := read
        cases read

theorem ofText?_ne_dict (tag : Tag) (text : String) (entries : List (Value × Value)) :
    ofText? tag text ≠ some (.ok (.dict entries)) := by
  intro read
  cases tag with
  | timestamp => exact timestamp_ne_dict text entries (Option.some.inj read)
  | bool | int | float | binary =>
    obtain ⟨_, _, wrong⟩ := map_eq_ok.mp (Option.some.inj read)
    cases wrong
  | _ => cases read

end Scalar

namespace Node

theorem listOfPairs_ne_dict {inner : Node → Built Value} {wrong : Built Value} {n : Node}
    {entries : List (Value × Value)} (notDict : wrong ≠ .ok (.dict entries)) : 
    build.listOfPairs inner wrong n ≠ .ok (.dict entries) := by
  unfold build.listOfPairs
  split
  · intro pairs
    obtain ⟨_, _, wrongKind⟩ := map_eq_ok.mp pairs
    cases wrongKind
  · exact notDict

theorem exists_entries_of_build {fuel level : Nat} {n : Node} {entries : List (Value × Value)}
    (built : n.build fuel level = .ok (.dict entries)) :
    ∃ es, entries = ofList es ∧
      ∀ e ∈ es, ∃ fuel level, ∃ m : Node, m.build fuel level = .ok e.2 := by
  cases fuel with
  | zero => cases built
  | succ fuel =>
    rw [build] at built
    split at built
    · split at built
      · obtain ⟨_, _, wrong⟩ := map_eq_ok.mp built
        cases wrong
      · cases built
    · split at built
      · next nodes _ => 
        obtain ⟨es, all, table⟩ := map_eq_ok.mp built
        cases table
        refine ⟨es, rfl, ?_⟩
        intro e membership
        obtain ⟨m, _, entry⟩ := List.mem_map.mp (Built.mem_of_all_eq_ok all e membership)
        exact ⟨fuel, level + 1, m.2, (Built.both_eq_ok.mp entry).2⟩
      · cases built
    · split at built
      · obtain ⟨_, _, wrong⟩ := map_eq_ok.mp built
        cases wrong
      · cases built
    · exact absurd built (listOfPairs_ne_dict nofun)
    · exact absurd built (listOfPairs_ne_dict nofun)
    · split at built
      · cases built
      · split at built
        · next scalar =>
          cases built
          exact absurd scalar (Scalar.ofText?_ne_dict _ _ _)
        · cases built
        · cases built

theorem nodup_texts_of_build {fuel level : Nat} {n : Node} {entries : List (Value × Value)}
    (built : n.build fuel level = .ok (.dict entries)) : (texts entries).Nodup := by
  obtain ⟨es, rfl, _⟩ := exists_entries_of_build built
  exact nodup_texts_ofList es

end Node

theorem hasDistinctTexts_of_read {depth : Nat} {text : String} {entries : List (Value × Value)}
    (isRead : read depth text = .ok (.dict entries)) : HasDistinctTexts entries := by
  obtain ⟨tokens, _, isRead⟩ := bind_eq_ok.mp isRead
  split at isRead
  · cases isRead
  · cases isRead
  · next n _ =>
    cases built : n.build (n.height + 1) 0 with
    | error fault =>
      rw [built] at isRead
      cases isRead
    | ok v =>
      rw [built] at isRead
      cases isRead
      refine ⟨Node.nodup_texts_of_build built, ?_⟩
      obtain ⟨es, rfl, builtInside⟩ := Node.exists_entries_of_build built
      intro inner membership
      rcases mem_values_putAll membership with absent | written
      · cases absent
      · obtain ⟨e, member, same⟩ := List.mem_map.mp written
        obtain ⟨_, _, _, builtInner⟩ := builtInside e member
        rw [same] at builtInner
        exact Node.nodup_texts_of_build builtInner

end SolrRequest.Yaml
