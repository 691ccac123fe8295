import Mathlib.Data.List.Forall2
import Mathlib.Order.MinMax
import SolrRequest.Proofs.Faults
import SolrRequest.Proofs.Yaml.Keys
import SolrRequest.Settings.Standard

/-!
# How deep layers are joined

A layer is joined with what is below it no deeper than it goes itself. So layers that go no deeper
than the reader joins tables are laid over one another without a fault, and the only fault that
other layers have is that they go too deep.
-/

namespace SolrRequest

namespace Table

mutual

/-- How many levels of tables lie within a table. -/
def depth : Table → Nat
  | [] => 0
  | (_, v) :: r => max (valueDepth v) (depth r)

def valueDepth : Value → Nat
  | .dict entries => depth entries + 1
  | _ => 0

end

mutual

theorem nesting_le_depth : (layer base : Table) → nesting base layer ≤ depth layer
  | [], _ => Nat.zero_le _
  | (_, v) :: r, base => by
    rw [nesting, depth]
    exact max_le_max (valueNesting_le_valueDepth v _) (nesting_le_depth r _)

theorem valueNesting_le_valueDepth :
    (v : Value) → (below : Option Value) → valueNesting below v ≤ valueDepth v
  | .dict entries, below => by
    rw [valueNesting.eq_def]
    dsimp only
    split
    · exact Nat.succ_le_succ (nesting_le_depth entries _)
    · exact Nat.zero_le _
  | .null, _ | .bool _, _ | .int _, _ | .float _, _ | .text _, _ | .field _, _ | .list _, _
  | .tuple _, _ | .set _, _ | .bytes _, _ | .date _, _ | .moment _, _ => Nat.zero_le _

end

end Table

namespace LayerReader

/-- No text stands twice among the keys of a table that is read, nor of a table under one of
them. -/
def IsSound (reader : LayerReader) : Prop :=
  ∀ text entries, reader.document text = .ok (.dict entries) → Entries.HasDistinctTexts entries

theorem isSound_standard (limit : Nat) : (standard limit).IsSound :=
  fun _ _ isRead => Yaml.hasDistinctTexts_of_read isRead

variable {reader : LayerReader} {base t : Table}

theorem join_eq_ok (shallow : t.depth ≤ reader.limit) : reader.join base t = .ok (base.overlay t) :=
  if_neg (Nat.not_lt.mpr (Nat.le_trans (Table.nesting_le_depth t base) shallow))

theorem join_eq_error (deep : reader.limit < base.nesting t) :
    reader.join base t = .error .tooDeep :=
  if_pos deep

theorem join_eq (reader : LayerReader) (base t : Table) :
    reader.join base t = .ok (base.overlay t) ∨ reader.join base t = .error .tooDeep := by
  unfold join
  split
  · exact .inr rfl
  · exact .inl rfl

end LayerReader

theorem Layer.hasDistinctTexts_of_table {reader : LayerReader} (sound : reader.IsSound) {l : Layer}
    {t : Table} (given : l.table reader = .ok t) : Entries.HasDistinctTexts t := by
  obtain ⟨text, _, given⟩ := bind_eq_ok.mp given
  obtain ⟨v, isRead, given⟩ := bind_eq_ok.mp given
  unfold ofValue at given
  split at given
  · split at given
    · cases given
      cases document : reader.document text with
      | error fault =>
        rw [document] at isRead
        cases isRead
      | ok v =>
        rw [document] at isRead
        cases isRead
        exact sound text _ document
    · cases given
  · cases given
    exact ⟨List.nodup_nil, fun _ absent => nomatch absent⟩

namespace Settings

variable {reader : LayerReader} {layers : List Layer} {tables : List Table}

theorem hasDistinctTexts_of_layers (sound : reader.IsSound)
    (given : List.Forall₂ (fun l t => l.table reader = .ok t) layers tables) :
    ∀ t ∈ tables, Entries.HasDistinctTexts t := by
  induction given with
  | nil => exact List.forall_mem_nil _
  | cons isTable _ inductionHypothesis =>
    exact List.forall_mem_cons.mpr
      ⟨Layer.hasDistinctTexts_of_table sound isTable, inductionHypothesis⟩

theorem overlayAll_eq_ok (given : List.Forall₂ (fun l t => l.table reader = .ok t) layers tables)
    (shallow : ∀ t ∈ tables, t.depth ≤ reader.limit) (base : Table) :
    overlayAll reader base layers = .ok (tables.foldl Table.overlay base) := by
  induction given generalizing base with
  | nil => rfl
  | @cons l t layers tables isTable _ inductionHypothesis =>
    obtain ⟨shallowFirst, shallowLater⟩ := List.forall_mem_cons.mp shallow
    rw [overlayAll, isTable]
    change (reader.join base t >>= fun m => overlayAll reader m layers) = _
    rw [LayerReader.join_eq_ok shallowFirst]
    exact inductionHypothesis shallowLater _

theorem overlayAll_eq (given : List.Forall₂ (fun l t => l.table reader = .ok t) layers tables)
    (base : Table) : overlayAll reader base layers = .ok (tables.foldl Table.overlay base) ∨
      overlayAll reader base layers = .error .tooDeep := by
  induction given generalizing base with
  | nil => exact .inl rfl
  | @cons l t layers tables isTable _ inductionHypothesis =>
    rw [overlayAll, isTable]
    change (reader.join base t >>= fun m => overlayAll reader m layers) = _ ∨
      (reader.join base t >>= fun m => overlayAll reader m layers) = _
    rcases reader.join_eq base t with joined | tooDeep
    · rw [joined]
      exact inductionHypothesis _
    · rw [tooDeep]
      exact .inr rfl

end Settings

end SolrRequest
