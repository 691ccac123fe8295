import SolrRequest.Proofs.Settings.LastWritten
import SolrRequest.Proofs.Settings.Paths

/-!
# A layer laid over twice

Laying a table over another one a second time changes nothing: every value of the upper table lies
there already, with what it joined the first time below it. By induction on the values of the upper
table this holds at any depth. Settings do not change even if the layer has keys that are the same
as no key, so that its entries are added anew each time. But the second time the layer is joined as
deep as it goes, which may be too deep.
-/

namespace SolrRequest

namespace Table

open Entries Value

variable {base layer entries m t : Table} {name : String}

/-- Laying the layer over the table joins them as deep as the layer goes, and changes nothing. -/
structure Absorbs (m layer : Table) : Prop where
  same : overlay m layer = m
  nesting : nesting m layer = depth layer

structure ValueAbsorbs (w v : Value) : Prop where
  same : overlayValue (some w) v = w
  nesting : valueNesting (some w) v = valueDepth v

theorem Absorbs.value (absorbs : m.Absorbs layer) : ValueAbsorbs (.dict m) (.dict layer) where
  same := congrArg Value.dict absorbs.same
  nesting := congrArg Nat.succ absorbs.nesting

/-- A table does not change if each value of the layer lies there already. -/
theorem absorbs_of_forall_mem (settled : ∀ e ∈ layer, ∃ w, Entries.get? e.1 m = some w ∧
    ValueAbsorbs w e.2) : m.Absorbs layer := by
  induction layer with
  | nil =>
    refine ⟨?_, rfl⟩
    rw [overlay]
  | cons e rest inductionHypothesis =>
    obtain ⟨⟨w, found, absorbs⟩, settledRest⟩ := List.forall_mem_cons.mp settled
    have later := inductionHypothesis settledRest
    constructor
    · rw [overlay, found, absorbs.same, put_of_get? found, later.same]
    · rw [Table.nesting, found, absorbs.same, put_of_get? found, absorbs.nesting, later.nesting,
        depth]

theorem HasTextKeys.get?_of_mem (textKeys : layer.HasTextKeys) {e : Value × Value}
    (member : e ∈ layer) : Entries.get? e.1 layer = some e.2 := by
  obtain ⟨s, text⟩ := Option.isSome_iff_exists.mp
    (textKeys.isText e.1 (List.mem_map_of_mem member))
  exact get?_of_mem_of_text? text textKeys.distinct member

theorem isNested_of_mem (nested : (Value.dict entries).IsNested) {e : Value × Value}
    (member : e ∈ entries) : e.2.IsNested := by
  obtain ⟨s, text⟩ := Option.isSome_iff_exists.mp
    (nested.hasTextKeys.isText e.1 (List.mem_map_of_mem member))
  have present : (Value.dict entries).child? s = some e.2 :=
    (get?_eq_of_text? text rfl).trans (nested.hasTextKeys.get?_of_mem member)
  exact nested.child present

/-- A value does not change what it was laid over before. -/
def Settles (v : Value) : Prop :=
  ∀ below, ValueAbsorbs (overlayValue below v) v

theorem Settles.self {v : Value} (settles : Settles v) : ValueAbsorbs v v := by
  have again := settles none
  rwa [overlayValue_none] at again

theorem absorbs_overlay_of_settles (textKeys : layer.HasTextKeys)
    (settle : ∀ e ∈ layer, Settles e.2) (base : Table) : (overlay base layer).Absorbs layer := by
  apply absorbs_of_forall_mem
  intro e member
  obtain ⟨s, text⟩ := Option.isSome_iff_exists.mp
    (textKeys.isText e.1 (List.mem_map_of_mem member))
  refine ⟨overlayValue (Entries.get? e.1 base) e.2, ?_, settle e member _⟩
  rw [get?_overlay_of_text? text textKeys.distinct, textKeys.get?_of_mem member]
  rfl

theorem absorbs_self_of_settles (textKeys : layer.HasTextKeys)
    (settle : ∀ e ∈ layer, Settles e.2) : layer.Absorbs layer := by
  apply absorbs_of_forall_mem
  intro e member
  exact ⟨e.2, textKeys.get?_of_mem member, (settle e member).self⟩

theorem settles_dict (textKeys : entries.HasTextKeys) (settle : ∀ e ∈ entries, Settles e.2) :
    Settles (.dict entries) := by
  -- Where the table replaces what is below, it is laid over itself the second time.
  have alone := (absorbs_self_of_settles textKeys settle).value
  intro below
  cases below with
  | none =>
    rw [overlayValue_none]
    exact alone
  | some w =>
    rcases w.isLeaf_or_dict with leaf | ⟨base, rfl⟩
    · rw [overlayValue_of_isLeaf_below leaf]
      exact alone
    · exact (absorbs_overlay_of_settles textKeys settle base).value

theorem settles_of_isLeaf {v : Value} (leaf : v.IsLeaf) : Settles v := by
  intro below
  constructor
  · rw [overlayValue_of_isLeaf leaf, overlayValue_of_isLeaf leaf]
  · cases v with
    | dict entries => exact (leaf entries rfl).elim
    | _ => rfl

theorem sizeOf_snd_lt_of_mem {e : Value × Value} (member : e ∈ entries) :
    sizeOf e.2 < sizeOf (Value.dict entries) := by
  have ofEntry := List.sizeOf_lt_of_mem member
  obtain ⟨k, v⟩ := e
  simp only [Prod.mk.sizeOf_spec, Value.dict.sizeOf_spec] at ofEntry ⊢
  omega

theorem settles_of_isNested (v : Value) (nested : v.IsNested) : Settles v := by
  rcases v.isLeaf_or_dict with leaf | ⟨entries, isDict⟩
  · exact settles_of_isLeaf leaf
  · subst isDict
    apply settles_dict nested.hasTextKeys
    intro e member
    exact settles_of_isNested e.2 (isNested_of_mem nested member)
termination_by sizeOf v
decreasing_by
  subst isDict
  exact sizeOf_snd_lt_of_mem member

theorem absorbs_overlay (nested : (Value.dict layer).IsNested) (base : Table) :
    (overlay base layer).Absorbs layer := by
  apply absorbs_overlay_of_settles nested.hasTextKeys
  intro e member
  exact settles_of_isNested e.2 (isNested_of_mem nested member)

/-! ## Settings of layers -/

theorem exists_setting?_overlayValue (distinct : (texts entries).Nodup) (below : Option Value) :
    ∃ joined : Table, overlayValue below (.dict entries) = .dict joined ∧ ∀ key,
      joined.setting? key = (entries.setting? key).or ((Value.entries below).setting? key) := by
  have alone (key : String) : entries.setting? key =
      (entries.setting? key).or (setting? ([] : Table) key) :=
    Option.or_none.symm
  cases below with
  | none => exact ⟨entries, overlayValue_none _, alone⟩
  | some w =>
    rcases w.isLeaf_or_dict with leaf | ⟨base, rfl⟩
    · refine ⟨entries, overlayValue_of_isLeaf_below leaf entries, ?_⟩
      rw [leaf.entries_eq]
      exact alone
    · exact ⟨overlay base entries, rfl, setting?_overlay distinct base⟩

/-- A part tells the same settings when the layer is laid over it again. -/
theorem agreeOn_overlay_overlay (distinct : HasDistinctTexts t) (base : Table) (name : String)
    (names : List String) :
    (overlay (overlay base t) t).AgreeOn (overlay base t) name names := by
  have laid (lower : Table) : (overlay lower t).get? name =
      ((t.get? name).map (overlayValue (lower.get? name))).or (lower.get? name) :=
    get?_overlay_of_text? rfl distinct.keys lower
  cases given : t.get? name with
  | none =>
    left
    rw [part, part, laid (overlay base t), given]
    rfl
  | some v =>
    rcases v.isLeaf_or_dict with leaf | ⟨entries, rfl⟩
    · left
      simp only [part, laid, given, Option.map_some, overlayValue_of_isLeaf leaf, Option.some_or]
    · have distinctInner := distinct.inner entries (mem_values_of_get? given)
      obtain ⟨joined, joining, settings⟩ :=
        exists_setting?_overlayValue distinctInner (base.get? name)
      have once : (overlay base t).get? name = some (.dict joined) := by
        rw [laid, given, Option.map_some, Option.some_or, joining]
      have twice : (overlay (overlay base t) t).get? name =
          some (.dict (overlay joined entries)) := by
        rw [laid, given, once]
        rfl
      refine .inr ⟨_, joined, part_eq_ok_iff.mpr (.inr twice), part_eq_ok_iff.mpr (.inr once), ?_⟩
      intro key _
      rw [setting?_overlay distinctInner, settings, ← Option.or_assoc, Option.or_self]

end Table

namespace Settings

variable {t : Table}

theorem read_overlay_overlay (distinct : Entries.HasDistinctTexts t) (base : Table) :
    read ((base.overlay t).overlay t) = read (base.overlay t) :=
  read_congr_of_agreeOn fun part _ =>
    Table.agreeOn_overlay_overlay distinct base part.1 part.2

variable {reader : LayerReader} {last : Layer} {m : Table}

theorem overlayAll_append (base : Table) (first second : List Layer) :
    overlayAll reader base (first ++ second) =
      overlayAll reader base first >>= fun m => overlayAll reader m second := by
  induction first generalizing base with
  | nil => rfl
  | cons l first inductionHypothesis =>
    rw [List.cons_append, overlayAll, overlayAll, bind_assoc]
    apply bind_congr
    intro t
    rw [bind_assoc]
    apply bind_congr
    intro joined
    exact inductionHypothesis _

theorem load_append (layers later : List Layer) : load reader (layers ++ later) =
    overlayAll reader [] layers >>= fun base =>
      overlayAll reader base later >>= fun m => (read m).mapError .settings := by
  rw [load, overlayAll_append, bind_assoc]

theorem overlayAll_of_fault {fault : LayerError} (given : last.table reader = .error fault)
    (base : Table) (layers : List Layer) :
    overlayAll reader base (last :: layers) = .error fault := by
  rw [overlayAll, given]
  rfl

theorem overlayAll_of_join (given : last.table reader = .ok t) (joined : reader.join base t = .ok m)
    (layers : List Layer) :
    overlayAll reader base (last :: layers) = overlayAll reader m layers := by
  rw [overlayAll, given]
  change (reader.join base t >>= fun m => overlayAll reader m layers) = _
  rw [joined]
  rfl

theorem overlayAll_of_tooDeep (given : last.table reader = .ok t)
    (deep : reader.join base t = .error .tooDeep) (layers : List Layer) :
    overlayAll reader base (last :: layers) = .error .tooDeep := by
  rw [overlayAll, given]
  change (reader.join base t >>= fun m => overlayAll reader m layers) = _
  rw [deep]
  rfl

/-- Over any table, the last layer counts once, or goes too deep to be laid over twice. -/
theorem read_overlayAll_twice (sound : reader.IsSound) (last : Layer) (base : Table) :
    let once := overlayAll reader base [last] >>= fun m => (read m).mapError .settings
    let twice := overlayAll reader base [last, last] >>= fun m => (read m).mapError .settings
    (twice = once ∨ twice = .error .tooDeep) ∧
      ((∀ t, last.table reader = .ok t → t.depth ≤ reader.limit) → twice = once) := by
  intro once twice
  cases given : last.table reader with
  | error fault =>
    have same : twice = once := by
      simp only [twice, once, overlayAll_of_fault given]
    exact ⟨.inl same, fun _ => same⟩
  | ok t =>
    have again := read_overlay_overlay (Layer.hasDistinctTexts_of_table sound given) base
    have same (joined : reader.join base t = .ok (base.overlay t))
        (joinedAgain : reader.join (base.overlay t) t = .ok ((base.overlay t).overlay t)) :
        twice = once := by
      simp only [twice, once, overlayAll_of_join given joined, overlayAll_of_join given joinedAgain]
      exact congrArg (Except.mapError LayerError.settings) again
    constructor
    · rcases reader.join_eq base t with joined | tooDeep
      · rcases reader.join_eq (base.overlay t) t with joinedAgain | tooDeep
        · exact .inl (same joined joinedAgain)
        · right
          simp only [twice, overlayAll_of_join given joined, overlayAll_of_tooDeep given tooDeep]
          rfl
      · right
        simp only [twice, overlayAll_of_tooDeep given tooDeep]
        rfl
    · intro shallow
      have within := shallow t rfl
      exact same (LayerReader.join_eq_ok within) (LayerReader.join_eq_ok within)

/-- The last layer counts once, also where reading the layers or the settings fails. -/
theorem load_append_twice (sound : reader.IsSound) (layers : List Layer) (last : Layer) :
    (load reader (layers ++ [last, last]) = load reader (layers ++ [last]) ∨
      load reader (layers ++ [last, last]) = .error .tooDeep) ∧
    ((∀ t, last.table reader = .ok t → t.depth ≤ reader.limit) →
      load reader (layers ++ [last, last]) = load reader (layers ++ [last])) := by
  rw [load_append, load_append]
  cases overlayAll reader [] layers with
  | error fault => exact ⟨.inl rfl, fun _ => rfl⟩
  | ok base => exact read_overlayAll_twice sound last base

theorem append_replicate (layers : List Layer) (last : Layer) (n : Nat) :
    layers ++ List.replicate (n + 1 + 1) last =
      layers ++ List.replicate n last ++ [last, last] := by
  rw [List.replicate_succ', List.replicate_succ', List.append_assoc, List.append_assoc]
  rfl

theorem load_append_replicate (sound : reader.IsSound) (layers : List Layer) (last : Layer)
    (n : Nat) :
    (load reader (layers ++ List.replicate (n + 1) last) = load reader (layers ++ [last]) ∨
      load reader (layers ++ List.replicate (n + 1) last) = .error .tooDeep) ∧
    ((∀ t, last.table reader = .ok t → t.depth ≤ reader.limit) →
      load reader (layers ++ List.replicate (n + 1) last) = load reader (layers ++ [last])) := by
  induction n with
  | zero => exact ⟨.inl rfl, fun _ => rfl⟩
  | succ n inductionHypothesis =>
    obtain ⟨twice, twiceShallow⟩ := load_append_twice sound (layers ++ List.replicate n last) last
    rw [append_replicate]
    have single : layers ++ List.replicate n last ++ [last] =
        layers ++ List.replicate (n + 1) last := by
      rw [List.append_assoc, ← List.replicate_succ']
    rw [single] at twice twiceShallow
    constructor
    · rcases twice with same | tooDeep
      · rw [same]
        exact inductionHypothesis.1
      · exact .inr tooDeep
    · intro shallow
      rw [twiceShallow shallow]
      exact inductionHypothesis.2 shallow

/-- A layer that goes too deep is laid over itself the second time, whatever was below it. -/
theorem load_repeated_eq_tooDeep (given : last.table reader = .ok t)
    (nested : (Value.dict t).IsNested) (deep : reader.limit < t.depth) {layers : List Layer}
    (once : overlayAll reader [] (layers ++ [last]) = .ok m) (n : Nat) :
    load reader (layers ++ List.replicate (n + 1 + 1) last) = .error .tooDeep := by
  rw [overlayAll_append] at once
  obtain ⟨base, below, laid⟩ := bind_eq_ok.mp once
  rcases reader.join_eq base t with joined | tooDeep
  · have absorbs := Table.absorbs_overlay nested base
    have joinedAgain : reader.join (base.overlay t) t = .error .tooDeep :=
      LayerReader.join_eq_error (absorbs.nesting ▸ deep)
    have failed : overlayAll reader base (List.replicate (n + 1 + 1) last) = .error .tooDeep := by
      rw [List.replicate_succ, List.replicate_succ, overlayAll_of_join given joined,
        overlayAll_of_tooDeep given joinedAgain]
    rw [load_append, below]
    change (overlayAll reader base _ >>= _) = _
    rw [failed]
    rfl
  · rw [overlayAll_of_tooDeep given tooDeep] at laid
    cases laid

/-- A table that is laid over another one twice leaves what it leaves once, with the keys in the
same order. Layers with the last one repeated give the same settings, or the same fault, as they do
without the repetitions, if that layer goes no deeper than tables are joined; otherwise the
repetitions may go too deep, and they do so wherever all keys are texts and the layers can be laid
over one another once. -/
theorem repeated_layer_changes_nothing (reader : LayerReader) (sound : reader.IsSound) :
    (∀ base layer : Table, (Value.dict base).IsNested → (Value.dict layer).IsNested →
      (base.overlay layer).overlay layer = base.overlay layer) ∧
    ∀ (layers : List Layer) (last : Layer) (n : Nat),
      let once := layers ++ [last]
      let repeated := layers ++ List.replicate (n + 1) last
      ((∀ t, last.table reader = .ok t → t.depth ≤ reader.limit) →
        load reader repeated = load reader once) ∧
      (load reader repeated = load reader once ∨ load reader repeated = .error .tooDeep) ∧
      ∀ t m, last.table reader = .ok t → (Value.dict t).IsNested → reader.limit < t.depth →
        overlayAll reader [] once = .ok m → 0 < n → load reader repeated = .error .tooDeep := by
  refine ⟨fun base _ _ nested => (Table.absorbs_overlay nested base).same, ?_⟩
  intro layers last n once repeated
  obtain ⟨sameOrTooDeep, same⟩ := load_append_replicate sound layers last n
  refine ⟨same, sameOrTooDeep, ?_⟩
  intro t m given nested deep laid positive
  obtain ⟨n, rfl⟩ := Nat.exists_eq_succ_of_ne_zero positive.ne'
  exact load_repeated_eq_tooDeep given nested deep laid n

theorem isNested_siteTable : (Value.dict Table.siteTable).IsNested := by
  have leaf (s : String) : (Value.text s).IsNested := Value.IsLeaf.isNested nofun
  have null : Value.null.IsNested := Value.IsLeaf.isNested nofun
  have noKeys : (Value.dict []).IsNested :=
    Value.isNested_dict ⟨List.forall_mem_nil _, List.nodup_nil⟩ (List.forall_mem_nil _)
  have log : (Value.dict [(.text "level", .text "INFO"), (.text "file", .dict []),
      (.text "dir", .text "log")]).IsNested :=
    Value.isNested_dict ⟨by decide, by decide⟩ (List.forall_mem_cons.mpr ⟨leaf _,
      List.forall_mem_cons.mpr ⟨noKeys, List.forall_mem_singleton.mpr (leaf _)⟩⟩)
  exact Value.isNested_dict ⟨by decide, by decide⟩
    (List.forall_mem_cons.mpr ⟨log, List.forall_mem_singleton.mpr null⟩)

/-- Where null was replaced by a table, that table is laid over itself the second time. A layer that
goes deeper than any part does is read three times as it is once. -/
theorem repeated_layer_changes_nothing_ofHost :
    let reader := LayerReader.standard 500
    let once := Table.siteTable.overlay Table.hostTable
    reader.IsSound ∧ (Value.dict Table.siteTable).IsNested ∧ (Value.dict Table.hostTable).IsNested ∧
      (Value.dict Table.siteTable).at? ["solr"] = some .null ∧
      (Value.dict once).at? ["solr", "url"] = some (.text "/search") ∧
      once.overlay Table.hostTable = once ∧
      debugLayer.table reader = .ok debugTable ∧ debugTable.depth ≤ reader.limit ∧
      load reader [commentLayer, debugLayer, debugLayer, debugLayer] =
        load reader [commentLayer, debugLayer] := by
  intro reader once
  have sound : reader.IsSound := LayerReader.isSound_standard _
  obtain ⟨tables, layers⟩ := repeated_layer_changes_nothing reader sound
  have shallow : debugTable.depth ≤ reader.limit := by decide
  refine ⟨sound, isNested_siteTable, Table.isNested_hostTable, rfl, rfl,
    tables _ _ isNested_siteTable Table.isNested_hostTable, table_debugLayer, shallow, ?_⟩
  apply (layers [commentLayer] debugLayer 2).1
  intro t given
  rw [table_debugLayer] at given
  cases given
  exact shallow

/-- A layer whose only table contains itself. -/
def endlessLayer : Layer :=
  .ofAscii "site.yml" "a: &a\n  b: *a\n"

def isTooDeep : Except LayerError Settings → Bool
  | .error .tooDeep => true
  | _ => false

theorem eq_tooDeep_of_isTooDeep {result : Except LayerError Settings}
    (tooDeep : isTooDeep result = true) : result = .error .tooDeep := by
  unfold isTooDeep at tooDeep
  split at tooDeep
  · rfl
  · cases tooDeep

/-- It is read once, and goes too deep when it is laid over itself. -/
theorem load_fails_of_endlessLayer :
    let reader := LayerReader.standard 500
    (load reader [endlessLayer]).toOption.isSome = true ∧
      load reader [endlessLayer, endlessLayer] = .error .tooDeep :=
  ⟨by decide +kernel, eq_tooDeep_of_isTooDeep (by decide +kernel)⟩

end Settings

end SolrRequest
