import SolrRequest.Entries

/-!
# Keys and values of entries

What is found in entries after a key, or a list of keys, has been written: the last value of each
key, the old keys in their places and the new ones behind them in the order of their first writing.
-/

namespace SolrRequest.Entries

universe u v
variable {κ : Type u} {α : Type v}

def keys (entries : List (κ × α)) : List κ :=
  entries.map Prod.fst

def values (entries : List (κ × α)) : List α :=
  entries.map Prod.snd

@[simp] theorem keys_nil : keys ([] : List (κ × α)) = [] := rfl

@[simp] theorem keys_cons (e : κ × α) (rest : List (κ × α)) : keys (e :: rest) = e.1 :: keys rest :=
  rfl

variable [BEq κ]

@[simp] theorem putAll_nil (entries : List (κ × α)) : putAll entries [] = entries := rfl

theorem putAll_cons (entries more : List (κ × α)) (e : κ × α) :
    putAll entries (e :: more) = putAll (put e.1 e.2 entries) more :=
  rfl

theorem putAll_append (entries first second : List (κ × α)) :
    putAll entries (first ++ second) = putAll (putAll entries first) second :=
  List.foldl_append

theorem get?_append (key : κ) (first second : List (κ × α)) :
    get? key (first ++ second) = (get? key first).or (get? key second) := by
  induction first with
  | nil => rfl
  | cons e first inductionHypothesis =>
    by_cases same : e.1 == key <;> simp [get?, same, inductionHypothesis]

theorem mem_values_of_get? {key : κ} {a : α} {entries : List (κ × α)}
    (found : get? key entries = some a) : a ∈ values entries := by
  induction entries with
  | nil => cases found
  | cons e rest inductionHypothesis =>
    rw [get?] at found
    split at found
    · cases found
      exact List.mem_cons_self
    · exact List.mem_cons_of_mem _ (inductionHypothesis found)

/-- Writing what is found under a key anyway changes nothing. -/
theorem put_of_get? {key : κ} {a : α} {entries : List (κ × α)}
    (found : get? key entries = some a) : put key a entries = entries := by
  induction entries with
  | nil => cases found
  | cons e rest inductionHypothesis =>
    rw [get?] at found
    rw [put]
    split at found
    · next same => rw [if_pos same, ← Option.some.inj found]
    · next other => rw [if_neg other, inductionHypothesis found]

theorem putAll_of_get? {entries more : List (κ × α)}
    (found : ∀ e ∈ more, get? e.1 entries = some e.2) : putAll entries more = entries := by
  induction more with
  | nil => rfl
  | cons e more inductionHypothesis =>
    obtain ⟨foundFirst, foundRest⟩ := List.forall_mem_cons.mp found
    rw [putAll_cons, put_of_get? foundFirst, inductionHypothesis foundRest]

theorem mem_values_put {key : κ} {a b : α} {entries : List (κ × α)}
    (present : b ∈ values (put key a entries)) : b = a ∨ b ∈ values entries := by
  induction entries with
  | nil => exact .inl (List.mem_singleton.mp present)
  | cons e rest inductionHypothesis =>
    rw [put] at present
    split at present
    · rcases List.mem_cons.mp present with new | old
      · exact .inl new
      · exact .inr (List.mem_cons_of_mem _ old)
    · rcases List.mem_cons.mp present with first | later
      · exact .inr (first ▸ List.mem_cons_self)
      · exact (inductionHypothesis later).imp_right (List.mem_cons_of_mem _)

theorem mem_values_putAll {b : α} {entries more : List (κ × α)}
    (present : b ∈ values (putAll entries more)) : b ∈ values entries ∨ b ∈ values more := by
  induction more generalizing entries with
  | nil => exact .inl present
  | cons e more inductionHypothesis =>
    rcases inductionHypothesis present with old | later
    · rcases mem_values_put old with new | old
      · exact .inr (new ▸ List.mem_cons_self)
      · exact .inl old
    · exact .inr (List.mem_cons_of_mem _ later)

variable [LawfulBEq κ]

theorem get?_eq_none_iff {key : κ} {entries : List (κ × α)} :
    get? key entries = none ↔ key ∉ keys entries := by
  induction entries with
  | nil => simp
  | cons e rest inductionHypothesis =>
    by_cases same : e.1 == key
    · simp [get?, eq_of_beq same]
    · have different : key ≠ e.1 := fun equal => same (by simp [equal])
      simp [get?, same, inductionHypothesis, different]

theorem exists_get? {key : κ} {entries : List (κ × α)} (present : key ∈ keys entries) :
    ∃ a, get? key entries = some a := by
  apply Option.ne_none_iff_exists'.mp
  intro absent
  exact get?_eq_none_iff.mp absent present

theorem mem_keys_of_get? {key : κ} {a : α} {entries : List (κ × α)}
    (found : get? key entries = some a) : key ∈ keys entries := by
  apply Classical.byContradiction
  intro absent
  rw [get?_eq_none_iff.mpr absent] at found
  cases found

theorem mem_keys_put {key other : κ} {a : α} {entries : List (κ × α)} :
    other ∈ keys (put key a entries) ↔ other = key ∨ other ∈ keys entries := by
  rw [keys, keys_put, ← keys]
  split
  · next present =>
    constructor
    · exact .inr
    · rintro (rfl | old)
      · exact present
      · exact old
  · simp [or_comm]

theorem nodup_keys_put {key : κ} {a : α} {entries : List (κ × α)}
    (distinct : (keys entries).Nodup) : (keys (put key a entries)).Nodup := by
  rw [keys, keys_put, ← keys]
  split
  · exact distinct
  · next absent =>
    rw [List.nodup_append]
    refine ⟨distinct, by simp, ?_⟩
    rintro k old _ new rfl
    exact absent (List.mem_singleton.mp new ▸ old)

theorem get?_eq_some_iff_mem {key : κ} {a : α} {entries : List (κ × α)}
    (distinct : (keys entries).Nodup) : get? key entries = some a ↔ (key, a) ∈ entries := by
  induction entries with
  | nil => simp
  | cons e rest inductionHypothesis =>
    obtain ⟨fresh, distinctRest⟩ := List.nodup_cons.mp distinct
    rw [get?, List.mem_cons]
    split
    · next same =>
      have absent : (key, a) ∉ rest := fun present =>
        fresh (List.mem_map.mpr ⟨(key, a), present, (eq_of_beq same).symm⟩)
      simp only [absent, or_false, Prod.ext_iff, eq_of_beq same, true_and, Option.some.injEq]
      exact eq_comm
    · next other =>
      have different : (key, a) ≠ e := fun equal => other (by simp [← equal])
      rw [inductionHypothesis distinctRest]
      exact (or_iff_right different).symm

omit [BEq κ] [LawfulBEq κ] in
theorem nodup_of_keys {entries : List (κ × α)} (distinct : (keys entries).Nodup) :
    entries.Nodup :=
  List.Pairwise.of_map Prod.fst (fun _ _ => mt (congrArg Prod.fst)) distinct

/-- Entries with distinct keys are told by what is found in them, up to their order. -/
theorem perm_of_get?_eq {first second : List (κ × α)} (distinct : (keys first).Nodup)
    (distinctSecond : (keys second).Nodup) (same : ∀ key, get? key first = get? key second) :
    first.Perm second := by
  rw [List.perm_ext_iff_of_nodup (nodup_of_keys distinct) (nodup_of_keys distinctSecond)]
  rintro ⟨key, a⟩
  rw [← get?_eq_some_iff_mem distinct, same, get?_eq_some_iff_mem distinctSecond]

/-- The last value that is written under a key is found. -/
theorem get?_putAll (key : κ) (entries more : List (κ × α)) :
    get? key (putAll entries more) = (get? key more.reverse).or (get? key entries) := by
  induction more generalizing entries with
  | nil => simp
  | cons e more inductionHypothesis =>
    have put : get? key (put e.1 e.2 entries) = (get? key [e]).or (get? key entries) := by
      by_cases same : key = e.1
      · rw [same, get?_put_self]
        simp [get?]
      · rw [get?_put_of_ne same]
        simp [get?, Ne.symm same]
    rw [putAll_cons, inductionHypothesis, put, List.reverse_cons, get?_append, Option.or_assoc]

theorem get?_putAll_of_notMem {key : κ} (entries : List (κ × α)) {more : List (κ × α)}
    (absent : key ∉ keys more) : get? key (putAll entries more) = get? key entries := by
  have unwritten : get? key more.reverse = none := by
    rw [get?_eq_none_iff, keys, List.map_reverse, List.mem_reverse]
    exact absent
  rw [get?_putAll, unwritten, Option.none_or]

theorem mem_keys_putAll {key : κ} {entries more : List (κ × α)} :
    key ∈ keys (putAll entries more) ↔ key ∈ keys entries ∨ key ∈ keys more := by
  induction more generalizing entries with
  | nil => simp
  | cons e more inductionHypothesis =>
    rw [putAll_cons, inductionHypothesis, mem_keys_put, keys_cons, List.mem_cons,
      or_comm (a := key = e.1), or_assoc]

theorem nodup_keys_putAll {entries : List (κ × α)} (distinct : (keys entries).Nodup)
    (more : List (κ × α)) : (keys (putAll entries more)).Nodup := by
  induction more generalizing entries with
  | nil => exact distinct
  | cons e more inductionHypothesis => exact inductionHypothesis (nodup_keys_put distinct)

/-- The keys that were there stay where they are; the others follow in the order in which they are
written for the first time. -/
theorem keys_putAll (entries more : List (κ × α)) :
    keys (putAll entries more) =
      keys entries ++ ((keys more).removeAll (keys entries)).eraseDups := by
  induction more generalizing entries with
  | nil => simp [List.removeAll]
  | cons e more inductionHypothesis =>
    rw [putAll_cons, inductionHypothesis, keys_cons, keys, keys_put, ← keys]
    split
    · next present => simp [List.removeAll, present]
    · next absent =>
      -- The new key is dropped from what follows, as the keys behind it are taken against it.
      have later : (keys more).removeAll (keys entries ++ [e.1]) =
          ((keys more).removeAll (keys entries)).filter fun k => !k == e.1 := by
        rw [List.removeAll, List.removeAll, List.filter_filter]
        apply List.filter_congr
        intro k _
        rw [List.elem_eq_contains, List.elem_eq_contains, List.contains_append, Bool.not_or,
          Bool.and_comm]
        simp
      have first : (e.1 :: keys more).removeAll (keys entries) =
          e.1 :: (keys more).removeAll (keys entries) := by
        simp [List.removeAll, absent]
      rw [later, first, List.eraseDups_cons, List.append_assoc, List.singleton_append]

/-! ## Entries that are written from the start -/

/-- What is found under a key is the value of its first entry. -/
theorem get?_eq_some_iff {key : κ} {a : α} {entries : List (κ × α)} :
    get? key entries = some a ↔
      ∃ before after, entries = before ++ (key, a) :: after ∧ key ∉ keys before := by
  constructor
  · intro found
    induction entries with
    | nil => cases found
    | cons e rest inductionHypothesis =>
      rw [get?] at found
      split at found
      · next same =>
        refine ⟨[], rest, ?_, List.not_mem_nil⟩
        rw [← eq_of_beq same, ← Option.some.inj found, List.nil_append]
      · next other =>
        obtain ⟨before, after, rfl, absent⟩ := inductionHypothesis found
        refine ⟨e :: before, after, rfl, ?_⟩
        rw [keys_cons, List.mem_cons, not_or]
        exact ⟨fun equal => other (by simp [equal]), absent⟩
  · rintro ⟨before, after, rfl, absent⟩
    rw [get?_append, get?_eq_none_iff.mpr absent]
    simp [get?]

theorem nodup_keys_putAll_nil (more : List (κ × α)) : (keys (putAll [] more)).Nodup := by
  apply nodup_keys_putAll
  exact List.nodup_nil

/-- Of the entries that are written one after the other, those stay that are the last of their
key. -/
theorem mem_putAll_nil_iff {key : κ} {a : α} {more : List (κ × α)} :
    (key, a) ∈ putAll [] more ↔
      ∃ before after, more = before ++ (key, a) :: after ∧ key ∉ keys after := by
  have reversed : ∀ entries : List (κ × α), keys entries.reverse = (keys entries).reverse :=
    fun _ => List.map_reverse
  rw [← get?_eq_some_iff_mem (nodup_keys_putAll_nil more), get?_putAll, get?_nil,
    Option.or_none, get?_eq_some_iff]
  constructor
  · rintro ⟨after, before, split, absent⟩
    refine ⟨before.reverse, after.reverse, ?_, by rwa [reversed, List.mem_reverse]⟩
    rw [← List.reverse_reverse more, split]
    simp
  · rintro ⟨before, after, rfl, absent⟩
    exact ⟨after.reverse, before.reverse, by simp, by rwa [reversed, List.mem_reverse]⟩

/-- The keys stand in the order in which they are written for the first time. -/
theorem keys_putAll_nil (more : List (κ × α)) :
    keys (putAll [] more) = (keys more).eraseDups := by
  have nothing : (keys more).removeAll (keys ([] : List (κ × α))) = keys more := by
    rw [List.removeAll, List.filter_eq_self]
    simp
  rw [keys_putAll, nothing, keys_nil, List.nil_append]

end SolrRequest.Entries
