import Mathlib.Data.List.Forall2

/-!
# Passes over lists

A pass that looks at one item after the other and stops where it cannot go on has a result exactly
if every item has one, and then the result is made of theirs.
-/

namespace SolrRequest

theorem isSome_mapM {α β : Type*} (f : α → Option β) (xs : List α) :
    (xs.mapM f).isSome = xs.all fun x => (f x).isSome := by
  induction xs with
  | nil => rfl
  | cons x xs inductionHypothesis =>
    rw [List.mapM_cons, List.all_cons, ← inductionHypothesis]
    cases f x with
    | none => rfl
    | some y => cases xs.mapM f <;> rfl

/-- Two passes over a list that stop where one of them fails are a single pass. -/
theorem mapM_bind_mapM {α β γ : Type*} (f : α → Option β) (g : β → Option γ) (xs : List α) :
    ((xs.mapM f).bind fun ys => ys.mapM g) = xs.mapM fun x => (f x).bind g := by
  induction xs with
  | nil => rfl
  | cons x xs inductionHypothesis =>
    rw [List.mapM_cons, List.mapM_cons, ← inductionHypothesis]
    cases f x with
    | none => rfl
    | some y =>
      cases xs.mapM f with
      | none => simp
      | some ys => exact List.mapM_cons

variable {α β : Type} {f : α → Option β} {xs : List α} {ys : List β}

theorem mapM_cons_eq_some {x : α} : (x :: xs).mapM f = some ys ↔
    ∃ y rest, f x = some y ∧ xs.mapM f = some rest ∧ ys = y :: rest := by
  simp only [List.mapM_cons, Option.bind_eq_bind, Option.bind_eq_some_iff, Option.pure_def,
    Option.some.injEq, eq_comm (a := ys), exists_and_left]

theorem forall₂_of_mapM (result : xs.mapM f = some ys) :
    List.Forall₂ (fun x y => f x = some y) xs ys := by
  induction xs generalizing ys with
  | nil =>
    cases result
    exact .nil
  | cons x xs inductionHypothesis =>
    obtain ⟨y, rest, first, later, rfl⟩ := mapM_cons_eq_some.mp result
    exact .cons first (inductionHypothesis later)

theorem mapM_eq_some_iff : xs.mapM f = some ys ↔ List.Forall₂ (fun x y => f x = some y) xs ys := by
  constructor
  · exact forall₂_of_mapM
  · intro pairs
    induction pairs with
    | nil => rfl
    | cons first _ inductionHypothesis =>
      exact mapM_cons_eq_some.mpr ⟨_, _, first, inductionHypothesis, rfl⟩

/-- A pass in which every item has the result that a total function gives is a map. -/
theorem eq_map_of_mapM {g : α → β} (same : ∀ x y, f x = some y → g x = y)
    (result : xs.mapM f = some ys) : ys = xs.map g := by
  induction xs generalizing ys with
  | nil =>
    cases result
    rfl
  | cons x xs inductionHypothesis =>
    obtain ⟨y, rest, first, later, rfl⟩ := mapM_cons_eq_some.mp result
    rw [List.map_cons, same x y first, ← inductionHypothesis later]

theorem forall_of_mapM {holds : β → Prop} (each : ∀ x y, f x = some y → holds y)
    (result : xs.mapM f = some ys) : ∀ y ∈ ys, holds y := by
  induction xs generalizing ys with
  | nil =>
    cases result
    exact List.forall_mem_nil _
  | cons x xs inductionHypothesis =>
    obtain ⟨y, rest, first, later, rfl⟩ := mapM_cons_eq_some.mp result
    exact List.forall_mem_cons.mpr ⟨each x y first, inductionHypothesis later⟩

/-- Items in another order give the same results in another order. -/
theorem exists_perm_of_mapM {other : List α} (perm : xs.Perm other)
    (result : xs.mapM f = some ys) : ∃ zs, other.mapM f = some zs ∧ ys.Perm zs := by
  induction perm generalizing ys with
  | nil => exact ⟨ys, result, .refl ys⟩
  | cons x _ inductionHypothesis =>
    obtain ⟨y, rest, first, later, rfl⟩ := mapM_cons_eq_some.mp result
    obtain ⟨zs, reordered, permRest⟩ := inductionHypothesis later
    exact ⟨y :: zs, mapM_cons_eq_some.mpr ⟨y, zs, first, reordered, rfl⟩, permRest.cons y⟩
  | swap x y _ =>
    obtain ⟨b, _, first, later, rfl⟩ := mapM_cons_eq_some.mp result
    obtain ⟨a, rest, second, last, rfl⟩ := mapM_cons_eq_some.mp later
    have swapped := mapM_cons_eq_some.mpr ⟨b, rest, first, last, rfl⟩
    exact ⟨a :: b :: rest, mapM_cons_eq_some.mpr ⟨a, _, second, swapped, rfl⟩, .swap a b rest⟩
  | trans _ _ firstHypothesis secondHypothesis =>
    obtain ⟨between, reached, firstPerm⟩ := firstHypothesis result
    obtain ⟨zs, reordered, secondPerm⟩ := secondHypothesis reached
    exact ⟨zs, reordered, firstPerm.trans secondPerm⟩

theorem exists_mem_of_forall₂ {related : α → β → Prop} (pairs : List.Forall₂ related xs ys) {x : α}
    (member : x ∈ xs) : ∃ y ∈ ys, related x y := by
  induction pairs with
  | nil => cases member
  | cons first _ inductionHypothesis =>
    rcases List.mem_cons.mp member with rfl | later
    · exact ⟨_, List.mem_cons_self, first⟩
    · obtain ⟨y, found, holds⟩ := inductionHypothesis later
      exact ⟨y, List.mem_cons_of_mem _ found, holds⟩

end SolrRequest
