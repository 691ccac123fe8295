/-!
# Entries in order

A finite map as the list of its entries, in the order in which the keys were first written. Writing
a key again keeps its place. Keys are compared by `==`, which need not tell all values apart.
-/

namespace SolrRequest.Entries

universe u v
variable {κ : Type u} {α : Type v} [BEq κ]

def get? (key : κ) : List (κ × α) → Option α
  | [] => none
  | (k, a) :: rest => if k == key then some a else get? key rest

def contains (key : κ) (entries : List (κ × α)) : Bool :=
  (get? key entries).isSome

def put (key : κ) (value : α) : List (κ × α) → List (κ × α)
  | [] => [(key, value)]
  | (k, a) :: rest => if k == key then (k, value) :: rest else (k, a) :: put key value rest

def putAll (entries more : List (κ × α)) : List (κ × α) :=
  more.foldl (fun acc e => put e.1 e.2 acc) entries

def ofList (entries : List (κ × α)) : List (κ × α) :=
  putAll [] entries

@[simp] theorem get?_nil (key : κ) : get? key ([] : List (κ × α)) = none := rfl

theorem get?_put_self [ReflBEq κ] (key : κ) (value : α) (entries : List (κ × α)) :
    get? key (put key value entries) = some value := by
  induction entries with
  | nil => simp [put, get?]
  | cons e rest ih =>
    by_cases h : e.1 == key <;> simp [put, get?, h, ih]

theorem get?_put_of_ne [LawfulBEq κ] {key other : κ} (h : other ≠ key) (value : α)
    (entries : List (κ × α)) : get? other (put key value entries) = get? other entries := by
  induction entries with
  | nil =>
    have : (key == other) = false := by simpa using fun e => h e.symm
    simp [put, get?, this]
  | cons e rest ih =>
    by_cases hk : e.1 == key
    · have hne : (e.1 == other) = false := by
        rw [eq_of_beq hk]
        simpa using fun e => h e.symm
      simp [put, get?, hk, hne]
    · simp [put, get?, hk, ih]

theorem keys_put [LawfulBEq κ] (key : κ) (value : α) (entries : List (κ × α)) :
    (put key value entries).map Prod.fst =
      if key ∈ entries.map Prod.fst then entries.map Prod.fst
      else entries.map Prod.fst ++ [key] := by
  induction entries with
  | nil => simp [put]
  | cons e rest ih =>
    by_cases hk : e.1 == key
    · simp [put, eq_of_beq hk]
    · have hne : ¬ key = e.1 := fun he => hk (by simp [he])
      simp only [put, hk, Bool.false_eq_true, if_false, List.map_cons, ih, List.mem_cons, hne,
        false_or]
      split <;> simp

end SolrRequest.Entries
