/-!
# Insertion-ordered tables

A table maps keys to values and remembers the order in which keys first came. Giving a key a new
value keeps its place. Route tables, setter tables and the slots of a registry are tables.
-/

namespace HookWiring

structure Table (κ ν : Type) where
  entries : List (κ × ν) := []

namespace Table

variable {κ ν : Type} [DecidableEq κ]

def lookup (key : κ) : List (κ × ν) → Option ν
  | [] => none
  | (k, v) :: rest => if k = key then some v else lookup key rest

/-- The entries after a key was given a value: replaced in place, or added at the end. -/
def place (key : κ) (value : ν) : List (κ × ν) → List (κ × ν)
  | [] => [(key, value)]
  | (k, v) :: rest => if k = key then (key, value) :: rest else (k, v) :: place key value rest

def empty : Table κ ν := ⟨[]⟩

def get? (table : Table κ ν) (key : κ) : Option ν :=
  lookup key table.entries

def insert (table : Table κ ν) (key : κ) (value : ν) : Table κ ν :=
  ⟨place key value table.entries⟩

def ofList (entries : List (κ × ν)) : Table κ ν :=
  entries.foldl (fun table entry => table.insert entry.1 entry.2) empty

def keys (table : Table κ ν) : List κ :=
  table.entries.map Prod.fst

def size (table : Table κ ν) : Nat :=
  table.entries.length

theorem lookup_place_self (key : κ) (value : ν) (entries : List (κ × ν)) :
    lookup key (place key value entries) = some value := by
  induction entries with
  | nil => simp [place, lookup]
  | cons entry rest ih => by_cases h : entry.1 = key <;> simp [place, lookup, h, ih]

theorem lookup_place_of_ne {key other : κ} (h : key ≠ other) (value : ν)
    (entries : List (κ × ν)) :
    lookup other (place key value entries) = lookup other entries := by
  induction entries with
  | nil => simp [place, lookup, h]
  | cons entry rest ih =>
    by_cases hk : entry.1 = key
    · simp [place, lookup, hk, h]
    · rw [place, if_neg hk, lookup, lookup, ih]

theorem map_fst_place (key : κ) (value : ν) (entries : List (κ × ν)) :
    (place key value entries).map Prod.fst =
      if key ∈ entries.map Prod.fst then entries.map Prod.fst
      else entries.map Prod.fst ++ [key] := by
  induction entries with
  | nil => simp [place]
  | cons entry rest ih =>
    by_cases hk : entry.1 = key
    · simp [place, hk]
    · have hk' : key ≠ entry.1 := fun e => hk e.symm
      by_cases hm : key ∈ rest.map Prod.fst <;> simp_all [place]

theorem lookup_isSome_iff (key : κ) (entries : List (κ × ν)) :
    (lookup key entries).isSome = true ↔ key ∈ entries.map Prod.fst := by
  induction entries with
  | nil => simp [lookup]
  | cons entry rest ih =>
    by_cases hk : entry.1 = key
    · simp [lookup, hk]
    · have hk' : key ≠ entry.1 := fun e => hk e.symm
      simp only [lookup, if_neg hk, List.map_cons, List.mem_cons, hk', false_or]
      exact ih

@[simp] theorem get?_insert_self (table : Table κ ν) (key : κ) (value : ν) :
    (table.insert key value).get? key = some value :=
  lookup_place_self key value table.entries

theorem get?_insert_of_ne (table : Table κ ν) {key other : κ} (h : key ≠ other) (value : ν) :
    (table.insert key value).get? other = table.get? other :=
  lookup_place_of_ne h value table.entries

theorem get?_insert (table : Table κ ν) (key other : κ) (value : ν) :
    (table.insert key value).get? other = if other = key then some value else table.get? other := by
  by_cases h : other = key
  · rw [if_pos h, h, get?_insert_self]
  · rw [if_neg h]
    exact get?_insert_of_ne table (Ne.symm h) value

theorem get?_isSome_iff (table : Table κ ν) (key : κ) :
    (table.get? key).isSome = true ↔ key ∈ table.keys :=
  lookup_isSome_iff key table.entries

omit [DecidableEq κ] in
theorem length_keys (table : Table κ ν) : table.keys.length = table.size :=
  List.length_map _

theorem keys_insert (table : Table κ ν) (key : κ) (value : ν) :
    (table.insert key value).keys =
      if key ∈ table.keys then table.keys else table.keys ++ [key] :=
  map_fst_place key value table.entries

theorem nodup_keys_insert {table : Table κ ν} (h : table.keys.Nodup) (key : κ) (value : ν) :
    (table.insert key value).keys.Nodup := by
  rw [keys_insert]
  by_cases hk : key ∈ table.keys
  · simpa [hk] using h
  · simp only [hk, if_false]
    rw [List.nodup_append]
    exact ⟨h, by simp, fun a ha b hb => by
      simp only [List.mem_singleton] at hb
      exact fun e => hk (hb ▸ e ▸ ha)⟩

end Table

end HookWiring
