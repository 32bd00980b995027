import HookWiring.Table
import Mathlib.Data.List.Nodup

/-!
# What a table holds

A table that was given values for keys, one after the other, holds the value that each key was given
last, at the place where the key was given first. Inserting one more entry keeps this, so it holds
of every table that was filled from an empty one.
-/

namespace HookWiring

variable {κ ν : Type}

def LastGiven (given : List (κ × ν)) (key : κ) (value : ν) : Prop :=
  ∃ before after, given = before ++ (key, value) :: after ∧ key ∉ after.map Prod.fst

theorem lastGiven_concat_iff {given : List (κ × ν)} {key other : κ} {value last : ν} :
    LastGiven (given ++ [(key, value)]) other last ↔
      (other = key ∧ last = value) ∨ (other ≠ key ∧ LastGiven given other last) := by
  constructor
  · rintro ⟨before, after, hgiven, hafter⟩
    rcases List.eq_nil_or_concat' after with rfl | ⟨after, entry, rfl⟩
    · obtain ⟨-, hentry⟩ := List.append_inj' hgiven rfl
      cases hentry
      exact .inl ⟨rfl, rfl⟩
    · rw [← List.cons_append, ← List.append_assoc] at hgiven
      obtain ⟨rfl, hentry⟩ := List.append_inj' hgiven rfl
      cases hentry
      simp only [List.map_append, List.map_cons, List.map_nil, List.mem_append,
        List.mem_singleton, not_or] at hafter
      exact .inr ⟨hafter.2, before, after, rfl, hafter.1⟩
  · rintro (⟨rfl, rfl⟩ | ⟨hne, before, after, rfl, hafter⟩)
    · exact ⟨given, [], rfl, List.not_mem_nil⟩
    · exact ⟨before, after ++ [(key, value)], by simp, by simp [hafter, hne]⟩

namespace Table

variable [DecidableEq κ]

/-- The table holds what was given: for each key its last value, in the order of the first ones. -/
structure Holds (table : Table κ ν) (given : List (κ × ν)) : Prop where
  distinct : table.keys.Nodup
  last : ∀ key value, (key, value) ∈ table.entries ↔ LastGiven given key value
  mem_keys : ∀ key, key ∈ table.keys ↔ key ∈ given.map Prod.fst
  ordered : table.keys.Pairwise fun first second =>
    (given.map Prod.fst).idxOf first < (given.map Prod.fst).idxOf second

section Insertion

variable {table : Table κ ν} {given : List (κ × ν)} {key : κ} {value : ν}

theorem mem_entries_iff (distinct : table.keys.Nodup) :
    (key, value) ∈ table.entries ↔ table.get? key = some value := by
  obtain ⟨entries⟩ := table
  change (entries.map Prod.fst).Nodup at distinct
  change _ ↔ lookup key entries = some value
  induction entries with
  | nil => simp [lookup]
  | cons entry rest ih =>
    obtain ⟨hfresh, hrest⟩ := List.nodup_cons.mp distinct
    rw [lookup, List.mem_cons, ih hrest]
    by_cases hkey : entry.1 = key
    · have hnone : lookup key rest ≠ some value := by
        intro h
        have hmem := (lookup_isSome_iff key rest).mp (by rw [h]; rfl)
        exact hfresh (hkey ▸ hmem)
      rw [if_pos hkey, or_iff_left hnone, ← hkey, Option.some.injEq, eq_comm (a := entry.2),
        Prod.ext_iff]
      exact and_iff_right rfl
    · rw [if_neg hkey, or_iff_right fun h => hkey (congrArg Prod.fst h).symm]

theorem Holds.get?_eq_some_iff (holds : table.Holds given) :
    table.get? key = some value ↔ LastGiven given key value :=
  (mem_entries_iff holds.distinct).symm.trans (holds.last key value)

theorem holds_empty : (empty : Table κ ν).Holds [] where
  distinct := List.nodup_nil
  last key value := by simp [empty, LastGiven]
  mem_keys key := Iff.rfl
  ordered := List.Pairwise.nil

theorem Holds.insert (holds : table.Holds given) (key : κ) (value : ν) :
    (table.insert key value).Holds (given ++ [(key, value)]) := by
  have hdistinct := nodup_keys_insert holds.distinct key value
  have hmem (other : κ) : other ∈ (table.insert key value).keys ↔
      other ∈ (given ++ [(key, value)]).map Prod.fst := by
    rw [keys_insert, List.map_append, List.mem_append, ← holds.mem_keys]
    split <;> simp_all
  refine ⟨hdistinct, fun other last => ?_, hmem, ?_⟩
  · rw [mem_entries_iff hdistinct, get?_insert, lastGiven_concat_iff]
    by_cases h : other = key
    · simp [h, eq_comm]
    · simp [h, holds.get?_eq_some_iff]
  · -- the keys that were there keep their first places, and a new key comes behind all of them
    have hkept : table.keys.Pairwise fun first second =>
        ((given ++ [(key, value)]).map Prod.fst).idxOf first <
          ((given ++ [(key, value)]).map Prod.fst).idxOf second := by
      refine holds.ordered.imp_of_mem fun hfirst hsecond hlt => ?_
      rw [List.map_append, List.idxOf_append_of_mem ((holds.mem_keys _).mp hfirst),
        List.idxOf_append_of_mem ((holds.mem_keys _).mp hsecond)]
      exact hlt
    rw [keys_insert]
    split
    next => exact hkept
    next hnew =>
      refine List.pairwise_append.mpr ⟨hkept, List.pairwise_singleton _ _, ?_⟩
      intro first hfirst second hsecond
      rw [List.mem_singleton.mp hsecond, List.map_append,
        List.idxOf_append_of_mem ((holds.mem_keys _).mp hfirst),
        List.idxOf_append_of_notMem ((holds.mem_keys _).not.mp hnew)]
      have hlt := List.idxOf_lt_length_of_mem ((holds.mem_keys _).mp hfirst)
      omega

/-- A state has a table, and every step of a fold gives something to it. -/
theorem Holds.foldl {σ α : Type} (table : σ → Table κ ν) (step : σ → α → σ)
    (added : α → List (κ × ν)) {items : List α}
    (keeps : ∀ item ∈ items, ∀ state given, (table state).Holds given →
      (table (step state item)).Holds (given ++ added item)) {state : σ} {given : List (κ × ν)}
    (holds : (table state).Holds given) :
    (table (items.foldl step state)).Holds (given ++ items.flatMap added) := by
  induction items generalizing state given with
  | nil => simpa using holds
  | cons item more ih =>
    obtain ⟨hfirst, hmore⟩ := List.forall_mem_cons.mp keeps
    rw [List.foldl_cons, List.flatMap_cons, ← List.append_assoc]
    exact ih hmore (hfirst state given holds)

theorem Holds.foldl_insert (holds : table.Holds given) (entries : List (κ × ν)) :
    (entries.foldl (fun table entry => table.insert entry.1 entry.2) table).Holds
      (given ++ entries) := by
  have keeps (entry : κ × ν) (_ : entry ∈ entries) (held : Table κ ν) (given : List (κ × ν))
      (h : held.Holds given) : (held.insert entry.1 entry.2).Holds (given ++ [entry]) :=
    h.insert entry.1 entry.2
  have hfold := Holds.foldl (fun held => held) _ (fun entry => [entry]) keeps holds
  rwa [List.flatMap_singleton'] at hfold

theorem holds_ofList (entries : List (κ × ν)) : (ofList entries).Holds entries :=
  holds_empty.foldl_insert entries

end Insertion

end Table

end HookWiring
