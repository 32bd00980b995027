import HookWiring.Host
import Mathlib.Data.List.Basic

/-!
# Stable order of bindings

The order in which bindings run is ascending in the priority, and it keeps the bindings of every
priority as they were registered. These two facts determine it. So blocks of bindings may be
registered in any order, as long as no two of them share a priority.
-/

namespace HookWiring.Host

variable {B : Bodies} {bindings first second : List (Binding B)}

def Ascending (bindings : List (Binding B)) : Prop :=
  bindings.Pairwise fun a b => a.priority ≤ b.priority

theorem priority_trans (a b c : Binding B) (hab : decide (a.priority ≤ b.priority) = true)
    (hbc : decide (b.priority ≤ c.priority) = true) : decide (a.priority ≤ c.priority) = true := by
  simp only [decide_eq_true_eq] at *
  omega

theorem priority_total (a b : Binding B) :
    (decide (a.priority ≤ b.priority) || decide (b.priority ≤ a.priority)) = true := by
  simp only [Bool.or_eq_true, decide_eq_true_eq]
  omega

theorem ascending_inOrder (bindings : List (Binding B)) : Ascending (inOrder bindings) :=
  (List.pairwise_mergeSort priority_trans priority_total bindings).imp fun h => of_decide_eq_true h

theorem filter_inOrder (bindings : List (Binding B)) (priority : Int) :
    (inOrder bindings).filter (·.priority == priority) =
      bindings.filter (·.priority == priority) := by
  let kept := bindings.filter (·.priority == priority)
  have hsame : ∀ binding ∈ kept, binding.priority = priority := by
    intro binding hmem
    simpa using (List.mem_filter.mp hmem).2
  have hpairwise : kept.Pairwise fun a b => decide (a.priority ≤ b.priority) = true := by
    apply List.pairwise_of_forall_mem_list
    intro a ha b hb
    simp [hsame a ha, hsame b hb]
  have hsub : kept.Sublist (inOrder bindings) :=
    List.sublist_mergeSort priority_trans priority_total hpairwise List.filter_sublist
  have hfilter : kept.Sublist ((inOrder bindings).filter (·.priority == priority)) := by
    have hself : kept.filter (·.priority == priority) = kept :=
      List.filter_eq_self.mpr fun binding hmem => by simp [hsame binding hmem]
    rw [← hself]
    exact hsub.filter _
  have hlength := ((inOrder_perm bindings).filter (·.priority == priority)).length_eq
  exact (hfilter.eq_of_length hlength.symm).symm

theorem mem_of_filter {binding : Binding B}
    (h : ∀ priority, first.filter (·.priority == priority) =
      second.filter (·.priority == priority)) (hmem : binding ∈ first) : binding ∈ second := by
  have hkept : binding ∈ first.filter (·.priority == binding.priority) :=
    List.mem_filter.mpr ⟨hmem, by simp⟩
  rw [h] at hkept
  exact (List.mem_filter.mp hkept).1

theorem priority_le_of_mem {a b : Binding B} {rest : List (Binding B)}
    (h : Ascending (a :: rest)) (hmem : b ∈ a :: rest) : a.priority ≤ b.priority := by
  rcases List.mem_cons.mp hmem with rfl | hmem
  · exact Int.le_refl _
  · exact (List.pairwise_cons.mp h).1 b hmem

/-- An ascending list is determined by what it holds of every priority. -/
theorem eq_of_ascending (hfirst : Ascending first) (hsecond : Ascending second)
    (h : ∀ priority, first.filter (·.priority == priority) =
      second.filter (·.priority == priority)) : first = second := by
  induction first generalizing second with
  | nil =>
    refine (List.eq_nil_iff_forall_not_mem.mpr fun b hmem => ?_).symm
    cases mem_of_filter (fun priority => (h priority).symm) hmem
  | cons a rest ih =>
    cases second with
    | nil => cases mem_of_filter h List.mem_cons_self
    | cons b more =>
      have hpriority : a.priority = b.priority := by
        have hle := priority_le_of_mem hfirst
          (mem_of_filter (fun priority => (h priority).symm) List.mem_cons_self)
        have hge := priority_le_of_mem hsecond (mem_of_filter h List.mem_cons_self)
        omega
      have hhead := h b.priority
      rw [List.filter_cons_of_pos (by simpa using hpriority),
        List.filter_cons_of_pos (by simp)] at hhead
      obtain ⟨rfl, htail⟩ := List.cons.inj hhead
      rw [ih hfirst.of_cons hsecond.of_cons]
      intro priority
      by_cases hp : a.priority = priority
      · exact hp ▸ htail
      · have hother := h priority
        rwa [List.filter_cons_of_neg (by simpa using hp),
          List.filter_cons_of_neg (by simpa using hp)] at hother

theorem inOrder_eq_of_filter (h : ∀ priority, first.filter (·.priority == priority) =
    second.filter (·.priority == priority)) : inOrder first = inOrder second := by
  apply eq_of_ascending (ascending_inOrder first) (ascending_inOrder second)
  intro priority
  rw [filter_inOrder, filter_inOrder, h]

/-- A list has the registered bindings in ascending priority, and those of equal priority in the
order in which they were registered. -/
structure Schedule (registered scheduled : List (Binding B)) : Prop where
  perm : scheduled.Perm registered
  ascending : Ascending scheduled
  stable : ∀ priority, scheduled.filter (·.priority == priority) =
    registered.filter (·.priority == priority)

theorem schedule_inOrder (registered : List (Binding B)) :
    Schedule registered (inOrder registered) where
  perm := inOrder_perm registered
  ascending := ascending_inOrder registered
  stable := filter_inOrder registered

theorem Schedule.eq_inOrder {registered scheduled : List (Binding B)}
    (schedule : Schedule registered scheduled) : scheduled = inOrder registered := by
  apply eq_of_ascending schedule.ascending (ascending_inOrder registered)
  intro priority
  rw [schedule.stable, filter_inOrder]

theorem Schedule.of_stable {registered scheduled : List (Binding B)}
    (ascending : Ascending scheduled)
    (stable : ∀ priority ∈ (scheduled ++ registered).map Binding.priority,
      scheduled.filter (·.priority == priority) = registered.filter (·.priority == priority)) :
    Schedule registered scheduled := by
  have hall (priority : Int) : scheduled.filter (·.priority == priority) =
      registered.filter (·.priority == priority) := by
    by_cases hmem : priority ∈ (scheduled ++ registered).map Binding.priority
    · exact stable priority hmem
    · have hnone : (scheduled ++ registered).filter (·.priority == priority) = [] := by
        rw [List.filter_eq_nil_iff]
        intro binding hbinding heq
        exact hmem (List.mem_map.mpr ⟨binding, hbinding, eq_of_beq heq⟩)
      rw [List.filter_append, List.append_eq_nil_iff] at hnone
      rw [hnone.1, hnone.2]
  have heq : scheduled = inOrder registered := by
    apply eq_of_ascending ascending (ascending_inOrder registered)
    intro priority
    rw [hall, filter_inOrder]
  exact heq ▸ schedule_inOrder registered

theorem inOrder_map {change : Binding B → Binding B}
    (h : ∀ binding, (change binding).priority = binding.priority)
    (bindings : List (Binding B)) :
    inOrder (bindings.map change) = (inOrder bindings).map change := by
  symm
  apply List.map_mergeSort
  intro a _ b _
  rw [h, h]

section Blocks

variable {ι β : Type} {order other : List ι}

/-- Blocks of which no two hold anything may be joined in any order. -/
theorem flatMap_perm {block : ι → List β} (perm : order.Perm other) (nodup : order.Nodup)
    (single : ∀ i ∈ order, ∀ j ∈ order, i ≠ j → block i = [] ∨ block j = []) :
    order.flatMap block = other.flatMap block := by
  induction perm with
  | nil => rfl
  | cons i _ ih =>
    have htail := ih nodup.of_cons fun j hj k hk =>
      single j (List.mem_cons_of_mem i hj) k (List.mem_cons_of_mem i hk)
    rw [List.flatMap_cons, List.flatMap_cons, htail]
  | swap i j rest =>
    have hne : j ≠ i := fun heq => (List.nodup_cons.mp nodup).1 (heq ▸ List.mem_cons_self)
    rcases single j List.mem_cons_self i (List.mem_cons_of_mem j List.mem_cons_self) hne with h | h
    · simp [h]
    · simp [h]
  | trans hfirst _ ih ih' =>
    rw [ih nodup single, ih' (hfirst.nodup_iff.mp nodup)]
    exact fun i hi j hj => single i (hfirst.mem_iff.mpr hi) j (hfirst.mem_iff.mpr hj)

theorem inOrder_flatMap_perm {block : ι → List (Binding B)} (perm : order.Perm other)
    (nodup : order.Nodup) (apart : ∀ i ∈ order, ∀ j ∈ order, i ≠ j →
      ∀ b ∈ block i, ∀ b' ∈ block j, b.priority ≠ b'.priority) :
    inOrder (order.flatMap block) = inOrder (other.flatMap block) := by
  apply inOrder_eq_of_filter
  intro priority
  rw [List.filter_flatMap, List.filter_flatMap]
  apply flatMap_perm perm nodup
  intro i hi j hj hne
  by_contra hboth
  obtain ⟨hfirst, hsecond⟩ := not_or.mp hboth
  obtain ⟨b, hb⟩ := List.exists_mem_of_ne_nil _ hfirst
  obtain ⟨b', hb'⟩ := List.exists_mem_of_ne_nil _ hsecond
  obtain ⟨hb, hp⟩ := List.mem_filter.mp hb
  obtain ⟨hb', hp'⟩ := List.mem_filter.mp hb'
  apply apart i hi j hj hne b hb b' hb'
  simp only [beq_iff_eq] at hp hp'
  rw [hp, hp']

end Blocks

end HookWiring.Host
