import HookWiring.Callback
import Mathlib.Logic.Relation

/-!
# Depth-first orders

Components that ask for one another form a graph. Its depth-first order from a list of targets
takes each target in turn: one that was seen before is passed over, any other is put down, and the
targets of its own come first. The order holds what can be reached from the targets, each component
once.
-/

namespace HookWiring

variable (edges : Identity → List Identity)

/-- The depth-first order from targets goes on from what was seen to the final list. -/
inductive DepthFirst : List Identity → List Identity → List Identity → Prop
  | nil (seen : List Identity) : DepthFirst [] seen seen
  | skip {target : Identity} {targets seen final : List Identity} (known : target ∈ seen)
      (rest : DepthFirst targets seen final) : DepthFirst (target :: targets) seen final
  | visit {target : Identity} {targets seen middle final : List Identity}
      (fresh : target ∉ seen) (own : DepthFirst (edges target) (seen ++ [target]) middle)
      (rest : DepthFirst targets middle final) : DepthFirst (target :: targets) seen final

abbrev Reaches : Identity → Identity → Prop :=
  Relation.ReflTransGen fun source target => target ∈ edges source

namespace DepthFirst

variable {edges} {targets seen final : List Identity}

theorem prefix_final (h : DepthFirst edges targets seen final) : seen <+: final := by
  induction h with
  | nil => exact List.prefix_rfl
  | skip _ _ ih => exact ih
  | visit _ _ _ hown hrest => exact ((List.prefix_append _ _).trans hown).trans hrest

theorem nodup (h : DepthFirst edges targets seen final) (hseen : seen.Nodup) : final.Nodup := by
  induction h with
  | nil => exact hseen
  | skip _ _ ih => exact ih hseen
  | @visit target _ seen _ _ fresh _ _ hown hrest =>
    refine hrest (hown ?_)
    rw [List.nodup_append]
    refine ⟨hseen, by simp, fun a ha b hb heq => fresh ?_⟩
    rw [List.mem_singleton] at hb
    exact hb ▸ heq ▸ ha

theorem targets_subset (h : DepthFirst edges targets seen final) : targets ⊆ final := by
  induction h with
  | nil => exact List.nil_subset _
  | skip known rest ih =>
    exact List.cons_subset.mpr ⟨rest.prefix_final.subset known, ih⟩
  | visit _ own rest _ hrest =>
    have hmem := own.prefix_final.subset (List.mem_append_right _ (List.mem_singleton_self _))
    exact List.cons_subset.mpr ⟨rest.prefix_final.subset hmem, hrest⟩

theorem closed (h : DepthFirst edges targets seen final) {v : Identity} (hv : v ∈ final)
    (fresh : v ∉ seen) : edges v ⊆ final := by
  induction h with
  | nil => exact absurd hv fresh
  | skip _ _ ih => exact ih hv fresh
  | @visit target _ seen middle _ _ own rest hown hrest =>
    by_cases hmiddle : v ∈ middle
    · by_cases htarget : v = target
      · rw [htarget]
        exact List.Subset.trans own.targets_subset rest.prefix_final.subset
      · have hnot : v ∉ seen ++ [target] := by simp [fresh, htarget]
        exact List.Subset.trans (hown hmiddle hnot) rest.prefix_final.subset
    · exact hrest hv hmiddle

theorem reached (h : DepthFirst edges targets seen final) {v : Identity} (hv : v ∈ final)
    (fresh : v ∉ seen) : ∃ target ∈ targets, Reaches edges target v := by
  induction h with
  | nil => exact absurd hv fresh
  | skip _ _ ih =>
    obtain ⟨t, ht, hreach⟩ := ih hv fresh
    exact ⟨t, List.mem_cons_of_mem _ ht, hreach⟩
  | @visit target _ seen middle _ _ _ _ hown hrest =>
    by_cases hmiddle : v ∈ middle
    · refine ⟨target, List.mem_cons_self, ?_⟩
      by_cases htarget : v = target
      · rw [htarget]
      · have hnot : v ∉ seen ++ [target] := by simp [fresh, htarget]
        obtain ⟨t, ht, hreach⟩ := hown hmiddle hnot
        exact .head ht hreach
    · obtain ⟨t, ht, hreach⟩ := hrest hv hmiddle
      exact ⟨t, List.mem_cons_of_mem _ ht, hreach⟩

theorem mem_iff (h : DepthFirst edges targets [] final) (v : Identity) :
    v ∈ final ↔ ∃ target ∈ targets, Reaches edges target v := by
  constructor
  · exact fun hv => h.reached hv List.not_mem_nil
  · rintro ⟨target, htarget, hreach⟩
    induction hreach with
    | refl => exact h.targets_subset htarget
    | tail _ hedge ih => exact h.closed ih List.not_mem_nil hedge

theorem unique {other : List Identity} (h : DepthFirst edges targets seen final)
    (h' : DepthFirst edges targets seen other) : final = other := by
  induction h generalizing other with
  | nil => cases h'; rfl
  | skip known _ ih =>
    cases h' with
    | skip _ rest => exact ih rest
    | visit fresh => exact absurd known fresh
  | visit fresh _ _ hown hrest =>
    cases h' with
    | skip known => exact absurd known fresh
    | visit _ own rest =>
      obtain rfl := hown own
      exact hrest rest

theorem of_append {more : List Identity} (h : DepthFirst edges (targets ++ more) seen final) :
    ∃ middle, DepthFirst edges targets seen middle ∧ DepthFirst edges more middle final := by
  induction targets generalizing seen with
  | nil => exact ⟨seen, .nil seen, h⟩
  | cons target targets ih =>
    cases h with
    | skip known rest =>
      obtain ⟨middle, hmiddle, hmore⟩ := ih rest
      exact ⟨middle, .skip known hmiddle, hmore⟩
    | visit fresh own rest =>
      obtain ⟨middle, hmiddle, hmore⟩ := ih rest
      exact ⟨middle, .visit fresh own hmiddle, hmore⟩

theorem visit_of_append {target : Identity} (fresh : target ∉ seen)
    (h : DepthFirst edges (edges target ++ targets) (seen ++ [target]) final) :
    DepthFirst edges (target :: targets) seen final := by
  obtain ⟨middle, hown, hrest⟩ := h.of_append
  exact .visit fresh hown hrest

end DepthFirst

end HookWiring
