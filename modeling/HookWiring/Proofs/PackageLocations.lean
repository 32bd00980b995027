import HookWiring.PackageLocation
import HookWiring.Proofs.PathComponents

/-!
# Packages and their entry files

The package directory of a source file is found by its components alone: it is there when the
third component from the end is a name, and its text is the shortest beginning of the source that
has the components up to that one. The entry file leads back to this very text, whatever slashes
and dots stand in the source, so that a resolver that looks at the directory of the entry file
sees the package directory.
-/

namespace HookWiring

namespace Path

section Files

variable {path dir segment name : List Char} {listed : List Component}

theorem Shortest.self (h : Shortest path listed dir) : Shortest dir listed dir where
  isPrefix := List.prefix_rfl
  spells := h.spells
  least other hother := h.least other (hother.trans h.isPrefix)

theorem Shortest.getLast?_ne_slash (h : Shortest dir listed dir)
    (hname : listed.getLast? = some (.name name)) : dir.getLast? ≠ some '/' := by
  intro hslash
  obtain ⟨front, rfl⟩ := List.getLast?_eq_some_iff.mp hslash
  by_cases hfront : front = []
  · subst hfront
    rw [← h.spells] at hname
    cases hname
  · have hspells := h.spells
    rw [components_slash hfront] at hspells
    have hlength := (h.least front (List.prefix_append _ _) hspells).length_le
    rw [List.length_append] at hlength
    exact Nat.not_succ_le_self _ hlength

theorem join_of_not_mem (hne : dir ≠ []) (hslash : dir.getLast? ≠ some '/') (h : '/' ∉ segment) :
    join dir segment = dir ++ '/' :: segment := by
  unfold join
  split
  · exact absurd List.mem_cons_self h
  · rw [if_neg (not_or.mpr ⟨hne, hslash⟩)]

theorem components_append_segment (hne : dir ≠ []) (h : '/' ∉ segment)
    (hname : component? segment = some (.name segment)) :
    components (dir ++ '/' :: segment) = components dir ++ [.name segment] := by
  rw [components_segment dir h, components_slash hne, hname]
  rfl

theorem exists_parent {init : List Component} {last : Component}
    (h : components path = init ++ [last]) (hinit : init ≠ []) :
    ∃ dir, parent? path = some dir ∧ Shortest path init dir := by
  rcases parent?_cases path with ⟨-, hnone⟩ | ⟨dir, init', last', hdir, hsplit, -, hshort⟩
  · rw [h] at hnone
    simp [List.append_eq_singleton_iff, hinit] at hnone
  · obtain ⟨rfl, -⟩ := List.append_inj' (hsplit.symm.trans h) rfl
    exact ⟨dir, hdir, hshort⟩

/-- The parent of a file of a directory is the directory as it is written. -/
theorem Shortest.parent?_append (hdir : Shortest dir listed dir) (hne : dir ≠ [])
    (h : '/' ∉ segment) (hname : component? segment = some (.name segment)) :
    parent? (dir ++ '/' :: segment) = some dir := by
  refine parent?_eq_some_iff.mpr ⟨listed, .name segment, ?_, nofun, ?_⟩
  · rw [components_append_segment hne h hname, hdir.spells]
  · refine ⟨List.prefix_append _ _, hdir.spells, fun other hother hspells => ?_⟩
    rcases List.prefix_or_prefix_of_prefix hother (List.prefix_append _ _) with hle | hle
    · exact hdir.least other hle hspells
    · exact hle

theorem fileName?_append (hne : dir ≠ []) (h : '/' ∉ segment)
    (hname : component? segment = some (.name segment)) :
    fileName? (dir ++ '/' :: segment) = some segment := by
  rw [fileName?_eq_some_iff, components_append_segment hne h hname, List.getLast?_concat]

end Files

end Path

/-- A resolver that looks at nothing but the directory of an entry file. -/
def PathResolver.ofDirectory (place link : Option (List Char) → List Char) : PathResolver where
  dirPath entry := place (Path.parent? entry)
  dirUrl entry := link (Path.parent? entry)

namespace PackageLocation

open HookWiring.Path

def Houses (source : List Char) (outer : List Path.Component) (name : List Char) : Prop :=
  ∃ middle last, components source = outer ++ [.name name, middle, last]

section Houses

variable {source dir name : List Char} {outer : List Path.Component}

theorem Houses.exists_packageDir (h : Houses source outer name) : ∃ dir,
    packageDir? source = some dir ∧ Shortest source (outer ++ [.name name]) dir := by
  obtain ⟨middle, last, hsource⟩ := h
  have hsplit : components source = (outer ++ [.name name, middle]) ++ [last] := by simp [hsource]
  obtain ⟨near, hnear, hshort⟩ := exists_parent hsplit (by simp)
  have hnearer : components near = (outer ++ [.name name]) ++ [middle] := by simp [hshort.spells]
  obtain ⟨dir, hdir, hshorter⟩ := exists_parent hnearer (by simp)
  have hfile : fileName? dir = some name := by
    rw [fileName?_eq_some_iff, hshorter.spells, List.getLast?_concat]
  exact ⟨dir, by simp [packageDir?, hnear, hdir, hfile], hshort.trans hshorter⟩

theorem exists_houses (h : packageDir? source = some dir) :
    ∃ outer name, Houses source outer name := by
  obtain ⟨near, hnear, hrest⟩ := Option.bind_eq_some_iff.mp h
  obtain ⟨dir', hdir, hlast⟩ := Option.bind_eq_some_iff.mp hrest
  obtain ⟨name, hname, -⟩ := Option.bind_eq_some_iff.mp hlast
  obtain ⟨front, last, hsource, -, hshort⟩ := parent?_eq_some_iff.mp hnear
  obtain ⟨front', middle, hmiddle, -, hshorter⟩ := parent?_eq_some_iff.mp hdir
  rw [fileName?_eq_some_iff, hshorter.spells] at hname
  obtain ⟨outer, rfl⟩ := List.getLast?_eq_some_iff.mp hname
  refine ⟨outer, name, middle, last, ?_⟩
  rw [hsource, ← hshort.spells, hmiddle]
  simp

theorem packageDir?_eq_some_iff : packageDir? source = some dir ↔
    ∃ outer name, Houses source outer name ∧ Shortest source (outer ++ [.name name]) dir := by
  constructor
  · intro h
    obtain ⟨outer, name, hhouses⟩ := exists_houses h
    obtain ⟨found, hfound, hshort⟩ := hhouses.exists_packageDir
    obtain rfl := Option.some.inj (h.symm.trans hfound)
    exact ⟨outer, name, hhouses, hshort⟩
  · rintro ⟨outer, name, hhouses, hshort⟩
    obtain ⟨found, hfound, hshort'⟩ := hhouses.exists_packageDir
    rw [hfound, hshort.unique hshort']

theorem component?_fileOf (name : List Char) :
    component? (name ++ extension) = some (.name (name ++ extension)) := by
  have hlength : 2 < (name ++ extension).length := by simp [extension]
  unfold component?
  split
  · next heq => simp [heq] at hlength
  · next heq => simp [heq] at hlength
  · next heq => simp [heq] at hlength
  · rfl

theorem exists_entryFile (h : packageDir? source = some dir) : ∃ name,
    fileName? dir = some name ∧ parent? (entryFile source) = some dir ∧
      fileName? (entryFile source) = some (name ++ extension) := by
  obtain ⟨outer, name, -, hshort⟩ := packageDir?_eq_some_iff.mp h
  have hlast : (outer ++ [Path.Component.name name]).getLast? = some (.name name) :=
    List.getLast?_concat
  have hname : fileName? dir = some name := by
    rw [fileName?_eq_some_iff, hshort.spells, hlast]
  have hne : dir ≠ [] := by
    rintro rfl
    cases hname
  have hslash : '/' ∉ name ++ extension := by
    rw [List.mem_append, not_or]
    exact ⟨slash_not_mem_of_fileName? hname, by decide⟩
  have hentry : entryFile source = dir ++ '/' :: (name ++ extension) := by
    rw [← join_of_not_mem hne (hshort.self.getLast?_ne_slash hlast) hslash, entryFile, h]
    simp only [hname, Option.getD_some]
  rw [hentry]
  exact ⟨name, hname, hshort.self.parent?_append hne hslash (component?_fileOf name),
    fileName?_append hne hslash (component?_fileOf name)⟩

end Houses

structure Layout (source : List Char) : Prop where
  housed : ∀ dir, packageDir? source = some dir ↔
    ∃ outer name, Houses source outer name ∧ Shortest source (outer ++ [.name name]) dir
  found : (∃ dir, packageDir? source = some dir) ↔ ∃ outer name, Houses source outer name
  entry : ∀ dir, packageDir? source = some dir → ∃ name, fileName? dir = some name ∧
    parent? (entryFile source) = some dir ∧ fileName? (entryFile source) = some (name ++ extension)
  resolved : ∀ root, packageDir? source = some root → ∀ place link path,
    dir source path (some (.ofDirectory place link)) = join (place (some root)) path ∧
      url source path (some (.ofDirectory place link)) = link (some root) ++
        if (link (some root)).getLast? = some '/' then path else '/' :: path
  unhoused : (∀ outer name, ¬Houses source outer name) →
    packageDir? source = none ∧ entryFile source = source

theorem layout (source : List Char) : Layout source := by
  constructor
  case housed => exact fun dir => packageDir?_eq_some_iff
  case found =>
    constructor
    · rintro ⟨dir, h⟩
      exact exists_houses h
    · rintro ⟨outer, name, h⟩
      obtain ⟨dir, hdir, -⟩ := h.exists_packageDir
      exact ⟨dir, hdir⟩
  case entry => exact fun dir h => exists_entryFile h
  case resolved =>
    intro root h place link path
    obtain ⟨name, -, hparent, -⟩ := exists_entryFile h
    simp only [dir, url, PathResolver.ofDirectory, hparent, true_and]
    split <;> rfl
  case unhoused =>
    intro h
    have hnone : packageDir? source = none := by
      rw [Option.eq_none_iff_forall_ne_some]
      intro dir hdir
      obtain ⟨outer, name, hhouses⟩ := exists_houses hdir
      exact h outer name hhouses
    exact ⟨hnone, by rw [entryFile, hnone]⟩

example : entryFile "/srv//acme-forms/.//src/lib.rs/".toList =
    "/srv//acme-forms/acme-forms.rs".toList := by decide

end PackageLocation

end HookWiring
