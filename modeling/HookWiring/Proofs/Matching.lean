import HookWiring.Proofs.Pattern

/-!
# First ways

Which way of a pattern comes first. A literal has one way at most. A run tries its longest way
first, and it keeps to that way if what follows in the pattern either matches behind it or begins
with no character of the class of the run: then a shorter run would not help. These two cases are
all that a directive needs, so that its pattern reads a line from left to right.
-/

namespace HookWiring

open Text

theorem exists_runs_eq_cons {test : Char → Bool} {text : List Char}
    (h : text.takeWhile test ≠ []) : ∃ shorter, runs test text = text.takeWhile test :: shorter ∧
      ∀ run ∈ shorter, ∃ c more, text.takeWhile test = run ++ c :: more := by
  induction text with
  | nil => exact absurd rfl h
  | cons c rest ih =>
    by_cases hc : test c
    · simp only [runs, hc, if_true, List.takeWhile_cons]
      by_cases hrest : rest.takeWhile test = []
      · have hruns : runs test rest = [] := by
          rw [List.eq_nil_iff_forall_not_mem]
          intro run hrun
          obtain ⟨hne, hstart⟩ := mem_runs_iff.mp hrun
          rw [hrest] at hstart
          exact hne (List.prefix_nil.mp hstart)
        rw [hrest, hruns]
        exact ⟨[], rfl, List.forall_mem_nil _⟩
      · obtain ⟨shorter, heq, hshorter⟩ := ih hrest
        refine ⟨shorter.map (c :: ·) ++ [[c]], by rw [heq]; rfl, ?_⟩
        intro run hrun
        rcases List.mem_append.mp hrun with hrun | hrun
        · obtain ⟨tail, htail, rfl⟩ := List.mem_map.mp hrun
          obtain ⟨d, more, hmore⟩ := hshorter tail htail
          exact ⟨d, more, by rw [hmore]; rfl⟩
        · rw [List.mem_singleton.mp hrun]
          obtain ⟨d, more, hmore⟩ := List.exists_cons_of_ne_nil hrest
          exact ⟨d, more, by rw [hmore]; rfl⟩
    · rw [List.takeWhile_cons, if_neg hc] at h
      exact absurd rfl h

theorem runs_eq_nil {test : Char → Bool} {text : List Char} (h : text.takeWhile test = []) :
    runs test text = [] := by
  rw [List.eq_nil_iff_forall_not_mem]
  intro run hrun
  obtain ⟨hne, hstart⟩ := mem_runs_iff.mp hrun
  rw [h] at hstart
  exact hne (List.prefix_nil.mp hstart)

theorem Match.append_append (first second : Match) :
    (first.append second).append = first.append ∘ second.append := by
  funext third
  simp only [append, Function.comp_apply, List.append_assoc]

theorem Place.rest_past_takeWhile (place : Place) (test : Char → Bool) :
    (place.past (place.rest.takeWhile test)).rest = place.rest.dropWhile test := by
  have h : (place.rest.takeWhile test ++ place.rest.dropWhile test).drop
      (place.rest.takeWhile test).length = place.rest.dropWhile test := List.drop_left
  rwa [List.takeWhile_append_dropWhile] at h

namespace Pattern

variable {first second inner : Pattern} {test : Char → Bool} {place : Place}

def parts? (pattern : Pattern) (place : Place) : Option (List (Part × List Char)) :=
  (pattern.first? place).map Match.parts

theorem ways_seq_assoc (third : Pattern) :
    (seq (seq first second) third).ways place = (seq first (seq second third)).ways place := by
  have hpast (m n : Match) : place.past (m.append n).text = (place.past m.text).past n.text :=
    Place.past_append place m.text n.text
  simp only [ways, List.flatMap_assoc, List.map_flatMap, List.flatMap_map, List.map_map,
    Match.append_append, hpast]

theorem ways_seq_optional : (seq (optional inner) second).ways place =
    (seq inner second).ways place ++ second.ways place := by
  simp only [ways, List.flatMap_append, List.flatMap_singleton, Match.empty, Place.past_nil]
  congr 1
  exact List.map_id _

theorem parts?_of_ways {pattern other : Pattern} {there : Place}
    (h : pattern.ways place = other.ways there) : pattern.parts? place = other.parts? there := by
  rw [parts?, first?, h, parts?, first?]

theorem parts?_of_ways_eq_nil {pattern : Pattern} (h : pattern.ways place = []) :
    pattern.parts? place = none := by
  rw [parts?, first?, h]
  rfl

theorem parts?_seq_assoc (third : Pattern) :
    (seq (seq first second) third).parts? place = (seq first (seq second third)).parts? place :=
  parts?_of_ways (ways_seq_assoc third)

theorem parts?_seq_optional : (seq (optional inner) second).parts? place =
    ((seq inner second).parts? place).or (second.parts? place) := by
  rw [parts?, first?, ways_seq_optional, List.head?_append, Option.map_or]
  rfl

theorem parts?_optional :
    (optional inner).parts? place = ((inner.parts? place).or (some [])) := by
  rw [parts?, first?, ways, List.head?_append, Option.map_or]
  rfl

theorem parts?_seq_part_either (label : Part) {other : Pattern} :
    (seq (part label (either first other)) second).parts? place =
      ((seq (part label first) second).parts? place).or
        ((seq (part label other) second).parts? place) := by
  simp only [parts?, first?, ways, List.map_append, List.flatMap_append, List.head?_append,
    Option.map_or]

theorem parts?_seq_of_ways_eq_singleton {m : Match} (h : first.ways place = [m]) :
    (seq first second).parts? place =
      (second.parts? (place.past m.text)).map (m.parts ++ ·) := by
  rw [parts?, first?, ways, h, List.flatMap_singleton, List.head?_map, parts?, first?,
    Option.map_map, Option.map_map]
  rfl

theorem parts?_seq_of_ways_eq_empty (h : first.ways place = [.empty]) :
    (seq first second).parts? place = second.parts? place :=
  (parts?_seq_of_ways_eq_singleton h).trans Option.map_id'

theorem parts?_seq_of_ways_eq_nil (h : first.ways place = []) :
    (seq first second).parts? place = none := by
  rw [parts?, first?, ways, h]
  rfl

theorem ways_literal (text : String) : (literal text).ways place =
    (text.toList.isPrefixOf? place.rest).toList.map fun _ => ⟨text.toList, []⟩ := by
  cases h : text.toList.isPrefixOf? place.rest with
  | some rest =>
    have hstart := List.isPrefixOf?_eq_some_iff_append_eq.mp h
    simp [ways, ← hstart]
  | none =>
    have hnot : ¬text.toList <+: place.rest := by
      rintro ⟨rest, hrest⟩
      rw [List.isPrefixOf?_eq_some_iff_append_eq.mpr hrest] at h
      cases h
    simp [ways, hnot]

theorem parts?_seq_literal (text : String) : (seq (literal text) second).parts? place =
    (text.toList.isPrefixOf? place.rest).bind fun rest =>
      second.parts? ⟨text.toList.getLast?.or place.before, rest⟩ := by
  have hways : (literal text).ways place = _ := ways_literal text
  cases h : text.toList.isPrefixOf? place.rest with
  | some rest =>
    rw [h] at hways
    rw [parts?_seq_of_ways_eq_singleton hways, Place.past,
      ← List.isPrefixOf?_eq_some_iff_append_eq.mp h, List.drop_left]
    exact Option.map_id'
  | none =>
    rw [h] at hways
    exact parts?_seq_of_ways_eq_nil hways

theorem parts?_seq_part_literal (label : Part) (text : String) :
    (seq (part label (literal text)) second).parts? place =
      (text.toList.isPrefixOf? place.rest).bind fun rest =>
        (second.parts? ⟨text.toList.getLast?.or place.before, rest⟩).map
          ((label, text.toList) :: ·) := by
  have hways : (part label (literal text)).ways place =
      (text.toList.isPrefixOf? place.rest).toList.map fun _ =>
        ⟨text.toList, [(label, text.toList)]⟩ := by
    rw [ways, ways_literal, List.map_map]
    rfl
  cases h : text.toList.isPrefixOf? place.rest with
  | some rest =>
    rw [h] at hways
    rw [parts?_seq_of_ways_eq_singleton hways, Place.past,
      ← List.isPrefixOf?_eq_some_iff_append_eq.mp h, List.drop_left]
    rfl
  | none =>
    rw [h] at hways
    exact parts?_seq_of_ways_eq_nil hways

/-- No way to match where a character of the class follows. -/
def Rejects (pattern : Pattern) (test : Char → Bool) : Prop :=
  ∀ place : Place, place.rest.head?.any test = true → pattern.ways place = []

theorem Rejects.run {own : Char → Bool} (h : ∀ c, test c = true → own c = false) :
    (run own).Rejects test := by
  intro place hplace
  obtain ⟨c, hc, htest⟩ := (Option.any_eq_true _ _).mp hplace
  obtain ⟨rest, hrest⟩ := List.head?_eq_some_iff.mp hc
  rw [ways, hrest, runs, if_neg (by simp [h c htest]), List.map_nil]

theorem Rejects.literal {text : String} {c : Char} {more : List Char}
    (htext : text.toList = c :: more) (h : test c = false) : (literal text).Rejects test := by
  intro place hplace
  obtain ⟨d, hd, htest⟩ := (Option.any_eq_true _ _).mp hplace
  obtain ⟨rest, hrest⟩ := List.head?_eq_some_iff.mp hd
  have hne : c ≠ d := by
    rintro rfl
    rw [h] at htest
    cases htest
  simp [ways, htext, hrest, hne]

theorem Rejects.lineEnd : lineEnd.Rejects (· != '\n') := by
  intro place hplace
  obtain ⟨c, hc, htest⟩ := (Option.any_eq_true _ _).mp hplace
  have hends : place.endsLine = false := by
    rw [Place.endsLine, Option.mem_def.mp hc, Option.all_some]
    exact Bool.not_eq_true' _ |>.mp htest
  simp [ways, hends]

theorem Rejects.seq (h : first.Rejects test) : (seq first second).Rejects test :=
  fun place hplace => by rw [ways, h place hplace, List.flatMap_nil]

theorem Rejects.part (h : inner.Rejects test) (label : Part) : (part label inner).Rejects test :=
  fun place hplace => by rw [ways, h place hplace, List.map_nil]

theorem Rejects.seq_optional (hinner : inner.Rejects test) (hsecond : second.Rejects test) :
    (Pattern.seq (optional inner) second).Rejects test := fun place hplace => by
  rw [ways_seq_optional, hinner.seq place hplace, hsecond place hplace, List.nil_append]

theorem Rejects.mono {pattern : Pattern} {less : Char → Bool} (h : pattern.Rejects test)
    (le : ∀ c, less c = true → test c = true) : pattern.Rejects less := by
  intro place hplace
  obtain ⟨c, hc, hless⟩ := (Option.any_eq_true _ _).mp hplace
  exact h place ((Option.any_eq_true _ _).mpr ⟨c, hc, le c hless⟩)

section Longest

variable {found : List Char → Match}

/-- A run keeps to its longest way if what follows matches behind it, or cannot go on with the
rest of the run. -/
theorem parts?_seq_longest (hways : first.ways place = (runs test place.rest).map found)
    (htext : ∀ text, (found text).text = text)
    (keeps : second.Rejects test ∨
      (second.parts? (place.past (place.rest.takeWhile test))).isSome = true) :
    (seq first second).parts? place =
      if place.rest.takeWhile test = [] then none
      else (second.parts? (place.past (place.rest.takeWhile test))).map
        ((found (place.rest.takeWhile test)).parts ++ ·) := by
  by_cases h : place.rest.takeWhile test = []
  · rw [if_pos h]
    exact parts?_seq_of_ways_eq_nil (by rw [hways, runs_eq_nil h, List.map_nil])
  · rw [if_neg h]
    obtain ⟨shorter, hruns, hshorter⟩ := exists_runs_eq_cons h
    have hfirst : (second.ways (place.past (place.rest.takeWhile test)) = [] →
        shorter.flatMap (fun run =>
          (second.ways (place.past run)).map (found run).append) = []) := by
      intro hnone
      rcases keeps with rejects | hsome
      · refine List.flatMap_eq_nil_iff.mpr fun run hrun => ?_
        obtain ⟨c, more, heq⟩ := hshorter run hrun
        rw [rejects, List.map_nil]
        have hc : test c = true := by
          have hall := List.all_takeWhile (p := test) (l := place.rest)
          rw [heq, List.all_append, List.all_cons] at hall
          simp only [Bool.and_eq_true] at hall
          exact hall.2.1
        have hrest : place.rest = run ++ c :: (more ++ place.rest.dropWhile test) := by
          rw [← List.cons_append, ← List.append_assoc, ← heq, List.takeWhile_append_dropWhile]
        rw [Place.past, hrest, List.drop_left]
        exact hc
      · rw [parts?_of_ways_eq_nil hnone] at hsome
        cases hsome
    rw [parts?, first?, ways, hways, hruns, List.map_cons, List.flatMap_cons, List.flatMap_map]
    simp only [htext]
    cases hsecond : second.ways (place.past (place.rest.takeWhile test)) with
    | nil => rw [hfirst hsecond, parts?_of_ways_eq_nil hsecond]; rfl
    | cons m more => rw [parts?, first?, hsecond]; rfl

theorem parts?_seq_run (keeps : second.Rejects test ∨
      (second.parts? (place.past (place.rest.takeWhile test))).isSome = true) :
    (seq (run test) second).parts? place =
      if place.rest.takeWhile test = [] then none
      else second.parts? (place.past (place.rest.takeWhile test)) := by
  have hways : (run test).ways place = (runs test place.rest).map fun text => ⟨text, []⟩ := rfl
  rw [parts?_seq_longest hways (fun _ => rfl) keeps]
  exact if_congr Iff.rfl rfl Option.map_id'

theorem parts?_seq_part_run (label : Part) (keeps : second.Rejects test ∨
      (second.parts? (place.past (place.rest.takeWhile test))).isSome = true) :
    (seq (part label (run test)) second).parts? place =
      if place.rest.takeWhile test = [] then none
      else (second.parts? (place.past (place.rest.takeWhile test))).map
        ((label, place.rest.takeWhile test) :: ·) := by
  have hways : (part label (run test)).ways place =
      (runs test place.rest).map fun text => ⟨text, [(label, text)]⟩ := by
    rw [ways, ways, List.map_map]
    rfl
  exact parts?_seq_longest hways (fun _ => rfl) keeps

theorem parts?_part_run (label : Part) : (part label (run test)).parts? place =
    if place.rest.takeWhile test = [] then none
    else some [(label, place.rest.takeWhile test)] := by
  rw [parts?, first?, ways, ways, List.map_map]
  by_cases h : place.rest.takeWhile test = []
  · rw [if_pos h, runs_eq_nil h]
    rfl
  · obtain ⟨shorter, hruns, -⟩ := exists_runs_eq_cons h
    rw [if_neg h, hruns]
    rfl

theorem parts?_seq_optional_run (rejects : second.Rejects test) :
    (seq (optional (run test)) second).parts? place =
      second.parts? (place.past (place.rest.takeWhile test)) := by
  rw [parts?_seq_optional, parts?_seq_run (.inl rejects)]
  by_cases h : place.rest.takeWhile test = []
  · rw [if_pos h, h, Place.past_nil, Option.none_or]
  · have hhead : place.rest.head?.any test = true := by
      cases hrest : place.rest with
      | nil => rw [hrest] at h; exact absurd rfl h
      | cons c more =>
        rw [hrest, List.takeWhile_cons] at h
        by_contra hc
        exact h (if_neg hc)
    rw [if_neg h, parts?_of_ways_eq_nil (rejects place hhead), Option.or_none]

end Longest

end Pattern

end HookWiring
