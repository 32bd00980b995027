import HookWiring.Proofs.LongestRuns

/-!
# Reading commands and class directives by their patterns

The text that these directives take may have blanks at its end, and it may be made of them alone:
when nothing else follows, the pattern takes the last of the blanks behind the tag for its text.
What is read drops it, for a text of blanks has nothing left when it is trimmed.
-/

namespace HookWiring.Directive

open Text Pattern

section WhiteSpace

theorem trimEnd_eq_nil_iff {text : List Char} :
    trimEnd text = [] ↔ ∀ c ∈ text, isWhiteSpace c = true := by
  rw [trimEnd, dropEndWhile, List.reverse_eq_nil_iff, List.dropWhile_eq_nil_iff]
  simp only [List.mem_reverse]

theorem trimEnd_cons_ne_nil {c : Char} (h : isWhiteSpace c = false) (text : List Char) :
    trimEnd (c :: text) ≠ [] := by
  intro hnil
  rw [trimEnd_eq_nil_iff.mp hnil c List.mem_cons_self] at h
  cases h

theorem trimEnd_isPrefix (text : List Char) : trimEnd text <+: text := by
  have h := List.reverse_prefix.mpr (List.dropWhile_suffix (l := text.reverse) isWhiteSpace)
  rwa [List.reverse_reverse] at h

theorem isWhiteSpace_of_printable {c : Char} (low : 0x21 ≤ c.toNat) (high : c.toNat < 0x85) :
    isWhiteSpace c = false := by
  have hbounds : whiteSpaceBoundaries.takeWhile (· ≤ c.toNat) = [0x9, 0xE, 0x20, 0x21] := by
    have h (bound : Nat) (hbound : bound ≤ 0x21) : decide (bound ≤ c.toNat) = true :=
      decide_eq_true (by omega)
    have h' : decide (0x85 ≤ c.toNat) = false := decide_eq_false (by omega)
    simp [whiteSpaceBoundaries, h, h']
  rw [isWhiteSpace, Boundaries.contains, hbounds]
  rfl

theorem toNat_bounds {low high c : Char} (h : (decide (low ≤ c) && decide (c ≤ high)) = true) :
    low.toNat ≤ c.toNat ∧ c.toNat ≤ high.toNat := by
  simp only [Bool.and_eq_true, decide_eq_true_eq] at h
  exact ⟨UInt32.le_iff_toNat_le.mp h.1, UInt32.le_iff_toNat_le.mp h.2⟩

theorem isWhiteSpace_of_isNameChar {c : Char} (h : HookKind.isNameChar c = true) :
    isWhiteSpace c = false := by
  simp only [HookKind.isNameChar, Bool.or_eq_true, beq_iff_eq] at h
  rcases h with (((((h | h) | rfl) | rfl) | rfl) | rfl) | rfl
  · have hbounds : 0x61 ≤ c.toNat ∧ c.toNat ≤ 0x7A := toNat_bounds h
    exact isWhiteSpace_of_printable (by omega) (by omega)
  · have hbounds : 0x30 ≤ c.toNat ∧ c.toNat ≤ 0x39 := toNat_bounds h
    exact isWhiteSpace_of_printable (by omega) (by omega)
  all_goals decide

theorem isWhiteSpace_of_isCommandChar {c : Char} (h : HookKind.isCommandChar c = true)
    (hblank : isBlank c = false) : isWhiteSpace c = false := by
  simp only [HookKind.isCommandChar, Bool.or_eq_true, beq_iff_eq] at h
  rcases h with (h | rfl) | rfl
  · exact isWhiteSpace_of_isNameChar h
  · decide
  · cases hblank

theorem lookup_of_blanks {label : Part} {parts : Parts} {text : List Char}
    (h : parts.lookup label = some text) (hblank : ∀ found ∈ parts, ∀ c ∈ found.2, isBlank c = true) :
    trimEnd text = [] := by
  obtain ⟨before, after, hparts, -⟩ := List.lookup_eq_some_iff.mp h
  have hmem : (label, text) ∈ parts := hparts ▸ List.mem_append_right _ List.mem_cons_self
  exact trimEnd_eq_nil_iff.mpr fun c hc => isWhiteSpace_of_isBlank c (hblank _ hmem c hc)

end WhiteSpace

section Commands

theorem commandOfParts?_blanks {parts : Parts}
    (h : ∀ found ∈ parts, ∀ c ∈ found.2, isBlank c = true) : commandOfParts? parts = none := by
  rw [commandOfParts?]
  cases hname : parts.lookup .name with
  | none => rfl
  | some name =>
    change ((guard (!(trimEnd name).isEmpty) : Option Unit).bind fun _ => _) = none
    rw [lookup_of_blanks hname h]
    rfl

theorem commandOfParts?_name {c : Char} (h : isWhiteSpace c = false) (name : List Char) :
    commandOfParts? [(.name, c :: name)] = some (String.ofList (trimEnd (c :: name))) := by
  have hne : (trimEnd (c :: name)).isEmpty = false :=
    List.isEmpty_eq_false_iff.mpr (trimEnd_cons_ne_nil h name)
  change ((guard (!(trimEnd (c :: name)).isEmpty) : Option Unit).bind fun _ => _) = _
  rw [hne]
  rfl

/-- A command does not begin with white space, because the blanks in front of it are taken. -/
theorem exists_command_eq_cons {text : List Char}
    (h : (text.dropWhile isBlank).takeWhile HookKind.isCommandChar ≠ []) :
    ∃ c name, (text.dropWhile isBlank).takeWhile HookKind.isCommandChar = c :: name ∧
      isWhiteSpace c = false := by
  obtain ⟨c, name, hname⟩ := List.exists_cons_of_ne_nil h
  obtain ⟨more, hmore⟩ := List.takeWhile_prefix (l := text.dropWhile isBlank)
    HookKind.isCommandChar
  have htext : text.dropWhile isBlank = c :: (name ++ more) := by
    rw [← hmore, hname, List.cons_append]
  have hcommand : HookKind.isCommandChar c = true :=
    List.mem_takeWhile_imp (hname ▸ List.mem_cons_self)
  have hblank : isBlank c = false := stops_dropWhile text c (by rw [htext]; rfl)
  exact ⟨c, name, hname, isWhiteSpace_of_isCommandChar hcommand hblank⟩

def commandBehind : Pattern :=
  .seq (.run isBlank) (.part .name (.run HookKind.isCommandChar))

/-- Where no name stands behind the blanks, the last of the blanks can be taken for one. -/
theorem blanks_of_commandBehind {place : Place} {parts : Parts}
    (hnone : (place.rest.dropWhile isBlank).takeWhile HookKind.isCommandChar = [])
    (h : commandBehind.parts? place = some parts) :
    ∀ found ∈ parts, ∀ c ∈ found.2, isBlank c = true := by
  obtain ⟨m, hm, rfl⟩ := Option.map_eq_some_iff.mp h
  obtain ⟨a, ha, hm⟩ := List.mem_flatMap.mp (mem_ways_of_first? hm)
  obtain ⟨b, hb, rfl⟩ := List.mem_map.mp hm
  obtain ⟨blanks, hblanks, rfl⟩ := List.mem_map.mp ha
  obtain ⟨more, hmore⟩ := (mem_runs_iff.mp hblanks).2
  have hname : b.text <+: (place.past blanks).rest.takeWhile HookKind.isCommandChar := by
    obtain ⟨_, hrun, rfl⟩ := List.mem_map.mp hb
    obtain ⟨name, hname, rfl⟩ := List.mem_map.mp hrun
    exact (mem_runs_iff.mp hname).2
  have hrest : place.rest = blanks ++ (more ++ place.rest.dropWhile isBlank) := by
    rw [← List.append_assoc, hmore, List.takeWhile_append_dropWhile]
  rw [Place.past, hrest, List.drop_left] at hname
  -- The name begins inside the blanks, and what stands behind them is no part of a name.
  have hpiece : b.text <+: more := by
    refine isPrefix_of_head_not_mem (hname.trans (List.takeWhile_prefix _)) fun c hc hmem => ?_
    have hcommand := List.mem_takeWhile_imp (hname.subset hmem)
    obtain ⟨tail, htail⟩ := List.head?_eq_some_iff.mp hc
    rw [htail, List.takeWhile_cons, if_pos hcommand] at hnone
    cases hnone
  intro found hfound c hc
  have hmem : c ∈ more := hpiece.subset ((part_isInfix hb hfound).subset hc)
  have hblank : c ∈ place.rest.takeWhile isBlank := hmore ▸ List.mem_append_right _ hmem
  exact List.mem_takeWhile_imp hblank

theorem parts?_commandBehind (place : Place) : (commandBehind.parts? place).bind commandOfParts? =
    (afterBlanks? place.rest).bind fun text => (name? HookKind.isCommandChar text).map
      fun (name, _) => String.ofList (trimEnd name) := by
  by_cases hnone : (place.rest.dropWhile isBlank).takeWhile HookKind.isCommandChar = []
  · have hleft : (commandBehind.parts? place).bind commandOfParts? = none :=
      Option.bind_eq_none_iff.mpr fun parts h =>
        commandOfParts?_blanks (blanks_of_commandBehind hnone h)
    rw [hleft, afterBlanks?_eq]
    split
    · rfl
    · rw [Option.bind_some, name?_eq, if_pos hnone]
      rfl
  · obtain ⟨c, name, hname, hwhite⟩ := exists_command_eq_cons hnone
    have hbehind : (Pattern.part .name (.run HookKind.isCommandChar)).parts?
        (place.past (place.rest.takeWhile isBlank)) = some [(.name, c :: name)] := by
      rw [parts?_part_run, Place.rest_past_takeWhile, hname, if_neg (List.cons_ne_nil _ _)]
    rw [commandBehind, parts?_seq_blanks (.inr (by rw [hbehind]; rfl)), hbehind, afterBlanks?_eq]
    split
    · rfl
    · rw [Option.bind_some, Option.bind_some, Option.bind_some, commandOfParts?_name hwhite,
        name?_eq, hname, if_neg (List.cons_ne_nil _ _)]
      rfl

theorem commandOfLine?_eq (line : List Char) :
    commandOfLine? line = (commandPattern.parts? ⟨none, line⟩).bind commandOfParts? := by
  rw [commandPattern, parts?_atTag, commandOfLine?, afterTag?]
  cases tagged? line with
  | none => rfl
  | some rest =>
    rw [Option.bind_some, Option.bind_some]
    change _ = ((Pattern.seq (.literal HookKind.command.tag) commandBehind).parts? _).bind _
    rw [parts?_seq_literal]
    cases HookKind.command.tag.toList.isPrefixOf? rest with
    | none => rfl
    | some rest =>
      rw [Option.bind_some, parts?_commandBehind]
      change ((afterBlanks? rest).bind fun text => _) = _
      cases afterBlanks? rest with
      | none => rfl
      | some text =>
        rw [Option.bind_some, Option.bind_some]
        change ((name? HookKind.isCommandChar text).bind fun read => _) = _
        cases name? HookKind.isCommandChar text <;> rfl

end Commands

section Api

def apiBehind : Pattern :=
  .seq (.run isBlank) (.seq (.part .value (.run (· != '\n'))) .lineEnd)

theorem parts?_value {place : Place} (hline : '\n' ∉ place.rest) (hsome : place.rest ≠ []) :
    (Pattern.seq (.part .value (.run (· != '\n'))) .lineEnd).parts? place =
      some [(.value, place.rest)] := by
  have hall : place.rest.takeWhile (· != '\n') = place.rest := by
    refine List.takeWhile_eq_self_iff.mpr fun c hc => bne_iff_ne.mpr ?_
    rintro rfl
    exact hline hc
  have hends : (place.past place.rest).endsLine = true := by
    rw [Place.past, List.drop_length]
    rfl
  rw [parts?_seq_part_run _ (.inl .lineEnd), hall, if_neg hsome, parts?, first?, ways, hends]
  rfl

theorem parts?_apiBehind {place : Place} (hline : '\n' ∉ place.rest)
    (hsome : place.rest.dropWhile isBlank ≠ []) : apiBehind.parts? place =
      (afterBlanks? place.rest).map fun text => [(.value, text)] := by
  have hrest := Place.rest_past_takeWhile place isBlank
  have hbehind : (Pattern.seq (.part .value (.run (· != '\n'))) .lineEnd).parts?
      (place.past (place.rest.takeWhile isBlank)) =
        some [(.value, place.rest.dropWhile isBlank)] := by
    rw [parts?_value, hrest]
    · rw [hrest]
      exact fun hmem => hline ((List.dropWhile_suffix isBlank).subset hmem)
    · rwa [hrest]
  rw [apiBehind, parts?_seq_blanks (.inr (by rw [hbehind]; rfl)), hbehind, afterBlanks?_eq]
  split <;> rfl

theorem blanks_of_apiBehind {place : Place} {parts : Parts}
    (hnone : place.rest.dropWhile isBlank = []) (h : apiBehind.parts? place = some parts) :
    ∀ found ∈ parts, ∀ c ∈ found.2, isBlank c = true := by
  obtain ⟨m, hm, rfl⟩ := Option.map_eq_some_iff.mp h
  have hm := mem_ways_of_first? hm
  intro found hfound c hc
  exact List.dropWhile_eq_nil_iff.mp hnone c
    ((text_isPrefix hm).subset ((part_isInfix hm hfound).subset hc))

theorem value?_of_trimEnd {text : List Char} (h : trimEnd text = []) : value? text = none := by
  have hnil : apiValue text = [] := by
    rw [apiValue, h]
    rfl
  rw [value?, hnil]
  rfl

theorem valueOfParts?_apiBehind {place : Place} (hline : '\n' ∉ place.rest) :
    (apiBehind.parts? place).bind valueOfParts? = (afterBlanks? place.rest).bind value? := by
  by_cases hnone : place.rest.dropWhile isBlank = []
  · have hleft : (apiBehind.parts? place).bind valueOfParts? = none := by
      refine Option.bind_eq_none_iff.mpr fun parts h => ?_
      rw [valueOfParts?]
      cases hvalue : parts.lookup .value with
      | none => rfl
      | some value =>
        exact value?_of_trimEnd (lookup_of_blanks hvalue (blanks_of_apiBehind hnone h))
    rw [hleft, afterBlanks?_eq]
    split
    · rfl
    · rw [Option.bind_some, hnone]
      rfl
  · rw [parts?_apiBehind hline hnone]
    cases afterBlanks? place.rest <;> rfl

theorem apiOfParts?_cons (key : List Char) (parts : Parts) :
    apiOfParts? ((.key, key) :: parts) =
      (valueOfParts? parts).map fun value => { key := String.ofList key, value } := by
  change ((valueOfParts? parts).bind fun value => _) = _
  cases valueOfParts? parts <;> rfl

def apiBehindTag? (rest : List Char) : Option Api := do
  let key := rest.takeWhile (!isWhiteSpace ·)
  guard (!key.isEmpty)
  let value ← (afterBlanks? (rest.dropWhile (!isWhiteSpace ·))).bind value?
  return { key := String.ofList key, value }

theorem apiOfLine?_eq_bind (line : List Char) :
    apiOfLine? line = (afterTag? "api-" line).bind apiBehindTag? := by
  change ((afterTag? "api-" line).bind fun rest => _) = _
  congr 1
  funext rest
  rw [apiBehindTag?]
  dsimp only
  cases (rest.takeWhile (!isWhiteSpace ·)).isEmpty with
  | true => rfl
  | false =>
    cases afterBlanks? (rest.dropWhile (!isWhiteSpace ·)) with
    | none => rfl
    | some text =>
      change ((guard (!(apiValue text).isEmpty) : Option Unit).bind fun _ => _) =
        (value? text).bind fun value => _
      rw [value?]
      cases (apiValue text).isEmpty <;> rfl

theorem parts?_apiBehindTag {place : Place} (hline : '\n' ∉ place.rest) :
    ((Pattern.seq (.part .key (.run (!isWhiteSpace ·))) apiBehind).parts? place).bind apiOfParts? =
      apiBehindTag? place.rest := by
  -- Blanks are white space, so a shorter key is not followed by one.
  have rejects : apiBehind.Rejects (!isWhiteSpace ·) := by
    refine (Rejects.run fun c hkey => ?_).seq
    by_contra hblank
    rw [isWhiteSpace_of_isBlank c (Bool.not_eq_false _ |>.mp hblank)] at hkey
    cases hkey
  have hrest := Place.rest_past_takeWhile place (!isWhiteSpace ·)
  have hvalue : (apiBehind.parts? (place.past (place.rest.takeWhile (!isWhiteSpace ·)))).bind
      valueOfParts? = (afterBlanks? (place.rest.dropWhile (!isWhiteSpace ·))).bind value? := by
    rw [valueOfParts?_apiBehind, hrest]
    rw [hrest]
    exact fun hmem => hline ((List.dropWhile_suffix _).subset hmem)
  rw [parts?_seq_part_run _ (.inl rejects), apiBehindTag?, ← hvalue]
  cases hkey : place.rest.takeWhile (!isWhiteSpace ·) with
  | nil => rfl
  | cons c key =>
    rw [if_neg (List.cons_ne_nil _ _)]
    cases apiBehind.parts? (place.past (c :: key)) with
    | none => rfl
    | some parts =>
      rw [Option.map_some, Option.bind_some, apiOfParts?_cons]
      change _ = (valueOfParts? parts).bind fun value => _
      cases valueOfParts? parts <;> rfl

theorem unstar_suffix (text : List Char) : unstar text <:+ text := by
  unfold unstar
  split
  · exact (List.dropWhile_suffix isBlank).trans (List.suffix_cons _ _)
  · exact List.suffix_rfl

theorem suffix_of_tagged? {line rest : List Char} (h : tagged? line = some rest) :
    rest <:+ line := by
  rw [tagged?_eq] at h
  have heq := List.isPrefixOf?_eq_some_iff_append_eq.mp h
  exact (heq ▸ List.suffix_append _ rest).trans
    ((unstar_suffix _).trans (List.dropWhile_suffix isBlank))

theorem suffix_of_afterTag? {tag : String} {line rest : List Char}
    (h : afterTag? tag line = some rest) : rest <:+ line := by
  obtain ⟨text, htext, h⟩ := Option.bind_eq_some_iff.mp h
  have heq := List.isPrefixOf?_eq_some_iff_append_eq.mp h
  exact (heq ▸ List.suffix_append tag.toList rest).trans (suffix_of_tagged? htext)

theorem apiOfLine?_eq {line : List Char} (hline : '\n' ∉ line) :
    apiOfLine? line = (apiPattern.parts? ⟨none, line⟩).bind apiOfParts? := by
  have hparts : apiPattern.parts? ⟨none, line⟩ = (afterTag? "api-" line).bind fun rest =>
      (Pattern.seq (.part .key (.run (!isWhiteSpace ·))) apiBehind).parts? ⟨some '-', rest⟩ := by
    rw [apiPattern, parts?_atTag, afterTag?, Option.bind_assoc]
    congr 1
    funext rest
    exact parts?_seq_literal "api-"
  rw [hparts, apiOfLine?_eq_bind]
  cases htag : afterTag? "api-" line with
  | none => rfl
  | some rest =>
    have hrest : '\n' ∉ rest := fun hmem => hline ((suffix_of_afterTag? htag).subset hmem)
    have hread := @parts?_apiBehindTag ⟨some '-', rest⟩ hrest
    exact hread.symm

end Api

end HookWiring.Directive
