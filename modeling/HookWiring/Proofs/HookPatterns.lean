import HookWiring.Proofs.DirectivePatterns

/-!
# Reading hooks and ajax handlers by their patterns

A name ends before the first blank and the first comma, and a run of digits before both, so the
longest way of each run is the only one that can be followed up, and the directive of a line is
what the first match of the pattern gives.
-/

namespace HookWiring.Directive

open Text Pattern

section Hooks

def priorityParts (rest : List Char) : Parts :=
  ((",".toList.isPrefixOf? rest).bind fun more => (afterBlanks? more).bind fun text =>
    (name? isWordDigit text).map fun (digits, _) => [(.priority, digits)]).getD []

theorem parts?_priority (place : Place) :
    (Pattern.optional priorityPattern).parts? place = some (priorityParts place.rest) := by
  rw [parts?_optional]
  change ((Pattern.seq (.literal ",") (.seq (.run isBlank)
    (.part .priority (.run isWordDigit)))).parts? place).or _ = _
  simp only [parts?_seq_literal, parts?_blanks_name _ isWordDigit_of_isBlank]
  exact Option.or_some

theorem priority?_eq (rest : List Char) :
    priority? rest = ((priorityParts rest).lookup .priority).bind priorityOfDigits? := by
  have hcomma : ∀ more, priorityParts (',' :: more) = ((afterBlanks? more).bind fun text =>
      (name? isWordDigit text).map fun (digits, _) => [(.priority, digits)]).getD [] :=
    fun more => rfl
  cases rest with
  | nil => rfl
  | cons c more =>
    by_cases hc : c = ','
    · subst hc
      rw [hcomma]
      change ((afterBlanks? more).bind fun text => _) = _
      cases afterBlanks? more with
      | none => rfl
      | some text =>
        rw [Option.bind_some, Option.bind_some, name?_eq]
        split
        next h => rw [h]; rfl
        next => rfl
    · have hne : ',' ≠ c := fun heq => hc heq.symm
      have hparts : priorityParts (c :: more) = [] := by
        simp [priorityParts, List.isPrefixOf?, hne]
      rw [hparts, priority?]
      · rfl
      · rintro _ ⟨⟩
        exact hc rfl

def hookBehind : Pattern :=
  .seq (.run isBlank) (.seq (.part .name (.run HookKind.isNameChar)) (.optional priorityPattern))

theorem parts?_hookBehind (place : Place) : hookBehind.parts? place =
    (afterBlanks? place.rest).bind fun text => (name? HookKind.isNameChar text).map
      fun (name, rest) => (.name, name) :: priorityParts rest := by
  have keeps (there : Place) : ((Pattern.optional priorityPattern).parts? there).isSome = true := by
    rw [parts?_priority]
    rfl
  have hname (there : Place) : (Pattern.seq (.part .name (.run HookKind.isNameChar))
      (.optional priorityPattern)).parts? there = (name? HookKind.isNameChar there.rest).map
        fun (name, rest) => (.name, name) :: priorityParts rest := by
    rw [parts?_seq_part_run _ (.inr (keeps _)), parts?_priority, Place.rest_past_takeWhile,
      name?_eq]
    split <;> rfl
  have rejects : (Pattern.part .name (.run HookKind.isNameChar)).Rejects isBlank :=
    (Rejects.run isNameChar_of_isBlank).part .name
  rw [hookBehind, parts?_seq_blanks (.inl rejects.seq), hname, Place.rest_past_takeWhile,
    afterBlanks?_eq]
  split <;> rfl

def hookParts? (kind : HookKind) (rest : List Char) : Option Parts :=
  (kind.tag.toList.isPrefixOf? rest).bind fun rest => (afterBlanks? rest).bind fun text =>
    (name? HookKind.isNameChar text).map fun (name, rest) =>
      (.kind, kind.tag.toList) :: (.name, name) :: priorityParts rest

theorem hookOfParts?_cons (kind : HookKind) (name rest : List Char) :
    hookOfParts? ((.kind, kind.tag.toList) :: (.name, name) :: priorityParts rest) =
      some { kind, name := String.ofList name, priority := priority? rest } := by
  have hkind : HookKind.ofTag? (String.ofList kind.tag.toList) = some kind := by
    rw [String.ofList_toList, HookKind.ofTag?_tag]
  have hpriority : (((.kind, kind.tag.toList) :: (.name, name) :: priorityParts rest :
      Parts).lookup .priority) = (priorityParts rest).lookup .priority := rfl
  rw [hookOfParts?, hpriority, ← priority?_eq]
  change ((HookKind.ofTag? (String.ofList kind.tag.toList)).bind fun kind => _) = _
  rw [hkind]
  rfl

theorem hookOfKind?_eq (kind : HookKind) (line : List Char) : hookOfKind? kind line =
    ((tagged? line).bind (hookParts? kind)).bind hookOfParts? := by
  rw [hookOfKind?, afterTag?]
  cases tagged? line with
  | none => rfl
  | some rest =>
    rw [Option.bind_some, Option.bind_some, hookParts?]
    cases kind.tag.toList.isPrefixOf? rest with
    | none => rfl
    | some rest =>
      rw [Option.bind_some]
      change ((afterBlanks? rest).bind fun text => _) = _
      cases afterBlanks? rest with
      | none => rfl
      | some text =>
        rw [Option.bind_some, Option.bind_some]
        change ((name? HookKind.isNameChar text).bind fun read => _) = _
        cases name? HookKind.isNameChar text with
        | none => rfl
        | some read => exact (hookOfParts?_cons kind read.1 read.2).symm

theorem isSome_hookOfParts? {kind : HookKind} {rest : List Char} {parts : Parts}
    (h : hookParts? kind rest = some parts) : (hookOfParts? parts).isSome = true := by
  obtain ⟨behind, -, h⟩ := Option.bind_eq_some_iff.mp h
  obtain ⟨text, -, h⟩ := Option.bind_eq_some_iff.mp h
  obtain ⟨read, -, rfl⟩ := Option.map_eq_some_iff.mp h
  rw [hookOfParts?_cons]
  rfl

theorem parts?_hookPattern (line : List Char) : hookPattern.parts? ⟨none, line⟩ =
    (tagged? line).bind fun rest => (hookParts? .filter rest).or
      ((hookParts? .action rest).or (hookParts? .shortcode rest)) := by
  have hkind (kind : HookKind) (place : Place) :
      (Pattern.seq (.part .kind (.literal kind.tag)) hookBehind).parts? place =
        hookParts? kind place.rest := by
    rw [parts?_seq_part_literal, hookParts?]
    congr 1
    funext rest
    rw [parts?_hookBehind, Option.map_bind]
    congr 1
    funext text
    exact Option.map_map _ _ _
  rw [hookPattern, parts?_atTag]
  congr 1
  funext rest
  change (Pattern.seq (.part .kind (.either (.literal HookKind.filter.tag)
    (.either (.literal HookKind.action.tag) (.literal HookKind.shortcode.tag))))
      hookBehind).parts? ⟨some '@', rest⟩ = _
  rw [parts?_seq_part_either, parts?_seq_part_either, hkind, hkind, hkind]

theorem or_bind_of_total {α β : Type} {first second : Option α} {read : α → Option β}
    (total : ∀ found, first = some found → (read found).isSome = true) :
    (first.or second).bind read = (first.bind read).or (second.bind read) := by
  cases first with
  | none => rw [Option.none_or, Option.bind_none, Option.none_or]
  | some found =>
    obtain ⟨value, hvalue⟩ := Option.isSome_iff_exists.mp (total found rfl)
    rw [Option.some_or, Option.bind_some, hvalue, Option.some_or]

theorem hookOfLine?_eq (line : List Char) :
    hookOfLine? line = (hookPattern.parts? ⟨none, line⟩).bind hookOfParts? := by
  have hkinds : hookOfLine? line = (hookOfKind? .filter line).or
      ((hookOfKind? .action line).or (hookOfKind? .shortcode line)) := by
    simp only [hookOfLine?, hookKinds, List.findSome?_cons, List.findSome?_nil]
    cases hookOfKind? .filter line <;> cases hookOfKind? .action line <;>
      cases hookOfKind? .shortcode line <;> rfl
  rw [hkinds, hookOfKind?_eq, hookOfKind?_eq, hookOfKind?_eq, parts?_hookPattern]
  cases tagged? line with
  | none => rfl
  | some rest =>
    simp only [Option.bind_some]
    -- What the pattern takes for one kind is always read, so no later kind is tried instead.
    rw [or_bind_of_total fun _ h => isSome_hookOfParts? h,
      or_bind_of_total fun _ h => isSome_hookOfParts? h]

end Hooks

section Ajax

theorem isBoundary_behind {before : Char} (h : isWord before = true) (rest : List Char) :
    (⟨some before, rest⟩ : Place).isBoundary = endsWord rest := by
  cases rest with
  | nil => simp [Place.isBoundary, endsWord, h]
  | cons c more => simp [Place.isBoundary, endsWord, h]

def ajaxParts (rest : List Char) : Parts :=
  ((afterBlanks? rest).bind fun text => (name? HookKind.isNameChar text).map
    fun (name, _) => [(.name, name)]).getD []

theorem parts?_ajaxPattern (line : List Char) : ajaxPattern.parts? ⟨none, line⟩ =
    (afterTag? HookKind.ajax.tag line).bind fun rest =>
      if endsWord rest then some (ajaxParts rest) else none := by
  rw [ajaxPattern, parts?_atTag, afterTag?, Option.bind_assoc]
  congr 1
  funext rest
  change (Pattern.seq (.literal HookKind.ajax.tag) (.seq .wordBoundary (.optional
    (.seq (.run isBlank) (.part .name (.run HookKind.isNameChar)))))).parts? _ = _
  rw [parts?_seq_literal]
  congr 1
  funext rest
  have hboundary : (⟨some 'x', rest⟩ : Place).isBoundary = endsWord rest :=
    isBoundary_behind (by decide) rest
  change (Pattern.seq .wordBoundary _).parts? ⟨some 'x', rest⟩ = _
  by_cases h : endsWord rest = true
  · rw [if_pos h, parts?_seq_of_ways_eq_empty (by rw [ways, hboundary, if_pos h]),
      parts?_optional, parts?_blanks_name _ isNameChar_of_isBlank]
    exact Option.or_some
  · rw [if_neg h, parts?_seq_of_ways_eq_nil (by rw [ways, hboundary, if_neg h])]

theorem ajaxOfLine?_eq (line : List Char) :
    ajaxOfLine? line = (ajaxPattern.parts? ⟨none, line⟩).bind ajaxOfParts? := by
  rw [parts?_ajaxPattern, ajaxOfLine?, Option.bind_assoc]
  change ((afterTag? HookKind.ajax.tag line).bind fun rest => _) = _
  congr 1
  funext rest
  cases hword : endsWord rest with
  | false => rfl
  | true =>
    change some ((afterBlanks? rest).bind _) = some _
    rw [ajaxParts]
    cases afterBlanks? rest with
    | none => rfl
    | some text =>
      rw [Option.bind_some, Option.bind_some]
      cases name? HookKind.isNameChar text <;> rfl

end Ajax

end HookWiring.Directive
