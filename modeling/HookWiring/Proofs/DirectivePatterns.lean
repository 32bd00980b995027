import HookWiring.Directive.Ajax
import HookWiring.Directive.Api
import HookWiring.Directive.Command
import HookWiring.Proofs.Matching

/-!
# Directives as patterns

The directives of documentation as four patterns, and what is read from the parts of their matches.
The matches of each pattern in a whole text give exactly the directives that are read from the
single lines.
-/

namespace HookWiring.Directive

open Text Pattern

def atTag (pattern : Pattern) : Pattern :=
  .inOrder [.lineStart, .optional (.run isBlank),
    .optional (.seq (.literal "*") (.optional (.run isBlank))), .literal "@", pattern]

def priorityPattern : Pattern :=
  .inOrder [.literal ",", .run isBlank, .part .priority (.run isWordDigit)]

def hookPattern : Pattern :=
  atTag <| .inOrder
    [.part .kind (.either (.literal "filter") (.either (.literal "action") (.literal "shortcode"))),
      .run isBlank, .part .name (.run HookKind.isNameChar), .optional priorityPattern]

def commandPattern : Pattern :=
  atTag <| .inOrder
    [.literal "command", .run isBlank, .part .name (.run HookKind.isCommandChar)]

def ajaxPattern : Pattern :=
  atTag <| .inOrder
    [.literal "ajax", .wordBoundary,
      .optional (.seq (.run isBlank) (.part .name (.run HookKind.isNameChar)))]

def apiPattern : Pattern :=
  atTag <| .inOrder
    [.literal "api-", .part .key (.run (!isWhiteSpace ·)), .run isBlank,
      .part .value (.run (· != '\n')), .lineEnd]

abbrev Parts := List (Part × List Char)

def hookOfParts? (parts : Parts) : Option Hook := do
  let kind ← HookKind.ofTag? (String.ofList (← parts.lookup .kind))
  let name ← parts.lookup .name
  return { kind, name := String.ofList name
           priority := (parts.lookup .priority).bind priorityOfDigits? }

/-- A name of white space alone is no command. -/
def commandOfParts? (parts : Parts) : Option String := do
  let name := trimEnd (← parts.lookup .name)
  guard (!name.isEmpty)
  return String.ofList name

def ajaxOfParts? (parts : Parts) : Option (Option String) :=
  some ((parts.lookup .name).map String.ofList)

def value? (text : List Char) : Option String := do
  guard (!(apiValue text).isEmpty)
  return String.ofList (apiValue text)

def valueOfParts? (parts : Parts) : Option String :=
  (parts.lookup .value).bind value?

def apiOfParts? (parts : Parts) : Option Api := do
  let key ← parts.lookup .key
  let value ← valueOfParts? parts
  return { key := String.ofList key, value }

section Tags

variable (pattern : Pattern)

theorem rejects_at : (Pattern.seq (.literal "@") pattern).Rejects fun c => isBlank c || c == '*' :=
  (Rejects.literal rfl (by decide)).seq

theorem parts?_at (place : Place) : (Pattern.seq (.literal "@") pattern).parts? place =
    ("@".toList.isPrefixOf? place.rest).bind fun rest => pattern.parts? ⟨some '@', rest⟩ :=
  parts?_seq_literal "@"

def unstar : List Char → List Char
  | '*' :: rest => rest.dropWhile isBlank
  | rest => rest

theorem unindent_eq (line : List Char) : unindent line = unstar (line.dropWhile isBlank) := by
  rw [unindent]
  cases line.dropWhile isBlank <;> rfl

theorem tagged?_eq (line : List Char) :
    tagged? line = "@".toList.isPrefixOf? (unstar (line.dropWhile isBlank)) := by
  rw [tagged?, unindent_eq]
  cases unstar (line.dropWhile isBlank) with
  | nil => rfl
  | cons c rest =>
    by_cases h : c = '@'
    · subst h; rfl
    · have hne : '@' ≠ c := fun heq => h heq.symm
      simp [List.isPrefixOf?, h, hne]

theorem parts?_starred (place : Place) :
    (Pattern.seq (.optional (.seq (.literal "*") (.optional (.run isBlank))))
      (.seq (.literal "@") pattern)).parts? place =
    ("@".toList.isPrefixOf? (unstar place.rest)).bind fun rest =>
      pattern.parts? ⟨some '@', rest⟩ := by
  rw [parts?_seq_optional, parts?_seq_assoc, parts?_seq_literal, parts?_at]
  obtain ⟨before, rest⟩ := place
  have hstar : ∀ c more, rest = c :: more → c ≠ '*' → unstar rest = rest := by
    rintro c more rfl hc
    rw [unstar]
    rintro _ ⟨⟩
    exact hc rfl
  cases rest with
  | nil => rfl
  | cons c more =>
    by_cases hc : c = '*'
    · subst hc
      have rejects : (Pattern.seq (.literal "@") pattern).Rejects isBlank :=
        (rejects_at pattern).mono fun c hblank => by rw [hblank, Bool.true_or]
      have hafter : (Pattern.seq (.optional (.run isBlank)) (.seq (.literal "@") pattern)).parts?
          ⟨some '*', more⟩ = _ := parts?_seq_optional_run rejects
      rw [parts?_at, Place.rest_past_takeWhile] at hafter
      exact Option.or_none.trans hafter
    · rw [hstar c more rfl hc]
      have hne : '*' ≠ c := fun heq => hc heq.symm
      simp [List.isPrefixOf?, hne]

theorem parts?_atTag (line : List Char) : (atTag pattern).parts? ⟨none, line⟩ =
    (tagged? line).bind fun rest => pattern.parts? ⟨some '@', rest⟩ := by
  have rejects : (Pattern.seq (.optional (.seq (.literal "*") (.optional (.run isBlank))))
      (.seq (.literal "@") pattern)).Rejects isBlank := by
    refine Rejects.seq_optional ((Rejects.literal rfl (by decide)).seq) ?_
    exact (rejects_at pattern).mono fun c hblank => by rw [hblank, Bool.true_or]
  change (Pattern.seq .lineStart (.seq (.optional (.run isBlank))
    (.seq (.optional (.seq (.literal "*") (.optional (.run isBlank))))
      (.seq (.literal "@") pattern)))).parts? ⟨none, line⟩ = _
  rw [parts?_seq_of_ways_eq_empty rfl, parts?_seq_optional_run rejects, parts?_starred,
    Place.rest_past_takeWhile, tagged?_eq]

end Tags

section Pieces

variable {allowed : Char → Bool} {second : Pattern} {place : Place}

theorem afterBlanks?_eq (text : List Char) : afterBlanks? text =
    if text.takeWhile isBlank = [] then none else some (text.dropWhile isBlank) := by
  cases text with
  | nil => rfl
  | cons c rest => by_cases h : isBlank c <;> simp [afterBlanks?, h]

theorem name?_eq (text : List Char) : name? allowed text =
    if text.takeWhile allowed = [] then none
    else some (text.takeWhile allowed, text.dropWhile allowed) := by
  rw [name?]
  cases text.takeWhile allowed <;> rfl

theorem afterBlanks?_cases {rest text : List Char} (h : afterBlanks? rest = some text) :
    rest.dropWhile isBlank = text ∧ rest.takeWhile isBlank ≠ [] := by
  rw [afterBlanks?_eq] at h
  split at h
  next => cases h
  next hne => exact ⟨Option.some.inj h, hne⟩

theorem name?_cases {text name rest : List Char} (h : name? allowed text = some (name, rest)) :
    text.takeWhile allowed = name ∧ text.dropWhile allowed = rest ∧ name ≠ [] := by
  rw [name?_eq] at h
  split at h
  next => cases h
  next hne =>
    cases h
    exact ⟨rfl, rfl, hne⟩

theorem parts?_seq_blanks (keeps : second.Rejects isBlank ∨
      (second.parts? (place.past (place.rest.takeWhile isBlank))).isSome = true) :
    (Pattern.seq (.run isBlank) second).parts? place =
      (afterBlanks? place.rest).bind fun _ =>
        second.parts? (place.past (place.rest.takeWhile isBlank)) := by
  rw [parts?_seq_run keeps, afterBlanks?_eq]
  split <;> rfl

theorem parts?_name (label : Part) : (Pattern.part label (.run allowed)).parts? place =
    (name? allowed place.rest).map fun (name, _) => [(label, name)] := by
  rw [parts?_part_run, name?_eq]
  split <;> rfl

theorem parts?_blanks_name (label : Part) (rejects : ∀ c, isBlank c = true → allowed c = false) :
    (Pattern.seq (.run isBlank) (.part label (.run allowed))).parts? place =
      (afterBlanks? place.rest).bind fun text =>
        (name? allowed text).map fun (name, _) => [(label, name)] := by
  rw [parts?_seq_blanks (.inl ((Rejects.run rejects).part label)), parts?_name,
    Place.rest_past_takeWhile, afterBlanks?_eq]
  split <;> rfl

theorem isNameChar_of_isBlank (c : Char) (h : isBlank c = true) :
    HookKind.isNameChar c = false := by
  simp only [isBlank, Bool.or_eq_true, beq_iff_eq] at h
  rcases h with rfl | rfl <;> decide

theorem isWordDigit_of_isBlank (c : Char) (h : isBlank c = true) : isWordDigit c = false := by
  simp only [isBlank, Bool.or_eq_true, beq_iff_eq] at h
  rcases h with rfl | rfl <;> decide

end Pieces

end HookWiring.Directive
