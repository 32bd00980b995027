import HookWiring.Proofs.WrittenLines

/-!
# Splits of lines

A line that has a tag splits into its indentation, a star with blanks if there is one, the tag, and
what stands behind the tag. It does so in one way only, since neither a star nor the tag begins with
a blank.
-/

namespace HookWiring.Directive

open Text

structure Lead (indent star : List Char) : Prop where
  indent : ∀ c ∈ indent, isBlank c = true
  star : star = [] ∨ ∃ blanks, star = '*' :: blanks ∧ ∀ c ∈ blanks, isBlank c = true

section Margins

variable {margin indent star behind : List Char}

theorem Lead.toMargin (h : Lead indent star) : Margin (indent ++ star) := by
  rcases h.star with rfl | ⟨blanks, rfl, hblanks⟩
  · exact (List.append_nil indent).symm ▸ .plain h.indent
  · exact .starred h.indent hblanks

theorem exists_lead (h : Margin margin) :
    ∃ indent star, Lead indent star ∧ margin = indent ++ star := by
  cases h with
  | plain h => exact ⟨margin, [], ⟨h, .inl rfl⟩, (List.append_nil margin).symm⟩
  | starred h h' => exact ⟨_, _, ⟨h, .inr ⟨_, rfl, h'⟩⟩, rfl⟩

theorem Lead.unique {indent' star' behind' : List Char} (h : Lead indent star)
    (h' : Lead indent' star')
    (heq : indent ++ (star ++ '@' :: behind) = indent' ++ (star' ++ '@' :: behind')) :
    indent = indent' ∧ star = star' ∧ behind = behind' := by
  have hstops {star behind : List Char}
      (h : star = [] ∨ ∃ blanks, star = '*' :: blanks ∧ ∀ c ∈ blanks, isBlank c = true) :
      Stops isBlank (star ++ '@' :: behind) := by
    rcases h with rfl | ⟨blanks, rfl, -⟩
    · exact stops_cons (by decide) _
    · exact stops_cons (by decide) _
  have hat (text : List Char) : Stops isBlank ('@' :: text) := stops_cons (by decide) text
  obtain ⟨rfl, hbehind⟩ :=
    LongestRun.unique ⟨h.indent, hstops h.star⟩ ⟨h'.indent, hstops h'.star⟩ heq
  refine ⟨rfl, ?_⟩
  rcases h.star with rfl | ⟨blanks, rfl, hblanks⟩ <;>
    rcases h'.star with rfl | ⟨blanks', rfl, hblanks'⟩
  · exact ⟨rfl, (List.cons.inj hbehind).2⟩
  · cases (List.cons.inj hbehind).1
  · cases (List.cons.inj hbehind).1
  · obtain ⟨rfl, hrest⟩ := LongestRun.unique ⟨hblanks, hat behind⟩ ⟨hblanks', hat behind'⟩
      (List.cons.inj hbehind).2
    exact ⟨rfl, (List.cons.inj hrest).2⟩

end Margins

theorem filterMap_lines_of_not_mem {δ : Type} {line : List Char}
    (ofLine? : List Char → Option δ) (h : '\n' ∉ line) :
    (lines line).filterMap ofLine? = (ofLine? line).toList := by
  rw [lines_of_not_mem h, List.filterMap_cons, List.filterMap_nil]
  cases ofLine? line <;> rfl

end HookWiring.Directive
