import HookWiring.Directive.Hook
import HookWiring.Text.Word

/-!
# Ajax directives

The line `@ajax`, with an optional name. The tag ends where the word ends, so `@ajaxify` is no
directive, while any punctuation may follow the tag.
-/

namespace HookWiring.Directive

open Text

/-- Whether a text does not go on with a word character. -/
def endsWord : List Char → Bool
  | [] => true
  | c :: _ => !isWord c

def ajaxOfLine? (line : List Char) : Option (Option String) := do
  let rest ← afterTag? HookKind.ajax.tag line
  guard (endsWord rest)
  return (afterBlanks? rest).bind fun text =>
    (name? HookKind.isNameChar text).map fun (name, _) => String.ofList name

def ajax (doc : String) : List (Option String) :=
  (lines doc.toList).filterMap ajaxOfLine?

theorem ajaxOfLine?_eq_some_iff {line : List Char} {name : Option String} :
    ajaxOfLine? line = some name ↔ ∃ rest,
      afterTag? HookKind.ajax.tag line = some rest ∧ endsWord rest = true ∧
        name = (afterBlanks? rest).bind fun text =>
          (name? HookKind.isNameChar text).map fun (name, _) => String.ofList name := by
  constructor
  · intro h
    obtain ⟨rest, htag, h⟩ := Option.bind_eq_some_iff.mp h
    obtain ⟨_, hends, h⟩ := Option.bind_eq_some_iff.mp h
    refine ⟨rest, htag, ?_, (Option.some.inj h).symm⟩
    by_cases hword : endsWord rest = true
    · exact hword
    · rw [eq_false_of_ne_true hword] at hends
      cases hends
  · rintro ⟨rest, htag, hends, rfl⟩
    rw [ajaxOfLine?, htag]
    change ((guard (endsWord rest) : Option Unit).bind fun _ => _) = _
    rw [hends]
    rfl

end HookWiring.Directive
