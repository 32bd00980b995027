import HookWiring.Directive.Hook

/-!
# Command directives

The line `@command name`. The name may contain colons and spaces; the spaces at its end do not
belong to it, and a name of spaces alone is no directive.
-/

namespace HookWiring.Directive

open Text

def commandOfLine? (line : List Char) : Option String := do
  let rest ← afterTag? HookKind.command.tag line
  let text ← afterBlanks? rest
  let (name, _) ← name? HookKind.isCommandChar text
  return String.ofList (trimEnd name)

def commands (doc : String) : List String :=
  (lines doc.toList).filterMap commandOfLine?

theorem commandOfLine?_cases {line : List Char} {command : String}
    (h : commandOfLine? line = some command) : ∃ rest text name behind,
      afterTag? HookKind.command.tag line = some rest ∧ afterBlanks? rest = some text ∧
        name? HookKind.isCommandChar text = some (name, behind) ∧
          command = String.ofList (trimEnd name) := by
  obtain ⟨rest, htag, h⟩ := Option.bind_eq_some_iff.mp h
  obtain ⟨text, htext, h⟩ := Option.bind_eq_some_iff.mp h
  obtain ⟨⟨name, behind⟩, hname, h⟩ := Option.bind_eq_some_iff.mp h
  cases h
  exact ⟨rest, text, name, behind, htag, htext, hname, rfl⟩

end HookWiring.Directive
