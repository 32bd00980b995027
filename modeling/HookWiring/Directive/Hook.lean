import HookWiring.HookKind
import HookWiring.Directive.Line
import HookWiring.Text.Word

/-!
# Hook directives

The lines `@action name`, `@filter name` and `@shortcode name`, each with an optional priority
after a comma. A priority is a run of decimal digits; the single digit zero, digits of other
scripts and numbers above the largest 32-bit integer read as no priority, and the directive
stands without one.
-/

namespace HookWiring.Directive

open Text

structure Hook where
  kind : HookKind
  name : String
  priority : Option Nat
  deriving DecidableEq

def hookKinds : List HookKind := [.filter, .action, .shortcode]

def maxPriority : Nat := 2147483647

def priorityOfDigits? (digits : List Char) : Option Nat :=
  if digits ≠ [] ∧ digits ≠ ['0'] ∧ digits.all Char.isDigit ∧ digitsValue digits ≤ maxPriority then
    some (digitsValue digits)
  else none

/-- The priority in what follows a hook name: a comma, blanks and a run of digits. -/
def priority? (rest : List Char) : Option Nat :=
  match rest with
  | ',' :: more => (afterBlanks? more).bind fun text =>
      priorityOfDigits? (text.takeWhile isWordDigit)
  | _ => none

def name? (allowed : Char → Bool) (text : List Char) : Option (List Char × List Char) :=
  match text.takeWhile allowed with
  | [] => none
  | name => some (name, text.dropWhile allowed)

def hookOfKind? (kind : HookKind) (line : List Char) : Option Hook := do
  let rest ← afterTag? kind.tag line
  let text ← afterBlanks? rest
  let (name, rest) ← name? HookKind.isNameChar text
  return { kind, name := String.ofList name, priority := priority? rest }

def hookOfLine? (line : List Char) : Option Hook :=
  hookKinds.findSome? fun kind => hookOfKind? kind line

def hooks (doc : String) : List Hook :=
  (lines doc.toList).filterMap hookOfLine?

theorem hookOfLine?_cases {line : List Char} {hook : Hook} (h : hookOfLine? line = some hook) :
    hook.kind ∈ hookKinds ∧ ∃ rest text name behind,
      afterTag? hook.kind.tag line = some rest ∧ afterBlanks? rest = some text ∧
        name? HookKind.isNameChar text = some (name, behind) ∧
          hook.name = String.ofList name ∧ hook.priority = priority? behind := by
  obtain ⟨kind, hkind, h⟩ := List.exists_of_findSome?_eq_some h
  obtain ⟨rest, htag, h⟩ := Option.bind_eq_some_iff.mp h
  obtain ⟨text, htext, h⟩ := Option.bind_eq_some_iff.mp h
  obtain ⟨⟨name, behind⟩, hname, h⟩ := Option.bind_eq_some_iff.mp h
  cases h
  exact ⟨hkind, rest, text, name, behind, htag, htext, hname, rfl, rfl⟩

end HookWiring.Directive
