import HookWiring.Directive.Line
import HookWiring.HookKind
import HookWiring.Text.Word

/-!
# Tagged documentation

Whether documentation makes a method part of its component's reflection. This is decided by the
tags alone: `@ajax` not followed by a letter, a number or an underscore, or one of the other four
tags followed by a space or a tab.
-/

namespace HookWiring.Directive

open Text

def closesAjax : List Char → Bool
  | [] => true
  | c :: _ => !isAlphanumeric c && c != '_'

def closesTag : List Char → Bool
  | [] => false
  | c :: _ => isBlank c

def spacedKinds : List HookKind := [.action, .filter, .shortcode, .command]

def startsWithTag (text : List Char) : Bool :=
  match HookKind.ajax.tag.toList.isPrefixOf? text with
  | some rest => closesAjax rest
  | none => spacedKinds.any fun kind =>
      match kind.tag.toList.isPrefixOf? text with
      | some rest => closesTag rest
      | none => false

def isTaggedLine (line : List Char) : Bool :=
  match tagged? line with
  | some text => startsWithTag text
  | none => false

def isTagged (doc : String) : Bool :=
  (lines doc.toList).any isTaggedLine

end HookWiring.Directive
