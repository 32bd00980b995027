import HookWiring.Text.Blank

/-!
# Kinds of hooks

The five registrations that a directive can ask for, the tag that names each of them, and the
grammar of hook names. Names are non-empty and made of small letters, digits and `/=-._`; a command
may have colons and spaces in its name, so that command paths can be declared.
-/

namespace HookWiring

inductive HookKind where
  | action
  | filter
  | shortcode
  | ajax
  | command
  deriving DecidableEq, Repr

namespace HookKind

/-- The tag of a kind, without the leading `@`. -/
def tag : HookKind → String
  | .action => "action"
  | .filter => "filter"
  | .shortcode => "shortcode"
  | .ajax => "ajax"
  | .command => "command"

def all : List HookKind :=
  [.action, .filter, .shortcode, .ajax, .command]

def ofTag? (text : String) : Option HookKind :=
  all.find? fun kind => kind.tag == text

def isNameChar (c : Char) : Bool :=
  ('a' ≤ c && c ≤ 'z') || ('0' ≤ c && c ≤ '9') ||
    c == '/' || c == '=' || c == '-' || c == '.' || c == '_'

def isCommandChar (c : Char) : Bool :=
  isNameChar c || c == ':' || c == ' '

def allows : HookKind → Char → Bool
  | .command, c => isCommandChar c
  | _, c => isNameChar c

def acceptsName (kind : HookKind) (name : String) : Bool :=
  !name.toList.isEmpty && name.toList.all kind.allows

theorem ofTag?_tag (kind : HookKind) : ofTag? kind.tag = some kind := by
  cases kind <;> decide

theorem tag_injective {first second : HookKind} (h : first.tag = second.tag) : first = second := by
  have hsame : some first = some second := by rw [← ofTag?_tag first, h, ofTag?_tag]
  exact Option.some.inj hsame

end HookKind

end HookWiring
