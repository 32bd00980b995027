import HookWiring.Text.LetterCase

/-!
# Snake case

The name that an identifier gets when it is written in small letters with underscores: an
underscore goes before every capital but a leading one, and every character is replaced by its
lower-case form. Runs of capitals are not merged.
-/

namespace HookWiring.Text

/-- A character after the first one: a capital is set off by an underscore. -/
def snakeChar (c : Char) : List Char :=
  if isUpperCase c then '_' :: lowerCase c else lowerCase c

def snakeChars : List Char → List Char
  | [] => []
  | c :: rest => lowerCase c ++ rest.flatMap snakeChar

def snakeCase (ident : String) : String :=
  String.ofList (snakeChars ident.toList)

end HookWiring.Text
