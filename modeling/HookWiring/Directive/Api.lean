import HookWiring.Directive.Line

/-!
# Class directives

The line `@api-key value` in the documentation of a component. The key is everything up to the
first white space, which has to be a space or a tab. The value is the rest of the line without the
white space around it and without the end of a comment block; an empty value is no directive.
-/

namespace HookWiring.Directive

open Text

structure Api where
  key : String
  value : String
  deriving DecidableEq

def dropCommentEnd (value : List Char) : List Char :=
  match value.reverse with
  | '/' :: '*' :: rest => rest.reverse
  | _ => value

def apiValue (text : List Char) : List Char :=
  trimEnd (dropCommentEnd (trimEnd text))

def apiOfLine? (line : List Char) : Option Api := do
  let rest ← afterTag? "api-" line
  let key := rest.takeWhile (!isWhiteSpace ·)
  guard (!key.isEmpty)
  let text ← afterBlanks? (rest.dropWhile (!isWhiteSpace ·))
  let value := apiValue text
  guard (!value.isEmpty)
  return { key := String.ofList key, value := String.ofList value }

def api (doc : String) : List Api :=
  (lines doc.toList).filterMap apiOfLine?

end HookWiring.Directive
