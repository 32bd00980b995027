/-!
# Errors of component sources

What can be wrong with the attribute of a component or with its block of methods.
-/

namespace HookWiring.Source

inductive Error where
  /-- The source does not consist of tokens with matching brackets. -/
  | malformed
  | unknownOption (name : String)
  | expectedIdentifier
  | keyword (word : String)
  | traitBlock
  | genericComponent
  /-- A tagged method does not take a shared reference to its component. -/
  | receiver
  /-- A tagged method has generic parameters or is asynchronous. -/
  | genericMethod
  deriving DecidableEq, Repr

def Error.message : Error → String
  | .malformed => "cannot parse string into token stream"
  | .unknownOption name => "unknown attribute: " ++ name
  | .expectedIdentifier => "expected identifier"
  | .keyword word => "expected identifier, found keyword `" ++ word ++ "`"
  | .traitBlock => "#[hooks] must be placed on an inherent impl block"
  | .genericComponent => "#[hooks] does not support generic components"
  | .receiver => "hooked methods must take `&self`"
  | .genericMethod => "hooked methods cannot be generic or async"

end HookWiring.Source
