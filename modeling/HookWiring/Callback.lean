import HookWiring.Reflection

/-!
# Callbacks

What a host stores when a declaration is registered: the component and method it belongs to, and
what running it does. Callbacks that were created once and handed on several times are the same
closure, which is told from the closure's key: a wired method is known by its instance and its
place among the methods, a handler by the number it got when it was created.
-/

namespace HookWiring

/-- The number of an instance, in the order of construction. -/
abbrev Serial := Nat

inductive Target (B : Bodies) where
  | method (instanceOf : Serial) (index : Nat) (body : B.Method)
  | applyDirectives (instanceOf : Serial) (reflection : Reflection B)
  | registerRoutes (instanceOf : Serial)
  | handler (number : Nat) (body : B.Handler)

/-- What two callbacks have in common exactly when they share a closure. -/
inductive ClosureKey where
  | method (instanceOf : Serial) (index : Nat)
  | applyDirectives (instanceOf : Serial)
  | registerRoutes (instanceOf : Serial)
  | handler (number : Nat)
  deriving DecidableEq, Repr

def Target.key {B : Bodies} : Target B → ClosureKey
  | .method serial index _ => .method serial index
  | .applyDirectives serial _ => .applyDirectives serial
  | .registerRoutes serial => .registerRoutes serial
  | .handler number _ => .handler number

structure Callback (B : Bodies) where
  component : Identity
  method : String
  target : Target B

def Callback.debug {B : Bodies} (callback : Callback B) : String :=
  "Callback \x7b component: " ++ Text.quote callback.component ++
    ", method: " ++ Text.quote callback.method ++ ", .. \x7d"

def Callback.firstSharing {B : Bodies} (callback : Callback B) (callbacks : List (Callback B)) :
    Nat :=
  callbacks.findIdx fun other => other.target.key == callback.target.key

end HookWiring
