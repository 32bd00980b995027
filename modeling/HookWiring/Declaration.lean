import HookWiring.Callback

/-!
# Declarations

A declaration says which registration a callback gets, under which name, with which priority and
for how many arguments. Only names that fit the grammar of their kind are declared. What a caller
leaves open when it registers a callback by itself is filled in by defaults.
-/

namespace HookWiring

/-- The priority of a registration that names none. -/
def defaultPriority : Int := 10

/-- The priority of a directive that names none. -/
def directivePriority : Int := 11

inductive ArgCount where
  | exact (count : Nat)
  | unbounded
  deriving DecidableEq, Repr

/-- The count as a number. The largest number of 64 bits stands for a count without bound. -/
def ArgCount.limit : ArgCount → Nat
  | .exact count => count
  | .unbounded => 18446744073709551615

structure Declaration (B : Bodies) where
  kind : HookKind
  name : String
  priority : Int
  argCount : ArgCount
  callback : Callback B

def Declaration.make {B : Bodies} (kind : HookKind) (name : String) (priority : Int)
    (argCount : ArgCount) (callback : Callback B) : Except WiringError (Declaration B) :=
  if kind.acceptsName name then .ok { kind, name, priority, argCount, callback }
  else .error (.invalidName kind name)

structure HookArgs where
  priority : Option Int := none
  argCount : Option ArgCount := none

def HookArgs.priorityInEffect (args : HookArgs) : Int :=
  args.priority.getD defaultPriority

def HookArgs.argCountInEffect (args : HookArgs) : ArgCount :=
  args.argCount.getD .unbounded

def Declaration.hookArgs {B : Bodies} (declaration : Declaration B) : HookArgs :=
  { priority := some declaration.priority, argCount := some declaration.argCount }

end HookWiring
