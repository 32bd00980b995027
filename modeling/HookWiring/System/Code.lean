import HookWiring.System.Outcome
import HookWiring.System.Request

/-!
# Code of components

A program of a component is done with a result, panics, or makes a request and goes on with the
answer. Code that a request runs may panic; the program then goes on with the message of the panic
and decides whether to panic in turn. Programs are data, so statements about all components
quantify over all programs.
-/

namespace HookWiring

inductive Code (B : Bodies) (ρ : Type) where
  | done (result : ρ)
  | panic (message : String)
  | ask (request : Request B) (resume : Except String request.Answer → Code B ρ)

namespace Code

variable {B : Bodies} {ρ τ : Type}

def bind : Code B ρ → (ρ → Code B τ) → Code B τ
  | .done result, next => next result
  | .panic message, _ => .panic message
  | .ask request resume, next => .ask request fun answer => (resume answer).bind next

instance : Monad (Code B) where
  pure := .done
  bind := bind

/-- Make a request; a panic of the code that it runs goes on. -/
def request (request : Request B) : Code B request.Answer :=
  .ask request fun
    | .ok answer => .done answer
    | .error message => .panic message

def query (query : Query B) : Code B query.Answer :=
  request (.query query)

def acquire (component : Identity) (args : Value) (strict : Bool) :
    Code B (Except WiringError Serial) :=
  request (.acquire component args strict)

def call (callback : Callback B) (args : List Value) : Code B (Except CallbackError Value) :=
  request (.call callback args)

def attempt : Code B ρ → Code B (Except String ρ)
  | .done result => .done (.ok result)
  | .panic message => .done (.error message)
  | .ask request resume => .ask request fun answer => (resume answer).attempt

@[simp] theorem bind_done (result : ρ) (next : ρ → Code B τ) :
    (Code.done result : Code B ρ).bind next = next result :=
  rfl

@[simp] theorem bind_panic (message : String) (next : ρ → Code B τ) :
    (Code.panic message : Code B ρ).bind next = .panic message :=
  rfl

theorem bind_pure (code : Code B ρ) : code.bind .done = code := by
  induction code with
  | done result => rfl
  | panic message => rfl
  | ask request resume ih => simp [bind, ih]

theorem bind_assoc {υ : Type} (code : Code B ρ) (next : ρ → Code B τ) (last : τ → Code B υ) :
    (code.bind next).bind last = code.bind fun result => (next result).bind last := by
  induction code with
  | done result => rfl
  | panic message => rfl
  | ask request resume ih => simp [bind, ih]

end Code

abbrev Server (B : Bodies) (σ : Type) : Type :=
  (request : Request B) → Effect σ request.Answer

def Code.run {B : Bodies} {σ ρ : Type} (server : Server B σ) : Code B ρ → Effect σ ρ
  | .done result => fun state => .returned result state
  | .panic message => fun state => .panicked message state
  | .ask request resume => fun state => match server request state with
    | .returned answer after => (resume (.ok answer)).run server after
    | .panicked message after => (resume (.error message)).run server after
    | .exhausted => .exhausted

theorem Code.run_bind {B : Bodies} {σ ρ τ : Type} (server : Server B σ) (code : Code B ρ)
    (next : ρ → Code B τ) (state : σ) :
    (code.bind next).run server state =
      (code.run server state).bind fun result => (next result).run server := by
  induction code generalizing state with
  | done result => rfl
  | panic message => rfl
  | ask request resume ih =>
    simp only [Code.bind, Code.run]
    cases server request state with
    | returned answer after => exact ih _ after
    | panicked message after => exact ih _ after
    | exhausted => rfl

end HookWiring
