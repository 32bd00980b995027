/-!
# Outcomes and effects

An effect takes a state and yields an outcome: a value with the state after it, a panic with the
state it left behind, or nothing, when the requests were nested deeper than the allowance. A panic
goes through every effect that does not catch it.
-/

namespace HookWiring

inductive Outcome (σ ρ : Type) where
  | returned (value : ρ) (state : σ)
  | panicked (message : String) (state : σ)
  | exhausted

def Effect (σ ρ : Type) : Type :=
  σ → Outcome σ ρ

namespace Outcome

variable {σ ρ τ : Type}

def bind (outcome : Outcome σ ρ) (next : ρ → Effect σ τ) : Outcome σ τ :=
  match outcome with
  | .returned value state => next value state
  | .panicked message state => .panicked message state
  | .exhausted => .exhausted

@[simp] theorem bind_returned (value : ρ) (state : σ) (next : ρ → Effect σ τ) :
    (returned value state).bind next = next value state :=
  rfl

@[simp] theorem bind_panicked (message : String) (state : σ) (next : ρ → Effect σ τ) :
    (panicked message state).bind next = .panicked message state :=
  rfl

@[simp] theorem bind_exhausted (next : ρ → Effect σ τ) :
    (exhausted : Outcome σ ρ).bind next = .exhausted :=
  rfl

end Outcome

namespace Effect

variable {σ ρ τ : Type}

instance : Monad (Effect σ) where
  pure value := fun state => .returned value state
  bind effect next := fun state => (effect state).bind next

@[simp] theorem pure_apply (value : ρ) (state : σ) :
    (pure value : Effect σ ρ) state = .returned value state :=
  rfl

@[simp] theorem bind_apply (effect : Effect σ ρ) (next : ρ → Effect σ τ) (state : σ) :
    (effect >>= next) state = (effect state).bind next :=
  rfl

def modify (change : σ → σ) : Effect σ Unit :=
  fun state => .returned () (change state)

def take (change : σ → ρ × σ) : Effect σ ρ :=
  fun state => .returned (change state).1 (change state).2

def onPanic (effect : Effect σ ρ) (repair : σ → σ) : Effect σ ρ :=
  fun state => match effect state with
    | .panicked message left => .panicked message (repair left)
    | outcome => outcome

@[simp] theorem modify_apply (change : σ → σ) (state : σ) :
    modify change state = .returned () (change state) :=
  rfl

@[simp] theorem take_apply (change : σ → ρ × σ) (state : σ) :
    take change state = .returned (change state).1 (change state).2 :=
  rfl

end Effect

end HookWiring
