import HookWiring.Proofs.Calls
import HookWiring.Proofs.DepthFirst
import HookWiring.Proofs.Evaluation
import HookWiring.Proofs.Slots
import Mathlib.Data.Finset.Card

/-!
# Networks of components

In a network the code of components asks for other components of the network and goes on whatever
it is answered. A debt is what the code of a running sequence has still to ask for. The debts on
the stack are the work that is left of a depth-first order: a request for a component that was begun
before passes it over, and a request for a fresh one puts it down and takes up its own requests
first. Since only finitely many components can be begun, every run comes to its end.
-/

namespace HookWiring

variable {B : Bodies} {α ρ : Type}

inductive Code.Asks : Code B ρ → List Identity → Prop
  | done (result : ρ) : Asks (.done result) []
  | query (query : Query B) {resume : Except String query.Answer → Code B ρ}
      {targets : List Identity} (next : ∀ answer, Asks (resume (.ok answer)) targets) :
      Asks (.ask (.query query) resume) targets
  | acquire (component : Identity) (args : Value)
      {resume : Except String (Except WiringError Serial) → Code B ρ} {targets : List Identity}
      (next : ∀ answer, Asks (resume (.ok answer)) targets) :
      Asks (.ask (.acquire component args false) resume) (component :: targets)

/-- A finite set of components that ask for one another and do nothing else that runs code. -/
structure Network (program : Program B) where
  components : Finset Identity
  requests : Identity → Phase → List Identity
  asks : ∀ life : Life, life.component ∈ components → ∀ phase,
    (program.code life phase).Asks (requests life.component phase)
  closed : ∀ component ∈ components, ∀ phase, ∀ target ∈ requests component phase,
    target ∈ components

namespace Code

def askAll : List Identity → Code B Unit
  | [] => .done ()
  | target :: rest => .ask (.acquire target .null false) fun _ => askAll rest

theorem asks_askAll (targets : List Identity) : (askAll (B := B) targets).Asks targets := by
  induction targets with
  | nil => exact .done ()
  | cons target rest ih => exact .acquire target .null fun _ => ih

theorem Asks.bind_done {τ : Type} {code : Code B ρ} {targets : List Identity}
    (h : code.Asks targets) (result : τ) : (code.bind fun _ => .done result).Asks targets := by
  induction h with
  | done => exact .done result
  | query query _ ih => exact .query query ih
  | acquire component args _ ih => exact .acquire component args ih

end Code

def Program.ofRequests (requests : Identity → Phase → List Identity) : Program plainBodies where
  settings := {}
  component identity :=
    { construct := fun _ => .askAll (requests identity .constructing)
      hooks := fun _ => (Code.askAll (requests identity .hooking)).bind fun _ => .done none
      init := fun _ _ => .askAll (requests identity .initialising) }
  method := nofun
  setter := nofun
  handler := nofun

def Network.ofRequests (components : Finset Identity) (requests : Identity → Phase → List Identity)
    (closed : ∀ component ∈ components, ∀ phase, ∀ target ∈ requests component phase,
      target ∈ components) : Network (Program.ofRequests requests) where
  components := components
  requests := requests
  asks life _ phase := by
    cases phase with
    | hooking => exact (Code.asks_askAll _).bind_done none
    | constructing | initialising => exact Code.asks_askAll _
  closed := closed

/-- What the code of a running sequence has still to ask for. -/
structure Debt where
  life : Life
  phase : Phase
  owed : List (Phase × Identity)

namespace Network

variable {program : Program B} (network : Network program)

def tagged (component : Identity) (phase : Phase) : List (Phase × Identity) :=
  (network.requests component phase).map fun target => (phase, target)

def following (component : Identity) : Phase → List (Phase × Identity)
  | .constructing => network.tagged component .hooking ++ network.tagged component .initialising
  | .hooking => network.tagged component .initialising
  | .initialising => []

def all (component : Identity) : List (Phase × Identity) :=
  network.tagged component .constructing ++ network.following component .constructing

def edges (component : Identity) : List Identity :=
  (network.all component).map Prod.snd

/-- The debts of the sequences on a stack, and what the client has still to ask for. -/
def Owes : {ρ : Type} → Stack B α ρ → Code B ρ → List Debt → List Identity → Prop
  | _, .client, code, debts, rest => debts = [] ∧ code.Asks rest
  | _, .sequence life phase resume below, code, debts, rest => ∃ targets lower,
    code.Asks targets ∧
      debts = ⟨life, phase, targets.map (fun target => (phase, target)) ++
        network.following life.component phase⟩ :: lower ∧
      ∀ answer, Owes below (resume (.ok answer)) lower rest
  | _, .call _ _, _, _, _ => False

theorem mem_of_mem_all {component target : Identity} {phase : Phase}
    (known : component ∈ network.components) (h : (phase, target) ∈ network.all component) :
    target ∈ network.components := by
  simp only [all, following, tagged, List.mem_append, List.mem_map, Prod.mk.injEq] at h
  obtain ⟨_, h, -, rfl⟩ | ⟨_, h, -, rfl⟩ | ⟨_, h, -, rfl⟩ := h
  · exact network.closed component known .constructing _ h
  · exact network.closed component known .hooking _ h
  · exact network.closed component known .initialising _ h

end Network

def pending (debts : List Debt) (rest : List Identity) : List Identity :=
  debts.flatMap (fun debt => debt.owed.map Prod.snd) ++ rest

inductive Pays (target : Identity) : List Debt → List Identity → List Debt → List Identity → Prop
  | client (rest : List Identity) : Pays target [] (target :: rest) [] rest
  | sequence (life : Life) (phase : Phase) (owed : List (Phase × Identity)) (lower : List Debt)
      (rest : List Identity) :
      Pays target (⟨life, phase, (phase, target) :: owed⟩ :: lower) rest
        (⟨life, phase, owed⟩ :: lower) rest

theorem pending_cons (debt : Debt) (debts : List Debt) (rest : List Identity) :
    pending (debt :: debts) rest = debt.owed.map Prod.snd ++ pending debts rest := by
  rw [pending, List.flatMap_cons, List.append_assoc, pending]

namespace Pays

variable {target : Identity} {debts debts' : List Debt} {rest rest' : List Identity}

theorem pending_eq (pays : Pays target debts rest debts' rest') :
    pending debts rest = target :: pending debts' rest' := by
  cases pays <;> rfl

theorem target_mem (pays : Pays target debts rest debts' rest') :
    target ∈ pending debts rest := by
  rw [pays.pending_eq]
  exact List.mem_cons_self

theorem pending_subset (pays : Pays target debts rest debts' rest') :
    pending debts' rest' ⊆ pending debts rest := by
  rw [pays.pending_eq]
  exact List.subset_cons_self _ _

theorem frames_eq (pays : Pays target debts rest debts' rest') :
    debts'.map (fun debt => (debt.life, debt.phase)) =
      debts.map fun debt => (debt.life, debt.phase) := by
  cases pays <;> rfl

theorem known {components : Finset Identity} (pays : Pays target debts rest debts' rest')
    (h : ∀ debt ∈ debts, debt.life.component ∈ components) :
    ∀ debt ∈ debts', debt.life.component ∈ components := by
  cases pays with
  | client => exact h
  | sequence => exact List.forall_mem_cons.mpr (List.forall_mem_cons.mp h)

end Pays

namespace Network

variable {program : Program B} {network : Network program}
variable {stack : Stack B α ρ} {code : Code B ρ} {debts : List Debt} {rest : List Identity}

theorem Owes.sequences_eq (h : network.Owes stack code debts rest) :
    stack.sequences = debts.map fun debt => (debt.life, debt.phase) := by
  induction stack generalizing debts with
  | client => rw [h.1]; rfl
  | call => exact h.elim
  | sequence life phase resume below ih =>
    obtain ⟨targets, lower, -, rfl, hbelow⟩ := h
    exact congrArg _ (ih (hbelow (.ok 0)))

theorem Owes.not_panics (h : network.Owes stack code debts rest) (message : String) :
    code ≠ .panic message := by
  rintro rfl
  cases stack with
  | client => cases h.2
  | call => exact h
  | sequence life phase resume below =>
    obtain ⟨_, _, hasks, -⟩ := h
    cases hasks

theorem Owes.not_calls {callback : Callback B} {args : List Value}
    {resume : Except String (Except CallbackError Value) → Code B ρ}
    (h : network.Owes stack (.ask (.call callback args) resume) debts rest) : False := by
  cases stack with
  | client => cases h.2
  | call => exact h
  | sequence life phase below_resume below =>
    obtain ⟨_, _, hasks, -⟩ := h
    cases hasks

theorem Owes.query {query : Query B} {resume : Except String query.Answer → Code B ρ}
    (h : network.Owes stack (.ask (.query query) resume) debts rest) (answer : query.Answer) :
    network.Owes stack (resume (.ok answer)) debts rest := by
  cases stack with
  | client =>
    obtain ⟨hdebts, hasks⟩ := h
    cases hasks with
    | query _ next => exact ⟨hdebts, next answer⟩
  | call => exact h
  | sequence life phase below_resume below =>
    obtain ⟨targets, lower, hasks, hdebts, hbelow⟩ := h
    cases hasks with
    | query _ next => exact ⟨targets, lower, next answer, hdebts, hbelow⟩

theorem Owes.acquire {component : Identity} {args : Value} {strict : Bool}
    {resume : Except String (Except WiringError Serial) → Code B ρ}
    (h : network.Owes stack (.ask (.acquire component args strict) resume) debts rest) :
    strict = false ∧ ∃ debts' rest', Pays component debts rest debts' rest' ∧
      ∀ answer, network.Owes stack (resume (.ok answer)) debts' rest' := by
  cases stack with
  | client =>
    obtain ⟨rfl, hasks⟩ := h
    cases hasks with
    | acquire _ _ next => exact ⟨rfl, [], _, .client _, fun answer => ⟨rfl, next answer⟩⟩
  | call => exact h.elim
  | sequence life phase below_resume below =>
    obtain ⟨targets, lower, hasks, rfl, hbelow⟩ := h
    cases hasks with
    | acquire _ _ next =>
      exact ⟨rfl, _, rest, .sequence life phase _ lower rest,
        fun answer => ⟨_, lower, next answer, rfl, hbelow⟩⟩

end Network

end HookWiring
