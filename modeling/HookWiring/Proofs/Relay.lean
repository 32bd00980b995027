import HookWiring.Proofs.History
import HookWiring.Proofs.Stacking
import HookWiring.Proofs.StableOrder
import HookWiring.System.Firing

/-!
# Relays

A firing calls the callbacks of bindings one after the other, up to the first that fails. An action
gives all of them the same arguments, a filter hands each of them what the one before it has
returned; both are relays, which differ in what is handed on. A relay is the monadic fold over its
bindings, whatever its callbacks do to the system in between. The bindings are fixed when it starts,
so it ends as soon as each of its callbacks returns.
-/

namespace HookWiring

variable {B : Bodies} {α β ρ τ : Type}

theorem Binding.takeArgs_eq (binding : Binding B) (args : List Value) :
    binding.takeArgs args = args.take (min args.length binding.argCount.limit) := by
  rw [Nat.min_comm]
  exact List.take_eq_take_min

/-- What callbacks do when they return: the answer to a call in a world, and the world after it. -/
abbrev Behaviour (B : Bodies) : Type :=
  Callback B → List Value → World B → Except CallbackError Value × World B

def Behaviour.call (calls : Behaviour B) (callback : Callback B) (args : List Value) :
    ExceptT CallbackError (StateM (World B)) Value :=
  ExceptT.mk fun world => calls callback args world

variable (B β) in
/-- What is handed on between bindings that are called one after the other. -/
structure Relay where
  input : β → Binding B → List Value
  next : β → Value → β

structure Leg (B : Bodies) where
  binding : Binding B
  args : List Value
  answer : Except CallbackError Value

namespace Leg

def exchanges (leg : Leg B) : List (Exchange B) :=
  [.called leg.binding.callback leg.args, .answered leg.answer]

def Succeeds (leg : Leg B) : Prop :=
  ∃ value, leg.answer = .ok value

end Leg

namespace Relay

variable (relay : Relay B β)

def code : List (Binding B) → β → Code B (Except CallbackError β)
  | [], reached => .done (.ok reached)
  | binding :: rest, reached =>
    (Code.call binding.callback (relay.input reached binding)).bind fun
      | .ok value => code rest (relay.next reached value)
      | .error error => .done (.error error)

def actions (args : List Value) : Relay B Unit where
  input _ binding := binding.takeArgs args
  next _ _ := ()

def filters (extra : List Value) : Relay B Value where
  input current binding := binding.takeArgs (current :: extra)
  next _ value := value

theorem code_actions (args : List Value) (bindings : List (Binding B)) :
    (actions args).code bindings () = Code.runEach args bindings := by
  induction bindings with
  | nil => rfl
  | cons binding rest ih =>
    rw [code, Code.runEach, ← ih]
    rfl

theorem code_filters (extra : List Value) (bindings : List (Binding B)) (value : Value) :
    (filters extra).code bindings value = Code.passThrough extra bindings value := by
  induction bindings generalizing value with
  | nil => rfl
  | cons binding rest ih =>
    rw [code, Code.passThrough]
    congr 1
    funext answer
    cases answer with
    | ok next => exact ih next
    | error error => rfl

variable (calls : Behaviour B)

def step (reached : β) (binding : Binding B) : ExceptT CallbackError (StateM (World B)) β :=
  relay.next reached <$> calls.call binding.callback (relay.input reached binding)

def fold (bindings : List (Binding B)) (start : β) (world : World B) :
    Except CallbackError β × World B :=
  (bindings.foldlM (relay.step calls) start).run.run world

def legs : List (Binding B) → β → World B → List (Leg B)
  | [], _, _ => []
  | binding :: rest, reached, world =>
    let (answer, after) := calls binding.callback (relay.input reached binding) world
    ⟨binding, relay.input reached binding, answer⟩ :: match answer with
      | .ok value => legs rest (relay.next reached value) after
      | .error _ => []

def reached (start : β) (legs : List (Leg B)) : β :=
  legs.foldl (fun state leg => leg.answer.toOption.elim state (relay.next state)) start

/-- Every callback that gets its turn returns as `calls` says. A callback gets its turn when those
of the bindings before it have succeeded, in the world that they leave. -/
def Described (program : Program B) (bindings : List (Binding B)) (start : β)
    (world : World B) : Prop :=
  ∀ earlier binding later, bindings = earlier ++ binding :: later →
    ∀ current before, relay.fold calls earlier start world = (.ok current, before) →
      program.Returns binding.callback (relay.input current binding) before
        (calls binding.callback (relay.input current binding) before)

/-- Every leg but perhaps the last has succeeded; if all have, there is one for every binding, and
the result is a given value, and if the last has failed, its failure is the result. -/
def Finishes {γ : Type} (bindings : List (Binding B)) (legs : List (Leg B)) (value : γ)
    (result : Except CallbackError γ) : Prop :=
  (legs.map Leg.binding = bindings ∧ (∀ leg ∈ legs, leg.Succeeds) ∧ result = .ok value) ∨
    ∃ earlier last error, legs = earlier ++ [last] ∧ (∀ leg ∈ earlier, leg.Succeeds) ∧
      last.answer = .error error ∧ result = .error error

section Legs

variable {relay calls} {binding : Binding B} {bindings rest : List (Binding B)} {start : β}
variable {world after : World B} {value : Value} {error : CallbackError}

theorem fold_cons_ok
    (h : calls binding.callback (relay.input start binding) world = (.ok value, after)) :
    relay.fold calls (binding :: rest) start world =
      relay.fold calls rest (relay.next start value) after := by
  simp only [fold, List.foldlM_cons, step, Behaviour.call, ExceptT.run, ExceptT.bind, bind,
    ExceptT.mk, Functor.map, ExceptT.map, StateT.bind, StateT.run, h, ExceptT.bindCont, pure]
  rfl

theorem fold_cons_error
    (h : calls binding.callback (relay.input start binding) world = (.error error, after)) :
    relay.fold calls (binding :: rest) start world = (.error error, after) := by
  simp only [fold, List.foldlM_cons, step, Behaviour.call, ExceptT.run, ExceptT.bind, bind,
    ExceptT.mk, Functor.map, ExceptT.map, StateT.bind, StateT.run, h, ExceptT.bindCont, pure]
  rfl

theorem legs_cons_ok
    (h : calls binding.callback (relay.input start binding) world = (.ok value, after)) :
    relay.legs calls (binding :: rest) start world =
      ⟨binding, relay.input start binding, .ok value⟩ ::
        relay.legs calls rest (relay.next start value) after := by
  simp only [legs, h]

theorem legs_cons_error
    (h : calls binding.callback (relay.input start binding) world = (.error error, after)) :
    relay.legs calls (binding :: rest) start world =
      [⟨binding, relay.input start binding, .error error⟩] := by
  simp only [legs, h]

theorem map_binding_legs_isPrefix :
    (relay.legs calls bindings start world).map Leg.binding <+: bindings := by
  induction bindings generalizing start world with
  | nil => exact List.prefix_rfl
  | cons binding rest ih =>
    rcases hcall : calls binding.callback (relay.input start binding) world with ⟨answer, after⟩
    cases answer with
    | ok value =>
      rw [legs_cons_ok hcall, List.map_cons, List.cons_prefix_cons]
      exact ⟨rfl, ih⟩
    | error error =>
      rw [legs_cons_error hcall]
      exact ⟨rest, rfl⟩

theorem args_of_legs {earlier later : List (Leg B)} {leg : Leg B}
    (h : relay.legs calls bindings start world = earlier ++ leg :: later) :
    leg.args = relay.input (relay.reached start earlier) leg.binding ∧
      ∀ other ∈ earlier, other.Succeeds := by
  induction bindings generalizing start world earlier with
  | nil => simp [legs] at h
  | cons binding rest ih =>
    rcases hcall : calls binding.callback (relay.input start binding) world with ⟨answer, after⟩
    cases answer with
    | ok value =>
      rw [legs_cons_ok hcall] at h
      cases earlier with
      | nil =>
        obtain ⟨rfl, -⟩ := List.cons.inj h
        exact ⟨rfl, nofun⟩
      | cons first earlier =>
        obtain ⟨rfl, hrest⟩ := List.cons.inj h
        obtain ⟨hargs, hearlier⟩ := ih hrest
        exact ⟨hargs, List.forall_mem_cons.mpr ⟨⟨value, rfl⟩, hearlier⟩⟩
    | error error =>
      rw [legs_cons_error hcall] at h
      cases earlier with
      | nil =>
        obtain ⟨rfl, -⟩ := List.cons.inj h
        exact ⟨rfl, nofun⟩
      | cons first earlier => cases (List.append_eq_nil_iff.mp (List.cons.inj h).2.symm).2

theorem finishes : Finishes bindings (relay.legs calls bindings start world)
    (relay.reached start (relay.legs calls bindings start world))
    (relay.fold calls bindings start world).1 := by
  induction bindings generalizing start world with
  | nil => exact .inl ⟨rfl, nofun, rfl⟩
  | cons binding rest ih =>
    rcases hcall : calls binding.callback (relay.input start binding) world with ⟨answer, after⟩
    cases answer with
    | ok value =>
      rw [legs_cons_ok hcall, fold_cons_ok hcall]
      have hfirst : (⟨binding, relay.input start binding, .ok value⟩ : Leg B).Succeeds :=
        ⟨value, rfl⟩
      rcases ih with ⟨hbindings, hsucceed, hresult⟩ | ⟨earlier, last, error, hlegs, hsucceed, hfail⟩
      · refine .inl ⟨?_, List.forall_mem_cons.mpr ⟨hfirst, hsucceed⟩, hresult⟩
        rw [List.map_cons, hbindings]
      · refine .inr ⟨_ :: earlier, last, error, ?_,
          List.forall_mem_cons.mpr ⟨hfirst, hsucceed⟩, hfail⟩
        rw [hlegs, List.cons_append]
    | error error =>
      rw [legs_cons_error hcall, fold_cons_error hcall]
      exact .inr ⟨[], _, error, rfl, nofun, rfl, rfl⟩

/-- Where the answers do not depend on the world, neither does the result of a relay. -/
theorem fold_of_answers {answers : Callback B → List Value → Except CallbackError Value}
    (h : ∀ callback args world, (calls callback args world).1 = answers callback args) :
    (relay.fold calls bindings start world).1 = bindings.foldlM (fun state binding =>
      relay.next state <$> answers binding.callback (relay.input state binding)) start := by
  induction bindings generalizing start world with
  | nil => rfl
  | cons binding rest ih =>
    rcases hcall : calls binding.callback (relay.input start binding) world with ⟨answer, after⟩
    have hanswer := h binding.callback (relay.input start binding) world
    rw [hcall] at hanswer
    rw [List.foldlM_cons, ← hanswer]
    cases answer with
    | ok value =>
      rw [fold_cons_ok hcall]
      exact ih
    | error error =>
      rw [fold_cons_error hcall]
      rfl

theorem Finishes.map {γ δ : Type} {legs : List (Leg B)} {result : γ}
    {outcome : Except CallbackError γ} (h : Finishes bindings legs result outcome) (f : γ → δ) :
    Finishes bindings legs (f result) (outcome.map f) := by
  rcases h with ⟨hbindings, hsucceed, rfl⟩ | ⟨earlier, last, error, hlegs, hsucceed, hlast, rfl⟩
  · exact .inl ⟨hbindings, hsucceed, rfl⟩
  · exact .inr ⟨earlier, last, error, hlegs, hsucceed, hlast, rfl⟩

end Legs

section Runs

variable {relay calls} {program : Program B} {binding : Binding B}
variable {bindings rest : List (Binding B)} {start : β} {world after : World B} {value : Value}

theorem Described.head (described : relay.Described calls program (binding :: rest) start world) :
    program.Returns binding.callback (relay.input start binding) world
      (calls binding.callback (relay.input start binding) world) :=
  described [] binding rest rfl start world rfl

theorem described_of_returns (h : ∀ binding ∈ bindings, ∀ args world,
    program.Returns binding.callback args world (calls binding.callback args world)) :
    relay.Described calls program bindings start world := by
  intro earlier binding later hbindings current before _
  exact h binding (hbindings ▸ List.mem_append_right _ List.mem_cons_self) _ _

theorem Described.tail (described : relay.Described calls program (binding :: rest) start world)
    (h : calls binding.callback (relay.input start binding) world = (.ok value, after)) :
    relay.Described calls program rest (relay.next start value) after := by
  intro earlier other later hrest current before hfold
  refine described (binding :: earlier) other later (by rw [hrest]; rfl) current before ?_
  rw [fold_cons_ok h, hfold]

theorem Described.exists_run (described : relay.Described calls program bindings start world)
    (next : Except CallbackError β → Code B ρ) (stack : Stack B α ρ) :
    ∃ past, program.Run ⟨(relay.code bindings start).bind next, stack, world⟩ past
        ⟨next (relay.fold calls bindings start world).1, stack,
          (relay.fold calls bindings start world).2⟩ ∧
      exchanges stack.height past =
        (relay.legs calls bindings start world).flatMap Leg.exchanges := by
  -- The world is general: every callback leaves another one to those after it.
  induction bindings generalizing start world with
  | nil => exact ⟨[], .nil, rfl⟩
  | cons binding rest ih =>
    rw [code, Code.bind_assoc]
    obtain ⟨past, run, hpast⟩ := described.head.exists_run _ stack
    rcases hcall : calls binding.callback (relay.input start binding) world with ⟨answer, after⟩
    rw [hcall] at run hpast
    cases answer with
    | ok value =>
      obtain ⟨more, further, hmore⟩ := ih (described.tail hcall)
      rw [fold_cons_ok hcall, legs_cons_ok hcall]
      refine ⟨past ++ more, run.append further, ?_⟩
      rw [exchanges, List.filterMap_append, ← exchanges, ← exchanges, hpast, hmore]
      rfl
    | error error =>
      rw [fold_cons_error hcall, legs_cons_error hcall]
      exact ⟨past, run, hpast⟩

end Runs

end Relay

/-! ### Firings -/

/-- Code that comes to a result: on any stack and to any depth that is great enough, with these legs
as its only exchanges. The host keeps what it has, and receives what is registered on the way. -/
structure Program.Performs (program : Program B) (code : Code B ρ) (world : World B)
    (legs : List (Leg B)) (result : ρ) (after : World B) : Prop where
  served : ∃ depth, ∀ more, depth ≤ more →
    code.run (program.serve more) world = .returned result after
  runs : ∀ {α τ : Type} (next : ρ → Code B τ) (stack : Stack B α τ), ∃ past,
    program.Run ⟨code.bind next, stack, world⟩ past ⟨next result, stack, after⟩ ∧
      exchanges stack.height past = legs.flatMap Leg.exchanges ∧
      after.host.log = world.host.log ++ past.flatMap (Point.registered program.settings) ∧
      ∀ p ∈ past, world.host.log <+: p.world.host.log

structure Program.Fires (program : Program B) (code : Code B (Except CallbackError ρ))
    (pick : Registration B → Option (Binding B)) (world : World B) (scheduled : List (Binding B))
    (legs : List (Leg B)) (value : ρ) (result : Except CallbackError ρ) (after : World B) :
    Prop where
  performs : program.Performs code world legs result after
  turns : legs.map Leg.binding <+: scheduled
  finishes : Relay.Finishes scheduled legs value result
  later : ∃ added, after.host.log = world.host.log ++ added ∧
    ∀ next, Host.Schedule (after.host.log.filterMap pick) next →
      next.Perm (scheduled ++ added.filterMap pick)

theorem Program.Performs.exists_added {program : Program B} {code : Code B ρ}
    {world after : World B} {legs : List (Leg B)} {result : ρ}
    (performs : program.Performs code world legs result after) :
    ∃ added, after.host.log = world.host.log ++ added := by
  obtain ⟨past, -, -, hlog, -⟩ := performs.runs .done .client
  exact ⟨_, hlog⟩

namespace Relay

variable {relay : Relay B β} {calls : Behaviour B} {program : Program B}
variable {bindings : List (Binding B)} {start : β} {world : World B}

theorem Described.performs (described : relay.Described calls program bindings start world)
    {query : Query B} {next : query.Answer → Code B ρ} {finish : Except CallbackError β → ρ}
    (same : (world.answer query).2 = world)
    (hnext : next (world.answer query).1 =
      (relay.code bindings start).bind fun reached => .done (finish reached)) :
    program.Performs ((Code.query query).bind next) world (relay.legs calls bindings start world)
      (finish (relay.fold calls bindings start world).1)
      (relay.fold calls bindings start world).2 := by
  have hruns {α τ : Type} (last : ρ → Code B τ) (stack : Stack B α τ) : ∃ past,
      program.Run ⟨((Code.query query).bind next).bind last, stack, world⟩ past
          ⟨last (finish (relay.fold calls bindings start world).1), stack,
            (relay.fold calls bindings start world).2⟩ ∧
        exchanges stack.height past =
          (relay.legs calls bindings start world).flatMap Leg.exchanges := by
    obtain ⟨past, run, hpast⟩ := described.exists_run (fun reached => last (finish reached)) stack
    have hfirst : program.Step
        ⟨(Code.query query).bind fun found => (next found).bind last, stack, world⟩
        ⟨(next (world.answer query).1).bind last, stack, (world.answer query).2⟩ :=
      .query query _ stack world
    rw [same, hnext, Code.bind_assoc] at hfirst
    rw [Code.bind_assoc]
    exact ⟨_, run.cons hfirst, (List.filterMap_cons_none rfl).trans hpast⟩
  constructor
  case served =>
    obtain ⟨past, run, -⟩ := hruns .done .client
    rw [Code.bind_pure] at run
    exact Program.run_of_leads run.leads
  case runs =>
    intro α τ last stack
    obtain ⟨past, run, hpast⟩ := hruns last stack
    refine ⟨past, run, hpast, run.log_eq, fun p hp => ?_⟩
    obtain ⟨before, -, -, -, hbefore, -⟩ := run.mem_split hp
    exact ⟨_, hbefore.log_eq.symm⟩

theorem fires {γ : Type} {code : Code B (Except CallbackError γ)} (finish : β → γ)
    {result : Except CallbackError γ}
    (hresult : (relay.fold calls bindings start world).1.map finish = result)
    (performs : program.Performs code world (relay.legs calls bindings start world) result
      (relay.fold calls bindings start world).2)
    {pick : Registration B → Option (Binding B)}
    (schedule : Host.Schedule (world.host.log.filterMap pick) bindings) :
    program.Fires code pick world bindings (relay.legs calls bindings start world)
      (finish (relay.reached start (relay.legs calls bindings start world))) result
      (relay.fold calls bindings start world).2 where
  performs := performs
  turns := map_binding_legs_isPrefix
  finishes := hresult ▸ finishes.map finish
  later := by
    obtain ⟨added, hlog⟩ := performs.exists_added
    refine ⟨added, hlog, fun next hnext => ?_⟩
    rw [hlog, List.filterMap_append] at hnext
    exact hnext.perm.trans (schedule.perm.symm.append_right _)

end Relay

/-!
## Handlers for firings

They answer with the list of their arguments, or refuse. One of them registers itself once more, as
an action and as a filter.
-/

inductive Errand where
  | lists
  | enlists
  | refuses (message : String)

def errandBodies : Bodies :=
  ⟨Empty, Empty, Errand⟩

namespace Errand

def binding (errand : Errand) (priority : Int) (argCount : ArgCount) : Binding errandBodies :=
  { name := "errand", callback := ⟨"Desk", "run", .handler 0 errand⟩, priority, argCount }

def enlisted : List (Registration errandBodies) :=
  [.action (enlists.binding 0 .unbounded), .filter (enlists.binding 0 .unbounded)]

def code (args : List Value) : Errand → Code errandBodies (Except CallbackError Value)
  | lists => .done (.ok (.list args))
  | enlists => (Code.query (.register enlisted)).bind fun _ => .done (.ok (.list args))
  | refuses message => .done (.error (.custom message))

def program : Program errandBodies where
  settings := {}
  component _ :=
    { construct := fun _ => .done ()
      hooks := fun _ => .done none
      init := fun _ _ => .done () }
  method := nofun
  setter := nofun
  handler errand _ _ args := errand.code args

def calls : Behaviour errandBodies := fun callback args world =>
  match (program.invoke callback args).run (program.serve 0) world with
  | .returned answer after => (answer, after)
  | _ => (.ok .null, world)

theorem returns (errand : Errand) (priority : Int) (argCount : ArgCount) (args : List Value)
    (world : World errandBodies) :
    program.Returns (errand.binding priority argCount).callback args world
      (calls (errand.binding priority argCount).callback args world) := by
  cases errand <;> exact ⟨0, rfl⟩

end Errand

end HookWiring
