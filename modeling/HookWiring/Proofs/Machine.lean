import HookWiring.System.Sequence
import Mathlib.Logic.Relation

/-!
# Runs, step by step

A run is taken apart into points. At a point some code is under way, a stack says what waits for
it, and the world is what all code sees. The stack has a frame for every sequence and for every
callback that is running; below them is the client, which may be any code. A step serves one
request, or hands the result or the panic of code that has ended to what waits for it. A panic
that comes to the frame of a sequence makes the component fail.
-/

namespace HookWiring

variable {B : Bodies} {α ρ : Type}

inductive Phase where
  | constructing
  | hooking
  | initialising
  deriving DecidableEq, Repr

abbrev Phase.Result (B : Bodies) : Phase → Type
  | .constructing => Unit
  | .hooking => Option (Reflection B)
  | .initialising => Unit

/-- A sequence that was started: the component, the number of its instance, and the arguments of
the request that started it. -/
structure Life where
  component : Identity
  serial : Serial
  args : Value

/-- What waits for code that returns `ρ`, in a run of a client that returns `α`. -/
inductive Stack (B : Bodies) (α : Type) : Type → Type 1 where
  | client : Stack B α α
  | sequence {ρ : Type} (life : Life) (phase : Phase)
      (resume : Except String (Except WiringError Serial) → Code B ρ) (below : Stack B α ρ) :
      Stack B α (phase.Result B)
  | call {ρ : Type} (resume : Except String (Except CallbackError Value) → Code B ρ)
      (below : Stack B α ρ) : Stack B α (Except CallbackError Value)

namespace Stack

def sequences : {ρ : Type} → Stack B α ρ → List (Life × Phase)
  | _, .client => []
  | _, .sequence life phase _ below => (life, phase) :: below.sequences
  | _, .call _ below => below.sequences

def components (stack : Stack B α ρ) : List Identity :=
  stack.sequences.map fun running => running.1.component

end Stack

structure Point (B : Bodies) (α : Type) where
  {ρ : Type}
  code : Code B ρ
  stack : Stack B α ρ
  world : World B

def Point.start (client : Code B α) (host : Host B) : Point B α :=
  ⟨client, .client, { host := host }⟩

namespace Program

variable (program : Program B)

def step : Point B α → Option (Point B α)
  | ⟨.ask (.query query) resume, stack, world⟩ =>
    some ⟨resume (.ok (world.answer query).1), stack, (world.answer query).2⟩
  | ⟨.ask (.acquire component args strict) resume, stack, world⟩ =>
    let known := world.provideSlot component
    match (known.slotOf component).answer? component strict with
    | some answer => some ⟨resume (.ok answer), stack, known⟩
    | none =>
      let (serial, begun) := known.begin component
      some ⟨(program.component component).construct serial,
        .sequence ⟨component, serial, args⟩ .constructing resume stack, begun⟩
  | ⟨.ask (.call callback args) resume, stack, world⟩ =>
    some ⟨program.invoke callback args, .call resume stack, world⟩
  | ⟨.done _, .client, _⟩ => none
  | ⟨.done _, .sequence life .constructing resume below, world⟩ =>
    some ⟨(program.component life.component).hooks life.serial,
      .sequence life .hooking resume below, world.beginHooks life.component⟩
  | ⟨.done reflection, .sequence life .hooking resume below, world⟩ =>
    some ⟨(program.component life.component).init life.serial life.args,
      .sequence life .initialising resume below,
      world.beginInit program.settings life.component life.serial life.args reflection⟩
  | ⟨.done _, .sequence life .initialising resume below, world⟩ =>
    some ⟨resume (.ok (.ok life.serial)), below, world.finish life.component life.serial⟩
  | ⟨.done answer, .call resume below, world⟩ => some ⟨resume (.ok answer), below, world⟩
  | ⟨.panic _, .client, _⟩ => none
  | ⟨.panic message, .sequence life _ resume below, world⟩ =>
    some ⟨resume (.error message), below, world.fail life.component⟩
  | ⟨.panic message, .call resume below, world⟩ => some ⟨resume (.error message), below, world⟩

inductive Step : Point B α → Point B α → Prop
  | query {ρ : Type} (query : Query B) (resume : Except String query.Answer → Code B ρ)
      (stack : Stack B α ρ) (world : World B) :
      Step ⟨.ask (.query query) resume, stack, world⟩
        ⟨resume (.ok (world.answer query).1), stack, (world.answer query).2⟩
  | answer {ρ : Type} (component : Identity) (args : Value) (strict : Bool)
      (resume : Except String (Except WiringError Serial) → Code B ρ) (stack : Stack B α ρ)
      (world : World B) (answer : Except WiringError Serial)
      (known : (world.slotOf component).answer? component strict = some answer) :
      Step ⟨.ask (.acquire component args strict) resume, stack, world⟩
        ⟨resume (.ok answer), stack, world.provideSlot component⟩
  | begins {ρ : Type} (component : Identity) (args : Value) (strict : Bool)
      (resume : Except String (Except WiringError Serial) → Code B ρ) (stack : Stack B α ρ)
      (world : World B) (unknown : (world.slotOf component).answer? component strict = none) :
      Step ⟨.ask (.acquire component args strict) resume, stack, world⟩
        ⟨(program.component component).construct (world.instances.length + 1),
          .sequence ⟨component, world.instances.length + 1, args⟩ .constructing resume stack,
          ((world.provideSlot component).begin component).2⟩
  | calls {ρ : Type} (callback : Callback B) (args : List Value)
      (resume : Except String (Except CallbackError Value) → Code B ρ) (stack : Stack B α ρ)
      (world : World B) :
      Step ⟨.ask (.call callback args) resume, stack, world⟩
        ⟨program.invoke callback args, .call resume stack, world⟩
  | hooks {ρ : Type} (life : Life)
      (resume : Except String (Except WiringError Serial) → Code B ρ) (below : Stack B α ρ)
      (world : World B) :
      Step ⟨.done (), .sequence life .constructing resume below, world⟩
        ⟨(program.component life.component).hooks life.serial,
          .sequence life .hooking resume below, world.beginHooks life.component⟩
  | inits {ρ : Type} (life : Life) (reflection : Option (Reflection B))
      (resume : Except String (Except WiringError Serial) → Code B ρ) (below : Stack B α ρ)
      (world : World B) :
      Step ⟨.done reflection, .sequence life .hooking resume below, world⟩
        ⟨(program.component life.component).init life.serial life.args,
          .sequence life .initialising resume below,
          world.beginInit program.settings life.component life.serial life.args reflection⟩
  | finishes {ρ : Type} (life : Life)
      (resume : Except String (Except WiringError Serial) → Code B ρ) (below : Stack B α ρ)
      (world : World B) :
      Step ⟨.done (), .sequence life .initialising resume below, world⟩
        ⟨resume (.ok (.ok life.serial)), below, world.finish life.component life.serial⟩
  | returns {ρ : Type} (answer : Except CallbackError Value)
      (resume : Except String (Except CallbackError Value) → Code B ρ) (below : Stack B α ρ)
      (world : World B) :
      Step ⟨.done answer, .call resume below, world⟩ ⟨resume (.ok answer), below, world⟩
  | fails {ρ : Type} (message : String) (life : Life) (phase : Phase)
      (resume : Except String (Except WiringError Serial) → Code B ρ) (below : Stack B α ρ)
      (world : World B) :
      Step ⟨.panic message, .sequence life phase resume below, world⟩
        ⟨resume (.error message), below, world.fail life.component⟩
  | escapes {ρ : Type} (message : String)
      (resume : Except String (Except CallbackError Value) → Code B ρ) (below : Stack B α ρ)
      (world : World B) :
      Step ⟨.panic message, .call resume below, world⟩ ⟨resume (.error message), below, world⟩

variable {program}

theorem step_of_known {component : Identity} {strict : Bool} {world : World B}
    {answer : Except WiringError Serial}
    (known : (world.slotOf component).answer? component strict = some answer) (args : Value)
    (resume : Except String (Except WiringError Serial) → Code B ρ) (stack : Stack B α ρ) :
    program.step ⟨.ask (.acquire component args strict) resume, stack, world⟩ =
      some ⟨resume (.ok answer), stack, world.provideSlot component⟩ := by
  simp only [step, World.slotOf_provideSlot, known]

theorem step_of_unknown {component : Identity} {strict : Bool} {world : World B}
    (unknown : (world.slotOf component).answer? component strict = none) (args : Value)
    (resume : Except String (Except WiringError Serial) → Code B ρ) (stack : Stack B α ρ) :
    program.step ⟨.ask (.acquire component args strict) resume, stack, world⟩ =
      some ⟨(program.component component).construct (world.instances.length + 1),
        .sequence ⟨component, world.instances.length + 1, args⟩ .constructing resume stack,
        ((world.provideSlot component).begin component).2⟩ := by
  simp only [step, World.slotOf_provideSlot, unknown, World.begin, World.instances_provideSlot]

theorem Step.eq {p q : Point B α} (h : program.Step p q) : program.step p = some q := by
  cases h with
  | answer component args strict resume stack world answer known =>
    exact step_of_known known args resume stack
  | begins component args strict resume stack world unknown =>
    exact step_of_unknown unknown args resume stack
  | _ => rfl

theorem Step.of_eq {p q : Point B α} (h : program.step p = some q) : program.Step p q := by
  obtain ⟨code, stack, world⟩ := p
  cases code with
  | done result =>
    cases stack with
    | client => simp [step] at h
    | sequence life phase resume below =>
      cases phase <;> cases h
      · exact .hooks life resume below world
      · exact .inits life result resume below world
      · exact .finishes life resume below world
    | call resume below => cases h; exact .returns result resume below world
  | panic message =>
    cases stack with
    | client => simp [step] at h
    | sequence life phase resume below =>
      cases h
      exact .fails message life phase resume below world
    | call resume below => cases h; exact .escapes message resume below world
  | ask request resume =>
    cases request with
    | query query => cases h; exact .query query resume stack world
    | call callback args => cases h; exact .calls callback args resume stack world
    | acquire component args strict =>
      cases known : (world.slotOf component).answer? component strict with
      | some answer =>
        cases (step_of_known known args resume stack).symm.trans h
        exact .answer component args strict resume stack world answer known
      | none =>
        cases (step_of_unknown known args resume stack).symm.trans h
        exact .begins component args strict resume stack world known

theorem ended_of_step {p : Point B α} (h : program.step p = none) :
    (∃ value world, p = ⟨.done value, .client, world⟩) ∨
      ∃ message world, p = ⟨.panic message, .client, world⟩ := by
  obtain ⟨code, stack, world⟩ := p
  cases code with
  | done value =>
    cases stack with
    | client => exact .inl ⟨value, world, rfl⟩
    | call => cases h
    | sequence life phase resume below => cases phase <;> cases h
  | panic message =>
    cases stack with
    | client => exact .inr ⟨message, world, rfl⟩
    | call | sequence => cases h
  | ask request resume =>
    cases request with
    | query | call => cases h
    | acquire component args strict =>
      cases known : (world.slotOf component).answer? component strict with
      | some answer => rw [step_of_known known] at h; cases h
      | none => rw [step_of_unknown known] at h; cases h

theorem Step.unique {p q r : Point B α} (h : program.Step p q) (h' : program.Step p r) : q = r :=
  Option.some.inj (h.eq.symm.trans h'.eq)

variable (program)

abbrev Leads : Point B α → Point B α → Prop :=
  Relation.ReflTransGen program.Step

/-- A run from a point, with all points it has left, in order, and the point it has come to. -/
inductive Run (start : Point B α) : List (Point B α) → Point B α → Prop
  | nil : Run start [] start
  | snoc {past : List (Point B α)} {p q : Point B α} (run : Run start past p)
      (step : program.Step p q) : Run start (past ++ [p]) q

variable {program}

theorem Run.extend {start p q : Point B α} {past : List (Point B α)}
    (run : program.Run start past p) (leads : program.Leads p q) :
    ∃ more, program.Run start (past ++ more) q := by
  induction leads with
  | refl => exact ⟨[], by simpa using run⟩
  | tail _ step ih =>
    obtain ⟨more, further⟩ := ih
    exact ⟨more ++ [_], by simpa using further.snoc step⟩

theorem Run.cons {start next now : Point B α} {past : List (Point B α)}
    (step : program.Step start next) (run : program.Run next past now) :
    program.Run start (start :: past) now := by
  induction run with
  | nil => exact .snoc .nil step
  | snoc _ last ih => exact ih.snoc last

theorem Run.append {start now later : Point B α} {past more : List (Point B α)}
    (run : program.Run start past now) (further : program.Run now more later) :
    program.Run start (past ++ more) later := by
  induction further with
  | nil => rwa [List.append_nil]
  | snoc _ step ih => rw [← List.append_assoc]; exact ih.snoc step

theorem Run.mem_split {start now p : Point B α} {past : List (Point B α)}
    (run : program.Run start past now) (h : p ∈ past) :
    ∃ before more q, past = before ++ p :: more ∧ program.Run start before p ∧
      program.Step p q ∧ program.Run q more now := by
  induction run with
  | nil => simp at h
  | @snoc past last next run step ih =>
    rcases List.mem_append.mp h with hpast | hlast
    · obtain ⟨before, more, q, heq, hbefore, hstep, hmore⟩ := ih hpast
      exact ⟨before, more ++ [last], q, by simp [heq], hbefore, hstep, hmore.snoc step⟩
    · rw [List.mem_singleton] at hlast
      subst hlast
      exact ⟨past, [], next, rfl, run, step, .nil⟩

theorem Run.leads {start now : Point B α} {past : List (Point B α)}
    (run : program.Run start past now) : program.Leads start now := by
  induction run with
  | nil => exact .refl
  | snoc _ step ih => exact ih.tail step

variable (program) in
def after : Nat → Point B α → Option (Point B α)
  | 0, p => some p
  | n + 1, p => (program.step p).bind (after n)

theorem leads_of_after {n : Nat} {p q : Point B α} (h : program.after n p = some q) :
    program.Leads p q := by
  induction n generalizing p with
  | zero => cases h; exact .refl
  | succ n ih =>
    obtain ⟨next, hstep, hnext⟩ := Option.bind_eq_some_iff.mp h
    exact .head (.of_eq hstep) (ih hnext)

variable (program) in
theorem exists_run_of_after (n : Nat) (start : Point B α) (test : Point B α → Bool)
    (h : (program.after n start).any test = true) :
    ∃ past now, program.Run start past now ∧ test now = true := by
  obtain ⟨now, hafter, htest⟩ := (Option.any_eq_true _ _).mp h
  obtain ⟨past, run⟩ := Run.nil.extend (leads_of_after hafter)
  exact ⟨past, now, run, htest⟩

end Program

/-!
## A program with a failing component

The initialisation of the outer component asks for the inner one, whose initialisation panics. The
outer component goes on whatever it is answered.
-/

def plainBodies : Bodies :=
  ⟨Empty, Empty, Empty⟩

def outage : Program plainBodies where
  settings := {}
  component identity :=
    { construct := fun _ => .done ()
      hooks := fun _ => .done <|
        if identity = "outer" then
          some { component := identity, classDoc := "", hasApi := true }
        else none
      init := fun _ _ =>
        if identity = "outer" then .ask (.acquire "inner" .null false) fun _ => .done ()
        else .panic "lost" }
  method := nofun
  setter := nofun
  handler := nofun

def outageClient : Code plainBodies (Except WiringError Serial) :=
  .acquire "outer" .null false

end HookWiring
