import HookWiring.Proofs.Machine

/-!
# Evaluation

Code that is run to a nesting depth and code that is run step by step come to the same end. What a
server answers at some depth, steps come to as well: this is by the depth and the code. A run that
ends has a depth that is enough for it: this is by the run that is left, which gets shorter with
every request.
-/

namespace HookWiring

variable {B : Bodies} {α ρ τ : Type}

def Code.ended : Except String ρ → Code B ρ
  | .ok result => .done result
  | .error message => .panic message

def Outcome.point? (resume : Except String ρ → Code B τ) (stack : Stack B α τ) :
    Outcome (World B) ρ → Option (Point B α)
  | .returned value world => some ⟨resume (.ok value), stack, world⟩
  | .panicked message world => some ⟨resume (.error message), stack, world⟩
  | .exhausted => none

/-- The outcome of a sequence, from the outcome of the code of a phase and what comes next. -/
def Life.guard (life : Life) (next : ρ → Effect (World B) (Except WiringError Serial)) :
    Outcome (World B) ρ → Outcome (World B) (Except WiringError Serial)
  | .returned value world => next value world
  | .panicked message world => .panicked message (world.fail life.component)
  | .exhausted => .exhausted

/-- An effect does as another does wherever the other comes to an end. -/
def Effect.Within (effect more : Effect (World B) ρ) : Prop :=
  ∀ world, effect world ≠ .exhausted → more world = effect world

theorem Effect.Within.run {server more : Server B (World B)}
    (within : ∀ request, (server request).Within (more request)) (code : Code B ρ) :
    (code.run server).Within (code.run more) := by
  induction code with
  | done result => intro world _; rfl
  | panic message => intro world _; rfl
  | ask request resume ih =>
    intro world h
    simp only [Code.run] at h ⊢
    cases hanswer : server request world with
    | returned answer after =>
      have hmore := within request world (by simp [hanswer])
      simp only [hanswer] at h
      simp only [hmore, hanswer]
      exact ih _ after h
    | panicked message after =>
      have hmore := within request world (by simp [hanswer])
      simp only [hanswer] at h
      simp only [hmore, hanswer]
      exact ih _ after h
    | exhausted =>
      simp only [hanswer] at h
      exact absurd rfl h

theorem Life.guard_within {server more : Server B (World B)}
    (within : ∀ request, (server request).Within (more request)) (life : Life)
    {next further : ρ → Effect (World B) (Except WiringError Serial)}
    (hnext : ∀ result, (next result).Within (further result)) (code : Code B ρ) :
    Effect.Within (fun world => life.guard next (code.run server world))
      fun world => life.guard further (code.run more world) := by
  intro world h
  have hrun : code.run server world ≠ .exhausted := by
    intro hex
    simp only [hex] at h
    exact h rfl
  simp only [Effect.Within.run within code world hrun]
  cases hcode : code.run server world with
  | returned result after =>
    simp only [hcode] at h
    exact hnext result after h
  | panicked message after => rfl
  | exhausted => exact absurd hcode hrun

namespace Program

variable (program : Program B)

def initialise (server : Server B (World B)) (life : Life) :
    Effect (World B) (Except WiringError Serial) := fun world =>
  life.guard (fun _ left => .returned (.ok life.serial) (left.finish life.component life.serial))
    (((program.component life.component).init life.serial life.args).run server world)

def hook (server : Server B (World B)) (life : Life) :
    Effect (World B) (Except WiringError Serial) := fun world =>
  life.guard (fun reflection left => program.initialise server life
      (left.beginInit program.settings life.component life.serial life.args reflection))
    (((program.component life.component).hooks life.serial).run server world)

def construct (server : Server B (World B)) (life : Life) :
    Effect (World B) (Except WiringError Serial) := fun world =>
  life.guard (fun _ left => program.hook server life (left.beginHooks life.component))
    (((program.component life.component).construct life.serial).run server world)

variable {program}

theorem acquire_of_known (server : Server B (World B)) {component : Identity} {strict : Bool}
    {world : World B} {answer : Except WiringError Serial}
    (known : (world.slotOf component).answer? component strict = some answer) (args : Value) :
    program.acquire server component args strict world =
      .returned answer (world.provideSlot component) := by
  simp only [acquire, World.slotOf_provideSlot, known]

theorem acquire_of_unknown (server : Server B (World B)) {component : Identity} {strict : Bool}
    {world : World B} (unknown : (world.slotOf component).answer? component strict = none)
    (args : Value) :
    program.acquire server component args strict world =
      program.construct server ⟨component, world.instances.length + 1, args⟩
        ((world.provideSlot component).begin component).2 := by
  have hserial : world.instances.length + 1 =
      ((world.provideSlot component).begin component).1 := by
    rw [← World.instances_provideSlot world component]
    rfl
  rw [hserial]
  simp only [acquire, World.slotOf_provideSlot, unknown, sequence, Effect.onPanic, Functor.map,
    Effect.bind_apply, Effect.take_apply, Outcome.bind_returned, construct]
  generalize (world.provideSlot component).begin component = begun
  cases ((program.component component).construct begun.1).run server begun.2 with
  | panicked message left => rfl
  | exhausted => rfl
  | returned _ made =>
    simp only [Outcome.bind_returned, Effect.bind_apply, Effect.modify_apply, Life.guard, hook]
    cases ((program.component component).hooks begun.1).run server (made.beginHooks component) with
    | panicked message left => rfl
    | exhausted => rfl
    | returned reflection hooked =>
      simp only [Outcome.bind_returned, Effect.bind_apply, Effect.modify_apply, Life.guard,
        initialise]
      cases ((program.component component).init begun.1 args).run server
          (hooked.beginInit program.settings component begun.1 args reflection) with
      | panicked message left => rfl
      | exhausted => rfl
      | returned _ left => rfl

variable (program α) in
def Serves (server : Server B (World B)) : Prop :=
  ∀ (request : Request B) {ρ : Type} (resume : Except String request.Answer → Code B ρ)
    (stack : Stack B α ρ) (world : World B) (q : Point B α),
    (server request world).point? resume stack = some q →
      Relation.TransGen program.Step ⟨.ask request resume, stack, world⟩ q

namespace Serves

variable {server : Server B (World B)}

theorem run (serves : program.Serves α server) (code : Code B ρ) (stack : Stack B α ρ)
    {world : World B} {q : Point B α}
    (h : (code.run server world).point? Code.ended stack = some q) :
    program.Leads ⟨code, stack, world⟩ q := by
  induction code generalizing world with
  | done result => cases h; exact .refl
  | panic message => cases h; exact .refl
  | ask request resume ih =>
    cases hanswer : server request world with
    | returned answer after =>
      simp only [Code.run, hanswer] at h
      have hto := serves request resume stack world _ (by rw [hanswer]; rfl)
      exact hto.to_reflTransGen.trans (ih _ h)
    | panicked message after =>
      simp only [Code.run, hanswer] at h
      have hto := serves request resume stack world _ (by rw [hanswer]; rfl)
      exact hto.to_reflTransGen.trans (ih _ h)
    | exhausted =>
      simp only [Code.run, hanswer] at h
      cases h

theorem run_bind (serves : program.Serves α server) (code : Code B ρ) (next : ρ → Code B τ)
    (stack : Stack B α τ) {world after : World B} {result : ρ}
    (h : code.run server world = .returned result after) :
    program.Leads ⟨code.bind next, stack, world⟩ ⟨next result, stack, after⟩ := by
  induction code generalizing world with
  | done result => cases h; exact .refl
  | panic message => cases h
  | ask request resume ih =>
    simp only [Code.run] at h
    cases hanswer : server request world with
    | returned answer left =>
      simp only [hanswer] at h
      have hto := serves request (fun answer => (resume answer).bind next) stack world _
        (by rw [hanswer]; rfl)
      exact hto.to_reflTransGen.trans (ih _ h)
    | panicked message left =>
      simp only [hanswer] at h
      have hto := serves request (fun answer => (resume answer).bind next) stack world _
        (by rw [hanswer]; rfl)
      exact hto.to_reflTransGen.trans (ih _ h)
    | exhausted =>
      simp only [hanswer] at h
      cases h

theorem guard (serves : program.Serves α server) {life : Life} (phase : Phase)
    {resume : Except String (Except WiringError Serial) → Code B ρ} {stack : Stack B α ρ}
    {next : phase.Result B → Effect (World B) (Except WiringError Serial)}
    (hnext : ∀ result world q, (next result world).point? resume stack = some q →
      program.Leads ⟨.done result, .sequence life phase resume stack, world⟩ q)
    (code : Code B (phase.Result B)) {world : World B} {q : Point B α}
    (h : (life.guard next (code.run server world)).point? resume stack = some q) :
    program.Leads ⟨code, .sequence life phase resume stack, world⟩ q := by
  cases hrun : code.run server world with
  | returned result after =>
    rw [hrun] at h
    exact (serves.run code _ (by rw [hrun]; rfl)).trans (hnext result after q h)
  | panicked message after =>
    rw [hrun] at h
    cases h
    have raised := serves.run code (.sequence life phase resume stack) (by rw [hrun]; rfl)
    exact raised.tail (.fails message life phase resume stack after)
  | exhausted => rw [hrun] at h; cases h

theorem construct (serves : program.Serves α server) (life : Life)
    {resume : Except String (Except WiringError Serial) → Code B ρ} {stack : Stack B α ρ}
    {world : World B} {q : Point B α}
    (h : (program.construct server life world).point? resume stack = some q) :
    program.Leads ⟨(program.component life.component).construct life.serial,
      .sequence life .constructing resume stack, world⟩ q := by
  refine serves.guard .constructing (fun _ made q hq =>
    .head (.hooks life resume stack made) ?_) _ h
  refine serves.guard .hooking (fun reflection hooked q hq =>
    .head (.inits life reflection resume stack hooked) ?_) _ hq
  refine serves.guard .initialising (fun _ left q hq => ?_) _ hq
  cases hq
  exact .single (.finishes life resume stack left)

end Serves

theorem serves_serve (depth : Nat) : program.Serves α (program.serve depth) := by
  induction depth with
  | zero =>
    intro request ρ resume stack world q h
    cases request with
    | query query => cases h; exact .single (.query query resume stack world)
    | acquire | call => cases h
  | succ depth ih =>
    intro request ρ resume stack world q h
    cases request with
    | query query => cases h; exact .single (.query query resume stack world)
    | acquire component args strict =>
      simp only [serve] at h
      cases known : (world.slotOf component).answer? component strict with
      | some answer =>
        rw [acquire_of_known _ known] at h
        cases h
        exact .single (.answer component args strict resume stack world answer known)
      | none =>
        rw [acquire_of_unknown _ known] at h
        exact .head' (.begins component args strict resume stack world known) (ih.construct _ h)
    | call callback args =>
      refine .head' (.calls callback args resume stack world) ?_
      simp only [serve] at h
      cases hrun : (program.invoke callback args).run (program.serve depth) world with
      | returned answer after =>
        rw [hrun] at h
        cases h
        exact (ih.run _ _ (by rw [hrun]; rfl)).tail (.returns answer resume stack after)
      | panicked message after =>
        rw [hrun] at h
        cases h
        exact (ih.run _ _ (by rw [hrun]; rfl)).tail (.escapes message resume stack after)
      | exhausted => rw [hrun] at h; cases h

theorem run_query {τ : Type} (depth : Nat) (query : Query B)
    (resume : Except String query.Answer → Code B τ) (world : World B) :
    (Code.ask (.query query) resume).run (program.serve depth) world =
      (resume (.ok (world.answer query).1)).run (program.serve depth) (world.answer query).2 := by
  cases depth <;> rfl

theorem run_query_bind {τ : Type} (depth : Nat) (query : Query B)
    (next : query.Answer → Code B τ) (world : World B) :
    ((Code.query query).bind next).run (program.serve depth) world =
      (next (world.answer query).1).run (program.serve depth) (world.answer query).2 :=
  run_query depth query _ world

theorem step_withHost {τ : Type} {code : Code B (Except CallbackError τ)} {world : World B}
    (alive : world.hostAlive = true) (stack : Stack B α (Except CallbackError τ)) :
    program.step ⟨withHost code, stack, world⟩ = some ⟨code, stack, world⟩ := by
  change some (⟨if world.hostAlive = true then code else _, stack, world⟩ : Point B α) = _
  rw [if_pos alive]

theorem run_withHost {τ : Type} {code : Code B (Except CallbackError τ)} {world : World B}
    (alive : world.hostAlive = true) (depth : Nat) :
    (withHost code).run (program.serve depth) world = code.run (program.serve depth) world := by
  refine (run_query_bind depth .hostAlive _ world).trans ?_
  change (if world.hostAlive = true then code else _).run (program.serve depth) world = _
  rw [if_pos alive]

section Within

variable {server more : Server B (World B)}
variable (within : ∀ request, (server request).Within (more request)) (life : Life)
include within

theorem initialise_within :
    (program.initialise server life).Within (program.initialise more life) :=
  Life.guard_within within life (fun _ _ _ => rfl) _

theorem hook_within : (program.hook server life).Within (program.hook more life) :=
  Life.guard_within within life (fun _ _ => initialise_within within life _) _

theorem construct_within :
    (program.construct server life).Within (program.construct more life) :=
  Life.guard_within within life (fun _ _ => hook_within within life _) _

end Within

theorem serve_within {depth more : Nat} (le : depth ≤ more) (request : Request B) :
    (program.serve depth request).Within (program.serve more request) := by
  induction depth generalizing more request with
  | zero =>
    intro world h
    cases request with
    | query query => cases more <;> rfl
    | acquire | call => exact absurd rfl h
  | succ depth ih =>
    obtain ⟨more, rfl⟩ : ∃ n, more = n + 1 := ⟨more - 1, by omega⟩
    have within := ih (Nat.le_of_succ_le_succ le)
    intro world h
    cases request with
    | query query => rfl
    | acquire component args strict =>
      simp only [serve] at h ⊢
      cases known : (world.slotOf component).answer? component strict with
      | some answer => rw [acquire_of_known _ known, acquire_of_known _ known]
      | none =>
        rw [acquire_of_unknown _ known] at h ⊢
        rw [acquire_of_unknown _ known]
        exact construct_within within _ _ h
    | call callback args => exact Effect.Within.run within _ world h

theorem run_serve_of_le {depth more : Nat} (le : depth ≤ more) {code : Code B ρ}
    {world : World B} (h : code.run (program.serve depth) world ≠ .exhausted) :
    code.run (program.serve more) world = code.run (program.serve depth) world :=
  Effect.Within.run (serve_within le) code world h

variable (program) in
def Halts (p : Point B α) : Prop :=
  Acc (fun q p => program.Step p q) p

variable (program) in
def Settles (p : Point B α) : Prop :=
  ∃ depth, p.code.run (program.serve depth) p.world ≠ .exhausted

section Settling

variable {p : Point B α} (later : ∀ q, Relation.TransGen program.Step p q → program.Settles q)
include later

theorem guard_settles {life : Life} (phase : Phase)
    {resume : Except String (Except WiringError Serial) → Code B ρ} {stack : Stack B α ρ}
    {next : Nat → phase.Result B → Effect (World B) (Except WiringError Serial)}
    (within : ∀ {depth more}, depth ≤ more → ∀ result,
      (next depth result).Within (next more result))
    (hnext : ∀ result world,
      Relation.TransGen program.Step p ⟨.done result, .sequence life phase resume stack, world⟩ →
        ∃ depth, next depth result world ≠ .exhausted)
    {code : Code B (phase.Result B)} {world : World B}
    (reached : Relation.TransGen program.Step p
      ⟨code, .sequence life phase resume stack, world⟩) :
    ∃ depth, life.guard (next depth) (code.run (program.serve depth) world) ≠ .exhausted := by
  obtain ⟨depth, hrun⟩ := later _ reached
  cases hcode : code.run (program.serve depth) world with
  | exhausted => exact absurd hcode hrun
  | panicked message after => exact ⟨depth, by rw [hcode]; exact nofun⟩
  | returned result after =>
    have hdone := (serves_serve depth).run code (.sequence life phase resume stack)
      (by rw [hcode]; rfl)
    obtain ⟨more, hmore⟩ := hnext result after (reached.trans_left hdone)
    refine ⟨max depth more, ?_⟩
    rw [run_serve_of_le (Nat.le_max_left depth more) hrun, hcode]
    change next _ result after ≠ _
    rw [within (Nat.le_max_right depth more) result after hmore]
    exact hmore

theorem construct_settles (life : Life)
    {resume : Except String (Except WiringError Serial) → Code B ρ} {stack : Stack B α ρ}
    {world : World B}
    (reached : Relation.TransGen program.Step p
      ⟨(program.component life.component).construct life.serial,
        .sequence life .constructing resume stack, world⟩) :
    ∃ depth, program.construct (program.serve depth) life world ≠ .exhausted := by
  refine guard_settles later .constructing ?_ (fun _ made hmade => ?_) reached
  · intro _ _ le _ world
    exact hook_within (serve_within le) life _
  refine guard_settles later .hooking ?_ (fun reflection hooked hhooked => ?_)
    (hmade.tail (.hooks life resume stack made))
  · intro _ _ le _ world
    exact initialise_within (serve_within le) life _
  refine guard_settles later .initialising ?_ (fun _ left _ => ?_)
    (hhooked.tail (.inits life reflection resume stack hooked))
  · intro _ _ _ _ _ _
    rfl
  · exact ⟨0, nofun⟩

theorem request_settles {request : Request B} {resume : Except String request.Answer → Code B ρ}
    {stack : Stack B α ρ} {world : World B} (h : p = ⟨.ask request resume, stack, world⟩) :
    ∃ depth, program.serve depth request world ≠ .exhausted := by
  subst h
  cases request with
  | query query => exact ⟨0, nofun⟩
  | acquire component args strict =>
    cases known : (world.slotOf component).answer? component strict with
    | some answer =>
      refine ⟨1, ?_⟩
      simp only [serve, acquire_of_known _ known]
      exact nofun
    | none =>
      obtain ⟨depth, h⟩ := construct_settles later ⟨component, world.instances.length + 1, args⟩
        (.single (.begins component args strict resume stack world known))
      refine ⟨depth + 1, ?_⟩
      simp only [serve, acquire_of_unknown _ known]
      exact h
  | call callback args =>
    obtain ⟨depth, h⟩ := later _ (.single (.calls callback args resume stack world))
    exact ⟨depth + 1, h⟩

end Settling

theorem Halts.settles {p : Point B α} (halts : program.Halts p) : program.Settles p := by
  -- The steps of a request come to the code that goes on with the answer, so the induction has
  -- to reach past single steps.
  have hacc : Acc (Relation.TransGen fun q p => program.Step p q) p := halts.transGen
  clear halts
  induction hacc with
  | intro p _ ih =>
    obtain ⟨code, stack, world⟩ := p
    have later (q : Point B α)
        (h : Relation.TransGen program.Step ⟨code, stack, world⟩ q) : program.Settles q :=
      ih q (Relation.transGen_swap.mpr h)
    cases code with
    | done result => exact ⟨0, nofun⟩
    | panic message => exact ⟨0, nofun⟩
    | ask request resume =>
      obtain ⟨depth, hrequest⟩ := request_settles later rfl
      have hafter (q : Point B α)
          (hq : (program.serve depth request world).point? resume stack = some q) :
          ∃ more, depth ≤ more ∧ q.code.run (program.serve more) q.world ≠ .exhausted := by
        obtain ⟨more, hmore⟩ := later q (serves_serve depth request resume stack world q hq)
        refine ⟨max depth more, Nat.le_max_left .., ?_⟩
        rw [run_serve_of_le (Nat.le_max_right depth more) hmore]
        exact hmore
      cases hanswer : program.serve depth request world with
      | returned answer after =>
        obtain ⟨more, le, hmore⟩ := hafter _ (by rw [hanswer]; rfl)
        refine ⟨more, ?_⟩
        simp only [Code.run, serve_within le request world hrequest, hanswer]
        exact hmore
      | panicked message after =>
        obtain ⟨more, le, hmore⟩ := hafter _ (by rw [hanswer]; rfl)
        refine ⟨more, ?_⟩
        simp only [Code.run, serve_within le request world hrequest, hanswer]
        exact hmore
      | exhausted => exact absurd hanswer hrequest

theorem Halts.of_step {p q : Point B α} (step : program.Step p q) (halts : program.Halts q) :
    program.Halts p :=
  ⟨p, fun _ other => step.unique other ▸ halts⟩

theorem Halts.of_leads {p q : Point B α} (halts : program.Halts p) (leads : program.Leads p q) :
    program.Halts q := by
  induction leads with
  | refl => exact halts
  | tail _ step ih => exact ih.inv step

theorem Halts.exists_end {p : Point B α} (halts : program.Halts p) :
    ∃ q, program.Leads p q ∧ program.step q = none := by
  induction halts with
  | intro p _ ih =>
    cases h : program.step p with
    | none => exact ⟨p, .refl, h⟩
    | some next =>
      obtain ⟨q, leads, qend⟩ := ih next (.of_eq h)
      exact ⟨q, .head (.of_eq h) leads, qend⟩

theorem Halts.request_settles {request : Request B}
    {resume : Except String request.Answer → Code B ρ} {stack : Stack B α ρ} {world : World B}
    (halts : program.Halts ⟨.ask request resume, stack, world⟩) :
    ∃ depth, program.serve depth request world ≠ .exhausted :=
  Program.request_settles (fun _ reached => (halts.of_leads reached.to_reflTransGen).settles) rfl

section Sequence

variable {server : Server B (World B)} {life : Life}
variable {resume : Except String (Except WiringError Serial) → Code B ρ} {stack : Stack B α ρ}

theorem guard_returned {τ : Type} {next : τ → Effect (World B) (Except WiringError Serial)}
    {outcome : Outcome (World B) τ} {answer : Except WiringError Serial} {after : World B}
    (h : life.guard next outcome = .returned answer after) :
    ∃ result left, next result left = .returned answer after := by
  cases outcome with
  | returned result left => exact ⟨result, left, h⟩
  | panicked | exhausted => cases h

theorem construct_returned {world after : World B} {answer : Except WiringError Serial}
    (h : program.construct server life world = .returned answer after) :
    answer = .ok life.serial ∧
      after.slot? life.component = some { state := .ready, instance? := some life.serial } := by
  obtain ⟨_, _, h⟩ := guard_returned h
  obtain ⟨_, _, h⟩ := guard_returned h
  obtain ⟨_, left, h⟩ := guard_returned h
  cases h
  exact ⟨rfl, (World.slot?_finish ..).trans (if_pos rfl)⟩

theorem guard_panicked (serves : program.Serves α server) (phase : Phase)
    {next : phase.Result B → Effect (World B) (Except WiringError Serial)}
    {code : Code B (phase.Result B)} {message : String} {world after : World B}
    (h : life.guard next (code.run server world) = .panicked message after) :
    (∃ left, program.Leads ⟨code, .sequence life phase resume stack, world⟩
      ⟨.panic message, .sequence life phase resume stack, left⟩) ∨
    ∃ result left, next result left = .panicked message after ∧
      program.Leads ⟨code, .sequence life phase resume stack, world⟩
        ⟨.done result, .sequence life phase resume stack, left⟩ := by
  cases hrun : code.run server world with
  | returned result left =>
    rw [hrun] at h
    exact .inr ⟨result, left, h, serves.run code _ (by rw [hrun]; rfl)⟩
  | panicked raised left =>
    rw [hrun] at h
    cases h
    exact .inl ⟨left, serves.run code _ (by rw [hrun]; rfl)⟩
  | exhausted => rw [hrun] at h; cases h

theorem construct_panicked (serves : program.Serves α server) {message : String}
    {world after : World B}
    (h : program.construct server life world = .panicked message after) :
    ∃ phase left, program.Leads
      ⟨(program.component life.component).construct life.serial,
        .sequence life .constructing resume stack, world⟩
      ⟨.panic message, .sequence life phase resume stack, left⟩ := by
  rcases guard_panicked serves .constructing h with ⟨left, leads⟩ | ⟨_, made, h, hmade⟩
  · exact ⟨_, left, leads⟩
  have hhooks := hmade.tail (.hooks life resume stack made)
  rcases guard_panicked serves .hooking h with ⟨left, leads⟩ | ⟨reflection, hooked, h, hhooked⟩
  · exact ⟨_, left, hhooks.trans leads⟩
  have hinits := (hhooks.trans hhooked).tail (.inits life reflection resume stack hooked)
  rcases guard_panicked serves .initialising h with ⟨left, leads⟩ | ⟨_, _, h, -⟩
  · exact ⟨_, left, hinits.trans leads⟩
  · cases h

end Sequence

theorem halts_of_leads {p q : Point B α} (leads : program.Leads p q)
    (hend : program.step q = none) : program.Halts p := by
  induction leads using Relation.ReflTransGen.head_induction_on with
  | refl =>
    refine ⟨q, fun r step => ?_⟩
    rw [step.eq] at hend
    cases hend
  | head step _ ih => exact .of_step step ih

theorem leads_end_unique {p q r : Point B α} (hq : program.Leads p q) (hr : program.Leads p r)
    (qend : program.step q = none) (rend : program.step r = none) : q = r := by
  have hstop {a b : Point B α} (h : program.Leads a b) (hend : program.step a = none) :
      b = a := by
    rcases h.cases_head with heq | ⟨c, step, _⟩
    · exact heq.symm
    · rw [step.eq] at hend
      cases hend
  have unique : Relator.RightUnique (program.Step (α := α)) := fun _ _ _ => Step.unique
  rcases Relation.ReflTransGen.total_of_right_unique unique hq hr with h | h
  · exact (hstop h qend).symm
  · exact hstop h rend

/-- A client that is run to a great enough depth ends as the client that is run step by step. -/
theorem run_iff_leads (client : Code B α) (world : World B) (q : Point B α) :
    (∃ depth, ∀ more, depth ≤ more →
      (client.run (program.serve more) world).point? Code.ended .client = some q) ↔
      program.Leads ⟨client, .client, world⟩ q ∧ program.step q = none := by
  have hend (depth : Nat) (r : Point B α)
      (h : (client.run (program.serve depth) world).point? Code.ended .client = some r) :
      program.Leads ⟨client, .client, world⟩ r ∧ program.step r = none := by
    refine ⟨(serves_serve depth).run client .client h, ?_⟩
    cases hrun : client.run (program.serve depth) world with
    | returned value after => rw [hrun] at h; cases h; rfl
    | panicked message after => rw [hrun] at h; cases h; rfl
    | exhausted => rw [hrun] at h; cases h
  constructor
  · rintro ⟨depth, h⟩
    exact hend depth q (h depth (Nat.le_refl depth))
  · rintro ⟨leads, qend⟩
    obtain ⟨depth, hdepth⟩ := (halts_of_leads leads qend).settles
    refine ⟨depth, fun more le => ?_⟩
    rw [run_serve_of_le le hdepth]
    have hpoint (r : Point B α)
        (h : (client.run (program.serve depth) world).point? Code.ended .client = some r) :
        r = q := by
      obtain ⟨hr, rend⟩ := hend depth r h
      exact leads_end_unique hr leads rend qend
    cases hrun : client.run (program.serve depth) world with
    | returned value after => rw [hrun] at hpoint; exact congrArg some (hpoint _ rfl)
    | panicked message after => rw [hrun] at hpoint; exact congrArg some (hpoint _ rfl)
    | exhausted => exact absurd hrun hdepth

theorem leads_of_run {client : Code B α} {depth : Nat} {world after : World B} {value : α}
    (h : client.run (program.serve depth) world = .returned value after) :
    program.Leads ⟨client, .client, world⟩ ⟨.done value, .client, after⟩ :=
  (serves_serve depth).run client .client (by rw [h]; rfl)

theorem run_of_leads {client : Code B α} {world after : World B} {value : α}
    (h : program.Leads ⟨client, .client, world⟩ ⟨.done value, .client, after⟩) :
    ∃ depth, ∀ more, depth ≤ more →
      client.run (program.serve more) world = .returned value after := by
  obtain ⟨depth, hdepth⟩ := (run_iff_leads client world _).mpr ⟨h, rfl⟩
  refine ⟨depth, fun more le => ?_⟩
  have hpoint := hdepth more le
  cases hrun : client.run (program.serve more) world with
  | returned found left => rw [hrun] at hpoint; cases hpoint; rfl
  | panicked message left => rw [hrun] at hpoint; cases hpoint
  | exhausted => rw [hrun] at hpoint; cases hpoint

end Program

end HookWiring
