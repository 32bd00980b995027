import HookWiring.Proofs.Answers
import HookWiring.System.Autoload

/-!
# Loading

Loading asks for the components of its records in order and stops at the first that is refused,
because it has failed or because its sequence is running below. What becomes of a record is
settled when its turn comes: components of earlier records may have started it on the way, or have
made it fail. Components that are ready are only looked up, so loading what is loaded changes
nothing.
-/

namespace HookWiring

variable {B : Bodies} {α ρ σ τ : Type}

/-! ### What code requests -/

namespace Code

/-- The requests that code makes itself, each with the state in which it is made. What the code that
they run requests in turn is not among them. -/
def ownRequests (server : Server B σ) : Code B ρ → σ → List (Request B × σ)
  | .done _, _ => []
  | .panic _, _ => []
  | .ask request resume, state => (request, state) :: match server request state with
    | .returned answer after => (resume (.ok answer)).ownRequests server after
    | .panicked message after => (resume (.error message)).ownRequests server after
    | .exhausted => []

variable {server : Server B σ} {state after : σ}

theorem ownRequests_bind {code : Code B ρ} {result : ρ}
    (h : code.run server state = .returned result after) (next : ρ → Code B τ) :
    (code.bind next).ownRequests server state =
      code.ownRequests server state ++ (next result).ownRequests server after := by
  induction code generalizing state with
  | done result => cases h; rfl
  | panic message => cases h
  | ask request resume ih =>
    simp only [run] at h
    simp only [bind, ownRequests, List.cons_append]
    cases hanswer : server request state with
    | returned answer left =>
      simp only [hanswer] at h
      exact congrArg _ (ih _ h)
    | panicked message left =>
      simp only [hanswer] at h
      exact congrArg _ (ih _ h)
    | exhausted =>
      simp only [hanswer] at h
      cases h

theorem run_request (request : Request B) :
    (Code.request request).run server state = server request state := by
  simp only [Code.request, run]
  cases server request state <;> rfl

theorem ownRequests_request (request : Request B) :
    (Code.request request).ownRequests server state = [(request, state)] := by
  simp only [Code.request, ownRequests]
  cases server request state <;> rfl

def loadRest (rest : List Identity) :
    Except WiringError Serial → Code B (Except WiringError Nat)
  | .error error => .done (.error error)
  | .ok _ => (loadAll rest).bind fun loaded => .done (loaded.map (· + 1))

theorem loadAll_cons (component : Identity) (rest : List Identity) :
    (loadAll (component :: rest) : Code B (Except WiringError Nat)) =
      (acquire component .null false).bind (loadRest rest) := by
  refine congrArg (acquire component .null false).bind (funext fun answer => ?_)
  cases answer with
  | error error => rfl
  | ok serial =>
    refine congrArg (loadAll rest).bind (funext fun loaded => ?_)
    cases loaded <;> rfl

theorem run_loadAll_cons (component : Identity) (rest : List Identity) :
    (loadAll (component :: rest)).run server state =
      (server (.acquire component .null false) state).bind fun answer =>
        (loadRest rest answer).run server := by
  rw [loadAll_cons, run_bind, acquire, run_request]

theorem run_loadRest_iff {made : σ} {rest : List Identity} {result : Except WiringError Nat}
    {serial : Serial} : (loadRest rest (.ok serial)).run server made = .returned result after ↔
      ∃ loaded, (loadAll rest).run server made = .returned loaded after ∧
        loaded.map (· + 1) = result := by
  rw [loadRest, run_bind]
  cases (loadAll rest).run server made with
  | returned loaded left =>
    constructor
    · intro h
      cases h
      exact ⟨loaded, rfl, rfl⟩
    · rintro ⟨_, h, rfl⟩
      cases h
      rfl
  | panicked message left => exact iff_of_false nofun (by rintro ⟨_, ⟨⟩, -⟩)
  | exhausted => exact iff_of_false nofun (by rintro ⟨_, ⟨⟩, -⟩)

end Code

/-! ### Components that are ready -/

namespace World

/-- Components that are ready stay as they are: they have the same instance, and no step of their
lives is added. -/
def KeepsReady (world after : World B) : Prop :=
  ∀ component, world.state component = .ready →
    after.slot? component = world.slot? component ∧
      after.milestones component = world.milestones component

theorem KeepsReady.state_eq {world after : World B} (h : world.KeepsReady after)
    {component : Identity} (ready : world.state component = .ready) :
    after.state component = .ready := by
  rw [state, slotOf, (h component ready).1]
  exact ready

theorem KeepsReady.trans {world made after : World B} (h : world.KeepsReady made)
    (h' : made.KeepsReady after) : world.KeepsReady after := by
  intro component ready
  have first := h component ready
  have second := h' component (h.state_eq ready)
  exact ⟨second.1.trans first.1, second.2.trans first.2⟩

end World

section Runs

variable {program : Program B} {client : Code B α} {host : Host B}
variable {past more : List (Point B α)} {now later : Point B α} {component : Identity}

theorem stages_of_ready (run : program.Run (.start client host) past now)
    (further : program.Run now more later) (ready : now.world.state component = .ready) :
    stages (past ++ more) component = stages past component := by
  rw [(run_fits run).state_eq] at ready
  obtain ⟨life, hready⟩ := Stage.eq_ready_of_state ready
  have course := stages_next run further component
  rw [hready] at course ⊢
  exact Stage.eq_of_ready course

theorem keepsReady_of_run (run : program.Run (.start client host) past now)
    (further : program.Run now more later) : now.world.KeepsReady later.world := by
  intro component ready
  have same := stages_of_ready run further ready
  have fits := run_fits (run.append further)
  rw [fits.slot, fits.milestones, same, (run_fits run).slot, (run_fits run).milestones]
  exact ⟨rfl, rfl⟩

theorem observed_call?_of_ready (run : program.Run (.start client host) past now)
    (further : program.Run now more later) (ready : now.world.state component = .ready) :
    observed Point.call? component more = [] := by
  have hcalls := run_calls (run.append further) component
  rw [observed_append, run_calls run, stages_of_ready run further ready] at hcalls
  exact List.append_right_eq_self.mp hcalls

end Runs

/-! ### Turns -/

/-- A request is refused since the component has failed, or since its sequence is running. -/
inductive Refuses (stack : Stack B α ρ) (world : World B) (component : Identity) :
    WiringError → Prop
  | failed (h : world.state component = .failed) : Refuses stack world component (.failed component)
  | reentrant (h : component ∈ stack.components) :
    Refuses stack world component (.reentrant component)

structure RecordTurn (B : Bodies) where
  component : Identity
  world : World B

def RecordTurn.request (turn : RecordTurn B) : Request B × World B :=
  (.acquire turn.component .null false, turn.world)

inductive Loads (program : Program B) (depth : Nat) (stack : Stack B α ρ) :
    List Identity → World B → List (RecordTurn B) → Except WiringError Nat → World B → Prop
  | nil (world : World B) : Loads program depth stack [] world [] (.ok 0) world
  | loaded {component : Identity} {rest : List Identity} {world made after : World B}
      {serial : Serial} {turns : List (RecordTurn B)} {result : Except WiringError Nat}
      (served : program.serve depth (.acquire component .null false) world =
        .returned (.ok serial) made)
      (admitted : ∀ error, ¬Refuses stack world component error)
      (ready : made.state component = .ready) (kept : world.KeepsReady made)
      (loads : Loads program depth stack rest made turns result after) :
      Loads program depth stack (component :: rest) world (⟨component, world⟩ :: turns)
        (result.map (· + 1)) after
  | refused {component : Identity} {world : World B} {error : WiringError}
      (served : program.serve depth (.acquire component .null false) world =
        .returned (.error error) world)
      (refuses : Refuses stack world component error)
      (answered : AnsweredAs program world component false (.error error))
      (rest : List Identity) :
      Loads program depth stack (component :: rest) world [⟨component, world⟩] (.error error) world

structure EndsAt (program : Program B) (stack : Stack B α ρ) (records : List Identity)
    (turns : List (RecordTurn B)) (error : WiringError) (after : World B)
    (earlier : List (RecordTurn B)) (last : RecordTurn B) : Prop where
  turns_eq : turns = earlier ++ [last]
  isPrefix : earlier.map RecordTurn.component ++ [last.component] <+: records
  refuses : Refuses stack last.world last.component error
  answered : AnsweredAs program last.world last.component false (.error error)
  unchanged : after = last.world
  admitted : ∀ turn ∈ earlier, ∀ other, ¬Refuses stack turn.world turn.component other
  ready : ∀ turn ∈ earlier, last.world.state turn.component = .ready

namespace Loads

variable {program : Program B} {depth : Nat} {stack : Stack B α ρ} {records : List Identity}
variable {world after : World B} {turns : List (RecordTurn B)} {result : Except WiringError Nat}

theorem run_eq (loads : Loads program depth stack records world turns result after) :
    (Code.loadAll records).run (program.serve depth) world = .returned result after := by
  induction loads with
  | nil => rfl
  | loaded served _ _ _ _ ih =>
    rw [Code.run_loadAll_cons, served]
    exact Code.run_loadRest_iff.mpr ⟨_, ih, rfl⟩
  | refused served =>
    rw [Code.run_loadAll_cons, served]
    rfl

theorem ownRequests_eq (loads : Loads program depth stack records world turns result after) :
    (Code.loadAll records).ownRequests (program.serve depth) world =
      turns.map RecordTurn.request := by
  have hrun {component : Identity} {world made : World B} {answer : Except WiringError Serial}
      (served : program.serve depth (.acquire component .null false) world =
        .returned answer made) :
      (Code.acquire component .null false).run (program.serve depth) world =
        .returned answer made :=
    (Code.run_request _).trans served
  induction loads with
  | nil => rfl
  | loaded served _ _ _ loads ih =>
    rw [Code.loadAll_cons, Code.ownRequests_bind (hrun served), Code.acquire,
      Code.ownRequests_request, Code.loadRest, Code.ownRequests_bind loads.run_eq, ih]
    exact congrArg _ (List.append_nil _)
  | refused served =>
    rw [Code.loadAll_cons, Code.ownRequests_bind (hrun served), Code.acquire,
      Code.ownRequests_request]
    rfl

theorem map_component_isPrefix
    (loads : Loads program depth stack records world turns result after) :
    turns.map RecordTurn.component <+: records := by
  induction loads with
  | nil => exact List.prefix_rfl
  | loaded _ _ _ _ _ ih => exact List.cons_prefix_cons.mpr ⟨rfl, ih⟩
  | refused _ _ _ rest => exact ⟨rest, rfl⟩

theorem keepsReady (loads : Loads program depth stack records world turns result after) :
    world.KeepsReady after := by
  induction loads with
  | nil | refused => exact fun _ _ => ⟨rfl, rfl⟩
  | loaded _ _ _ kept _ ih => exact kept.trans ih

theorem of_ok {n : Nat} (loads : Loads program depth stack records world turns (.ok n) after) :
    n = records.length ∧ turns.map RecordTurn.component = records ∧
      ∀ component ∈ records, after.state component = .ready := by
  generalize hresult : Except.ok n = result at loads
  induction loads generalizing n with
  | nil => cases hresult; exact ⟨rfl, rfl, nofun⟩
  | refused => cases hresult
  | @loaded component rest world made after serial turns result served _ ready kept loads ih =>
    cases result with
    | error error => cases hresult
    | ok loaded =>
      cases hresult
      obtain ⟨rfl, hturns, hready⟩ := ih rfl
      refine ⟨rfl, congrArg _ hturns, List.forall_mem_cons.mpr ⟨?_, hready⟩⟩
      exact loads.keepsReady.state_eq ready

theorem of_error {error : WiringError}
    (loads : Loads program depth stack records world turns (.error error) after) :
    ∃ earlier last, EndsAt program stack records turns error after earlier last := by
  generalize hresult : Except.error error = result at loads
  induction loads with
  | nil => cases hresult
  | @refused component world error served refuses answered rest =>
    cases hresult
    exact ⟨[], ⟨component, world⟩, rfl, ⟨rest, rfl⟩, refuses, answered, rfl, nofun, nofun⟩
  | @loaded component rest world made after serial turns result served admitted ready kept loads
      ih =>
    cases result with
    | ok loaded => cases hresult
    | error refusal =>
      cases hresult
      obtain ⟨earlier, last, ends⟩ := ih rfl
      refine ⟨⟨component, world⟩ :: earlier, last, ?_⟩
      constructor
      case turns_eq => rw [ends.turns_eq, List.cons_append]
      case isPrefix => exact List.cons_prefix_cons.mpr ⟨rfl, ends.isPrefix⟩
      case refuses => exact ends.refuses
      case answered => exact ends.answered
      case unchanged => exact ends.unchanged
      case admitted => exact List.forall_mem_cons.mpr ⟨admitted, ends.admitted⟩
      case ready =>
        refine List.forall_mem_cons.mpr ⟨?_, ends.ready⟩
        rw [← ends.unchanged]
        exact loads.keepsReady.state_eq ready

end Loads

theorem AnsweredAs.eq_of_served {program : Program B} {world made : World B}
    {component : Identity} {strict : Bool} {args : Value} {depth : Nat}
    {answer expected : Except WiringError Serial}
    (answered : AnsweredAs program world component strict expected)
    (served : program.serve depth (.acquire component args strict) world =
      .returned answer made) : answer = expected ∧ made = world := by
  cases depth with
  | zero => cases served
  | succ depth =>
    rw [(answered args).1] at served
    cases served
    exact ⟨rfl, rfl⟩

section Turns

variable {program : Program B} {client : Code B α} {host : Host B}
variable {past : List (Point B α)} {now : Point B α} {component : Identity}

theorem turn_of_served (run : program.Run (.start client host) past now) {args : Value}
    {depth : Nat} {answer : Except WiringError Serial} {made : World B}
    (served : program.serve depth (.acquire component args false) now.world =
      .returned answer made) :
    (∃ serial, answer = .ok serial ∧
      (∀ error, ¬Refuses now.stack now.world component error) ∧
        made.state component = .ready) ∨
    ∃ error, answer = .error error ∧ Refuses now.stack now.world component error ∧
      AnsweredAs program now.world component false (.error error) ∧ made = now.world := by
  have answers := run_answers run component
  by_cases running : component ∈ now.stack.components
  · have answered := answers.running running false
    obtain ⟨rfl, rfl⟩ := answered.eq_of_served served
    exact .inr ⟨_, rfl, .reentrant running, answered, rfl⟩
  by_cases failed : now.world.state component = .failed
  · have answered := answers.failed failed false
    obtain ⟨rfl, rfl⟩ := answered.eq_of_served served
    exact .inr ⟨_, rfl, .failed failed, answered, rfl⟩
  have admitted (error : WiringError) : ¬Refuses now.stack now.world component error := by
    rintro (h | h)
    · exact failed h
    · exact running h
  by_cases ready : now.world.state component = .ready
  · obtain ⟨serial, -, answered, -⟩ := answers.ready ready
    obtain ⟨rfl, rfl⟩ := answered.eq_of_served served
    exact .inl ⟨serial, rfl, admitted, ready⟩
  · obtain ⟨rfl, hslot, -⟩ := (answers.fresh running failed ready).returned args false depth _ _
      served
    refine .inl ⟨_, rfl, admitted, ?_⟩
    rw [World.state, World.slotOf, hslot]
    rfl

/-- Every record has its turn at a point of one run, on the stack on which the loading began. -/
theorem exists_loads {records : List Identity} {next : Except WiringError Nat → Code B ρ}
    {stack : Stack B α ρ} {world after : World B} {depth : Nat}
    {result : Except WiringError Nat}
    (run : program.Run (.start client host) past ⟨(Code.loadAll records).bind next, stack, world⟩)
    (returned : (Code.loadAll records).run (program.serve depth) world =
      .returned result after) :
    ∃ turns, Loads program depth stack records world turns result after := by
  -- What goes on after the first record is a loading of the others, with a longer continuation.
  induction records generalizing past world next result with
  | nil =>
    cases returned
    exact ⟨[], .nil _⟩
  | cons component rest ih =>
    rw [Code.run_loadAll_cons] at returned
    cases hserved : program.serve depth (.acquire component .null false) world with
    | panicked message left => rw [hserved] at returned; cases returned
    | exhausted => rw [hserved] at returned; cases returned
    | returned answer made =>
      rw [hserved] at returned
      obtain ⟨more, further⟩ := Program.Run.nil.extend ((Program.serves_serve depth).run_bind
        (Code.acquire component .null false) (fun answer => (Code.loadRest rest answer).bind next)
        stack ((Code.run_request _).trans hserved))
      rw [List.nil_append, ← Code.bind_assoc, ← Code.loadAll_cons] at further
      have made_run := run.append further
      rcases turn_of_served run hserved with
        ⟨serial, rfl, admitted, ready⟩ | ⟨error, rfl, refuses, answered, rfl⟩
      · obtain ⟨loaded, hloaded, rfl⟩ := Code.run_loadRest_iff.mp returned
        rw [Code.loadRest, Code.bind_assoc] at made_run
        obtain ⟨turns, loads⟩ := ih made_run hloaded
        exact ⟨_, .loaded hserved admitted ready (keepsReady_of_run run further) loads⟩
      · cases returned
        exact ⟨_, .refused hserved refuses answered rest⟩

theorem run_loadAll_of_ready (run : program.Run (.start client host) past now)
    {records : List Identity} (ready : ∀ component ∈ records, now.world.state component = .ready)
    (depth : Nat) : (Code.loadAll records).run (program.serve (depth + 1)) now.world =
      .returned (.ok records.length) now.world := by
  induction records with
  | nil => rfl
  | cons component rest ih =>
    obtain ⟨first, others⟩ := List.forall_mem_cons.mp ready
    obtain ⟨serial, -, answered, -⟩ := (run_answers run component).ready first
    rw [Code.run_loadAll_cons, (answered .null).1]
    exact Code.run_loadRest_iff.mpr ⟨_, ih others, rfl⟩

end Turns

structure Loading (program : Program B) (depth : Nat) (records : List Identity)
    (next : Except WiringError Nat → Code B ρ) (stack : Stack B α ρ) (world : World B)
    (turns : List (RecordTurn B)) (result : Except WiringError Nat) (after : World B) : Prop where
  requested : (Code.loadAll records).ownRequests (program.serve depth) world =
    turns.map RecordTurn.request
  inOrder : turns.map RecordTurn.component <+: records
  kept : world.KeepsReady after
  uncalled : ∃ more, program.Run ⟨(Code.loadAll records).bind next, stack, world⟩ more
      ⟨next result, stack, after⟩ ∧
    ∀ component, world.state component = .ready → observed Point.call? component more = []
  loaded : ∀ n, result = .ok n → n = records.length ∧ turns.map RecordTurn.component = records ∧
    ∀ component ∈ records, after.state component = .ready
  /-- Right away and at any later point, loading once more has the same result. -/
  again : ∀ n, result = .ok n →
    ∀ more later, program.Run ⟨next result, stack, after⟩ more later → ∀ depth,
      (Code.loadAll records).run (program.serve (depth + 1)) later.world =
        .returned (.ok n) later.world
  refused : ∀ error, result = .error error →
    ∃ earlier last, EndsAt program stack records turns error after earlier last

section Loadings

variable {program : Program B} {client : Code B α} {host : Host B} {past : List (Point B α)}

theorem run_loading {records : List Identity} {next : Except WiringError Nat → Code B ρ}
    {stack : Stack B α ρ} {world after : World B} {depth : Nat}
    {result : Except WiringError Nat}
    (run : program.Run (.start client host) past ⟨(Code.loadAll records).bind next, stack, world⟩)
    (returned : (Code.loadAll records).run (program.serve depth) world =
      .returned result after) :
    ∃ turns, Loading program depth records next stack world turns result after := by
  obtain ⟨turns, loads⟩ := exists_loads run returned
  obtain ⟨more, further⟩ := Program.Run.nil.extend
    ((Program.serves_serve depth).run_bind (Code.loadAll records) next stack returned)
  rw [List.nil_append] at further
  refine ⟨turns, ?_⟩
  constructor
  case requested => exact loads.ownRequests_eq
  case inOrder => exact loads.map_component_isPrefix
  case kept => exact loads.keepsReady
  case uncalled =>
    exact ⟨more, further, fun component ready => observed_call?_of_ready run further ready⟩
  case loaded =>
    rintro n rfl
    exact loads.of_ok
  case again =>
    rintro n rfl later_past later afterwards depth
    obtain ⟨rfl, -, ready⟩ := loads.of_ok
    have run_after := run.append further
    refine run_loadAll_of_ready (run_after.append afterwards) (fun component h => ?_) depth
    exact (keepsReady_of_run run_after afterwards).state_eq (ready component h)
  case refused =>
    rintro error rfl
    exact loads.of_error

end Loadings

def Outcome.any (test : ρ → σ → Bool) : Outcome σ ρ → Bool
  | .returned value state => test value state
  | _ => false

theorem Outcome.exists_of_any {outcome : Outcome σ ρ} {test : ρ → σ → Bool}
    (h : outcome.any test = true) :
    ∃ value state, outcome = .returned value state ∧ test value state = true := by
  cases outcome with
  | returned value state => exact ⟨value, state, rfl, h⟩
  | panicked | exhausted => cases h

def refusal? : Except WiringError Nat → Option WiringError
  | .error error => some error
  | .ok _ => none

def crew : List Identity :=
  ["mate", "captain", "cook"]

def muster : Program plainBodies where
  settings := {}
  component identity :=
    { construct := fun _ => .done ()
      hooks := fun _ => .done none
      init := fun _ _ =>
        if identity = "captain" then (Code.loadAll crew).bind fun _ => .done () else .done () }
  method := nofun
  setter := nofun
  handler := nofun

def captain : Life :=
  ⟨"captain", 1, .null⟩

def boarding : World plainBodies :=
  (((World.provideSlot {} "captain").begin "captain").2.beginHooks "captain").beginInit {} "captain"
    1 .null none

def boardingStack : Stack plainBodies (Except String (Except WiringError Serial)) Unit :=
  .sequence captain .initialising .done .client

theorem exists_run_boarding : ∃ past,
    muster.Run (.start (.ask (.acquire "captain" .null false) .done) {}) past
      ⟨(Code.loadAll crew).bind fun _ => .done (), boardingStack, boarding⟩ := by
  have begins : muster.Step (.start (.ask (.acquire "captain" .null false) .done) {}) _ :=
    .begins "captain" .null false .done .client {} rfl
  have constructed := Program.Run.nil.snoc begins
  have hooked := constructed.snoc (.hooks captain .done .client _)
  have initialised := hooked.snoc (.inits captain none .done .client _)
  have hinit : (muster.component "captain").init 1 .null =
      (Code.loadAll crew).bind fun _ => .done () := by
    simp [muster]
  exact ⟨_, hinit ▸ initialised⟩

/-- The captain is refused on board, where the cook is not asked for any more; a component that
failed while an earlier one was loaded is refused as failed. -/
theorem run_loading_muster :
    (∃ past turns result after,
      muster.Run (.start (.ask (.acquire "captain" .null false) .done) {}) past
        ⟨(Code.loadAll crew).bind fun _ => .done (), boardingStack, boarding⟩ ∧
      (Code.loadAll crew).run (muster.serve 2) boarding = .returned result after ∧
      Loading muster 2 crew (fun _ => .done ()) boardingStack boarding turns result after ∧
      refusal? result = some (.reentrant "captain") ∧ after.state "mate" = .ready) ∧
    (∃ turns result after, (Code.loadAll ["captain", "mate", "captain"]).run (muster.serve 3) {} =
        .returned result after ∧
      Loading muster 3 ["captain", "mate", "captain"] .done
        (.client : Stack plainBodies (Except WiringError Nat) _) {} turns result after ∧
      result.toOption = some 3) ∧
    ∃ turns result after, (Code.loadAll ["outer", "inner", "spare"]).run (outage.serve 3) {} =
        .returned result after ∧
      Loading outage 3 ["outer", "inner", "spare"] .done
        (.client : Stack plainBodies (Except WiringError Nat) _) {} turns result after ∧
      refusal? result = some (.failed "inner") := by
  refine ⟨?_, ?_, ?_⟩
  · have htest : ((Code.loadAll crew).run (muster.serve 2) boarding).any (fun result after =>
        refusal? result = some (.reentrant "captain") ∧ after.state "mate" = .ready) = true := by
      decide +kernel
    obtain ⟨past, run⟩ := exists_run_boarding
    obtain ⟨result, after, returned, hresult⟩ := Outcome.exists_of_any htest
    obtain ⟨turns, loading⟩ := run_loading run returned
    exact ⟨past, turns, result, after, run, returned, loading, of_decide_eq_true hresult⟩
  · have htest : ((Code.loadAll ["captain", "mate", "captain"]).run (muster.serve 3) {}).any
        (fun result _ => result.toOption = some 3) = true := by
      decide +kernel
    have run : muster.Run (.start ((Code.loadAll ["captain", "mate", "captain"]).bind .done) {}) []
        _ := .nil
    obtain ⟨result, after, returned, hresult⟩ := Outcome.exists_of_any htest
    obtain ⟨turns, loading⟩ := run_loading run returned
    exact ⟨turns, result, after, returned, loading, of_decide_eq_true hresult⟩
  · have htest : ((Code.loadAll ["outer", "inner", "spare"]).run (outage.serve 3) {}).any
        (fun result _ => refusal? result = some (.failed "inner")) = true := by
      decide +kernel
    have run : outage.Run (.start ((Code.loadAll ["outer", "inner", "spare"]).bind .done) {}) []
        _ := .nil
    obtain ⟨result, after, returned, hresult⟩ := Outcome.exists_of_any htest
    obtain ⟨turns, loading⟩ := run_loading run returned
    exact ⟨turns, result, after, returned, loading, of_decide_eq_true hresult⟩

end HookWiring
