import HookWiring.Proofs.Evaluation
import HookWiring.Proofs.OneLife
import HookWiring.Proofs.Slots

/-!
# Secluded components

A component is secluded if its code touches neither the registry nor the host while the component is
started. Such code may still end either way: it returns, or it panics, and this may depend on the
arguments and on what its queries answer. Started, a secluded component comes to be ready if all its
phases return, and to have failed otherwise. It registers its one block if its hooks return, and it
does nothing to other components. Whatever comes later finds its slot as it is.
-/

namespace HookWiring

variable {B : Bodies} {α ρ : Type}

/-- A query that is answered from the instances and the journal alone. -/
def Query.IsSecluded : Query B → Prop
  | .read _ | .store _ _ | .change _ _ | .note _ | .newHandler _ _ _ => True
  | _ => False

/-- Code that makes secluded queries only, with what it may come to: a result, or none for a
panic. -/
inductive Code.Secluded (ends : Option ρ → Prop) : Code B ρ → Prop
  | done {result : ρ} (may : ends (some result)) : Secluded ends (.done result)
  | panic {message : String} (may : ends none) : Secluded ends (.panic message)
  | query {query : Query B} (own : query.IsSecluded)
      {resume : Except String query.Answer → Code B ρ}
      (next : ∀ answer, Secluded ends (resume (.ok answer))) :
      Secluded ends (.ask (.query query) resume)

/-- A finite set of secluded components. What a phase comes to may depend on the life, but the
hooks of a component give one static reflection. -/
structure Seclusion (program : Program B) where
  components : Finset Identity
  reflection : Identity → Option (Reflection B)
  ends : Life → (phase : Phase) → Option (phase.Result B) → Prop
  secluded : ∀ life : Life, life.component ∈ components → ∀ phase,
    (program.code life phase).Secluded (ends life phase)
  static : ∀ life : Life, life.component ∈ components → ∀ given,
    ends life .hooking (some given) → given = reflection life.component

namespace World

structure Kept (world after : World B) : Prop where
  log : after.host.log = world.host.log
  components : after.instances.map Instance.component = world.instances.map Instance.component

theorem kept_answer (world : World B) {query : Query B} (own : query.IsSecluded) :
    world.Kept (world.answer query).2 where
  log := by
    have hnone : query.registered = [] := by
      cases query with
      | register => cases own
      | _ => rfl
    rw [log_answer, hnone, List.append_nil]
  components := world.components_answer query

theorem Kept.trans {world middle after : World B} (first : world.Kept middle)
    (second : middle.Kept after) : world.Kept after where
  log := second.log.trans first.log
  components := second.components.trans first.components

end World

theorem stages_append_quiet {past more : List (Point B α)}
    (quiet : ∀ p ∈ more, p.change? = none) : stages (past ++ more) = stages past := by
  induction more generalizing past with
  | nil => rw [List.append_nil]
  | cons p more ih =>
    obtain ⟨hp, hmore⟩ := List.forall_mem_cons.mp quiet
    rw [List.append_cons, ih hmore, stages_snoc, Point.record_of_none hp]

theorem Code.Secluded.exists_run {code : Code B ρ} {ends : Option ρ → Prop}
    (h : code.Secluded ends) (program : Program B) (stack : Stack B α ρ) (world : World B) :
    ∃ past ending after, program.Run ⟨code, stack, world⟩ past ⟨.ended ending, stack, after⟩ ∧
      (∀ p ∈ past, p.change? = none) ∧ world.Kept after ∧ ends ending.toOption := by
  -- what a query answers may differ from world to world, so the world is general
  induction h generalizing world with
  | @done result may => exact ⟨[], .ok result, world, .nil, nofun, ⟨rfl, rfl⟩, may⟩
  | @panic message may => exact ⟨[], .error message, world, .nil, nofun, ⟨rfl, rfl⟩, may⟩
  | @query query own resume next ih =>
    obtain ⟨past, ending, after, run, quiet, kept, may⟩ :=
      ih (world.answer query).1 (world.answer query).2
    exact ⟨_ :: past, ending, after, run.cons (.query query resume stack world),
      List.forall_mem_cons.mpr ⟨rfl, quiet⟩, (world.kept_answer own).trans kept, may⟩

abbrev Program.inPhase (program : Program B) (life : Life) (phase : Phase)
    (resume : Except String (Except WiringError Serial) → Code B ρ) (below : Stack B α ρ)
    (world : World B) : Point B α :=
  ⟨program.code life phase, .sequence life phase resume below, world⟩

/-- A run that brings one component to a stage and registers a block. -/
structure Brings (program : Program B) (p : Point B α) (past : List (Point B α)) (q : Point B α)
    (component : Identity) (stage : Stage) (block : List (Registration B)) : Prop where
  run : program.Run p past q
  stages : ∀ before,
    stages (before ++ past) = Function.update (HookWiring.stages before) component stage
  log : q.world.host.log = p.world.host.log ++ block
  components : q.world.instances.map Instance.component =
    p.world.instances.map Instance.component

namespace Brings

variable {program : Program B} {p middle q : Point B α} {past more : List (Point B α)}
variable {component : Identity} {stage last : Stage} {block further : List (Registration B)}

theorem of_step (run : program.Run p past middle) (quiet : ∀ p ∈ past, p.change? = none)
    (kept : p.world.Kept middle.world) (step : program.Step middle q)
    (change : middle.change? = some (component, stage))
    (instances : q.world.instances = middle.world.instances) :
    Brings program p (past ++ [middle]) q component stage (middle.registered program.settings) where
  run := run.snoc step
  stages before := by
    rw [← List.append_assoc, stages_snoc, stages_append_quiet quiet, Point.record_of_some change]
  log := by rw [step.log_eq, kept.log]
  components := by rw [instances, kept.components]

theorem trans (first : Brings program p past middle component stage block)
    (second : Brings program middle more q component last further) :
    Brings program p (past ++ more) q component last (block ++ further) where
  run := first.run.append second.run
  stages before := by
    rw [← List.append_assoc, second.stages, first.stages, Function.update_idem]
  log := by rw [second.log, first.log, List.append_assoc]
  components := second.components.trans first.components

end Brings

namespace Seclusion

variable {program : Program B} (s : Seclusion program)

def wiring (life : Life) : List (Registration B) :=
  (s.reflection life.component).elim [] fun reflection =>
    reflection.registrations life.serial program.settings

def blockAt (stage : Stage) : List (Registration B) :=
  stage.hooked.flatMap s.wiring

/-- The sequence of a life is over, in a stage that its code may come to. -/
structure Settled (life : Life) (stage : Stage) : Prop where
  ended : stage = .ready life ∨ ∃ phase, stage = .failed life phase ∧ s.ends life phase none
  returned : ∀ phase ∈ stage.returns.map Prod.snd, ∃ result, s.ends life phase (some result)

variable {s} {life : Life}

theorem Settled.ready (h : ∀ phase, ∃ result, s.ends life phase (some result)) :
    s.Settled life (.ready life) :=
  ⟨.inl rfl, fun phase _ => h phase⟩

theorem Settled.failed {phase : Phase} (panics : s.ends life phase none)
    (h : ∀ earlier ∈ phase.upTo.dropLast, ∃ result, s.ends life earlier (some result)) :
    s.Settled life (.failed life phase) where
  ended := .inr ⟨phase, rfl, panics⟩
  returned earlier hmem := by
    rw [Stage.returns, List.map_map] at hmem
    exact h earlier (by simpa using hmem)

theorem Settled.life?_eq {stage : Stage} (h : s.Settled life stage) : stage.life? = some life := by
  obtain ⟨rfl | ⟨phase, rfl, -⟩, -⟩ := h <;> rfl

section Phases

variable (s) (hmem : life.component ∈ s.components)
variable (resume : Except String (Except WiringError Serial) → Code B ρ) (below : Stack B α ρ)
variable (world : World B)
include hmem

theorem phase_cases (phase : Phase)
    (before : ∀ earlier ∈ phase.upTo.dropLast, ∃ result, s.ends life earlier (some result)) :
    (∃ past result left, program.Run (program.inPhase life phase resume below world) past
        ⟨.done result, .sequence life phase resume below, left⟩ ∧
      (∀ p ∈ past, p.change? = none) ∧ world.Kept left ∧ s.ends life phase (some result)) ∨
    ∃ past answer after, s.Settled life (.failed life phase) ∧
      Brings program (program.inPhase life phase resume below world) past
        ⟨resume answer, below, after⟩ life.component (.failed life phase) [] := by
  obtain ⟨past, ending, left, run, quiet, kept, may⟩ :=
    (s.secluded life hmem phase).exists_run program (.sequence life phase resume below) world
  cases ending with
  | ok result => exact .inl ⟨past, result, left, run, quiet, kept, may⟩
  | error message =>
    exact .inr ⟨_, _, _, .failed may before,
      .of_step run quiet kept (.fails message life phase resume below left) rfl
        (World.instances_fail ..)⟩

theorem initialise_brings
    (before : ∀ phase ∈ [.constructing, .hooking], ∃ result, s.ends life phase (some result)) :
    ∃ stage past answer after, s.Settled life stage ∧ stage.hooked = [life] ∧
      Brings program (program.inPhase life .initialising resume below world) past
        ⟨resume answer, below, after⟩ life.component stage [] := by
  obtain ⟨past, result, left, run, quiet, kept, may⟩ | ⟨past, answer, after, settled, brings⟩ :=
    s.phase_cases hmem resume below world .initialising before
  · refine ⟨.ready life, _, _, _, .ready fun phase => ?_, rfl, .of_step run quiet kept
      (.finishes life resume below left) rfl (World.instances_finish ..)⟩
    cases phase with
    | initialising => exact ⟨result, may⟩
    | constructing | hooking => exact before _ (by decide)
  · exact ⟨_, past, answer, after, settled, rfl, brings⟩

theorem hook_brings (before : ∃ result, s.ends life .constructing (some result)) :
    ∃ stage past answer after, s.Settled life stage ∧
      Brings program (program.inPhase life .hooking resume below world) past
        ⟨resume answer, below, after⟩ life.component stage (s.blockAt stage) := by
  obtain ⟨past, given, left, run, quiet, kept, may⟩ | ⟨past, answer, after, settled, brings⟩ :=
    s.phase_cases hmem resume below world .hooking (by simpa [Phase.upTo] using before)
  · obtain rfl := s.static life hmem given may
    have hinits : Brings program (program.inPhase life .hooking resume below world) _
        (program.inPhase life .initialising resume below _) life.component _ (s.wiring life) :=
      .of_step run quiet kept (.inits life (s.reflection life.component) resume below left) rfl
        (World.instances_beginInit ..)
    obtain ⟨stage, more, answer, after, settled, hhooked, brings⟩ :=
      s.initialise_brings hmem resume below _ (by simpa using ⟨before, _, may⟩)
    have hblock : s.blockAt stage = s.wiring life ++ [] := by rw [blockAt, hhooked]; rfl
    exact ⟨stage, _, answer, after, settled, hblock ▸ hinits.trans brings⟩
  · exact ⟨_, past, answer, after, settled, brings⟩

theorem construct_brings :
    ∃ stage past answer after, s.Settled life stage ∧
      Brings program (program.inPhase life .constructing resume below world) past
        ⟨resume answer, below, after⟩ life.component stage (s.blockAt stage) := by
  obtain ⟨past, made, left, run, quiet, kept, may⟩ | ⟨past, answer, after, settled, brings⟩ :=
    s.phase_cases hmem resume below world .constructing nofun
  · have hhooks := Brings.of_step run quiet kept (.hooks life resume below left) rfl
      (World.instances_beginHooks ..)
    obtain ⟨stage, more, answer, after, settled, brings⟩ :=
      s.hook_brings hmem resume below _ ⟨made, may⟩
    exact ⟨stage, _, answer, after, settled, hhooks.trans brings⟩
  · exact ⟨_, past, answer, after, settled, brings⟩

end Phases

end Seclusion

/-! ### Accesses -/

/-- A client's access to a component; a strict one refuses a component that is there already. -/
structure Access where
  component : Identity
  args : Value := .null
  strict : Bool := false

def Code.accessAll : List Access → Code B Unit
  | [] => .done ()
  | access :: rest =>
    .ask (.acquire access.component access.args access.strict) fun _ => accessAll rest

def noteAccess (order : List Identity) (access : Access) : List Identity :=
  if access.component ∈ order then order else order ++ [access.component]

def firstAccesses (accesses : List Access) : List Identity :=
  accesses.foldl noteAccess []

def firstArgs (accesses : List Access) (component : Identity) : Value :=
  ((accesses.find? fun access => access.component = component).map Access.args).getD .null

def numbering (order : List Identity) (component : Identity) : Serial :=
  order.idxOf component + 1

/-- The life of a component that is started by the first access to it. -/
def firstLife (accesses : List Access) (component : Identity) : Life :=
  ⟨component, numbering (firstAccesses accesses) component, firstArgs accesses component⟩

theorem numbering_append {order : List Identity} {component : Identity} (h : component ∈ order)
    (more : List Identity) : numbering (order ++ more) component = numbering order component := by
  rw [numbering, List.idxOf_append_of_mem h, numbering]

theorem numbering_concat {order : List Identity} {component : Identity} (h : component ∉ order) :
    numbering (order ++ [component]) component = order.length + 1 := by
  rw [numbering, List.idxOf_append_of_notMem h, List.idxOf_cons_self]

theorem mem_noteAccess {order : List Identity} {access : Access} {component : Identity} :
    component ∈ noteAccess order access ↔ component ∈ order ∨ component = access.component := by
  rw [noteAccess]
  split
  · next h => exact ⟨.inl, fun hor => hor.elim id fun heq => heq ▸ h⟩
  · simp

section Accesses

variable {accesses : List Access} {access : Access} {component : Identity}

theorem firstAccesses_concat (accesses : List Access) (access : Access) :
    firstAccesses (accesses ++ [access]) = noteAccess (firstAccesses accesses) access := by
  rw [firstAccesses, List.foldl_concat, firstAccesses]

theorem mem_firstAccesses :
    component ∈ firstAccesses accesses ↔ ∃ access ∈ accesses, access.component = component := by
  induction accesses using List.reverseRecOn with
  | nil => simp [firstAccesses]
  | append_singleton before access ih =>
    rw [firstAccesses_concat, mem_noteAccess, ih]
    simp [or_and_right, exists_or, eq_comm]

theorem nodup_firstAccesses (accesses : List Access) : (firstAccesses accesses).Nodup := by
  induction accesses using List.reverseRecOn with
  | nil => exact List.nodup_nil
  | append_singleton before access ih =>
    rw [firstAccesses_concat, noteAccess]
    split
    · exact ih
    · next h =>
      rw [← List.concat_eq_append]
      exact ih.concat h

theorem firstLife_of_mem (h : component ∈ firstAccesses accesses) (access : Access) :
    firstLife (accesses ++ [access]) component = firstLife accesses component := by
  have hargs : firstArgs (accesses ++ [access]) component = firstArgs accesses component := by
    have hfound : (accesses.find? fun access => access.component = component).isSome := by
      simpa using mem_firstAccesses.mp h
    rw [firstArgs, List.find?_append, Option.or_of_isSome hfound, firstArgs]
  have hnumber : numbering (firstAccesses (accesses ++ [access])) component =
      numbering (firstAccesses accesses) component := by
    rw [firstAccesses_concat, noteAccess]
    split
    · rfl
    · exact numbering_append h _
  rw [firstLife, hargs, hnumber, firstLife]

theorem firstLife_concat (h : access.component ∉ firstAccesses accesses) :
    firstLife (accesses ++ [access]) access.component =
      ⟨access.component, (firstAccesses accesses).length + 1, access.args⟩ := by
  have hargs : firstArgs (accesses ++ [access]) access.component = access.args := by
    have hnone : (accesses.find? fun other => other.component = access.component) = none := by
      simpa using fun other hother heq => h (mem_firstAccesses.mpr ⟨other, hother, heq⟩)
    rw [firstArgs, List.find?_append, hnone]
    simp
  rw [firstLife, hargs, firstAccesses_concat, noteAccess, if_neg h, numbering_concat h]

end Accesses

namespace Seclusion

variable {program : Program B} (s : Seclusion program)

structure Booted (past : List (Point B Unit)) (world : World B) (made : List Access) : Prop where
  settled : ∀ component ∈ firstAccesses made,
    s.Settled (firstLife made component) (stages past component)
  absent : ∀ component, component ∉ firstAccesses made → stages past component = .absent
  log : world.host.log =
    (firstAccesses made).flatMap fun component => s.blockAt (stages past component)
  components : world.instances.map Instance.component = firstAccesses made

variable {s} {client : Code B Unit} {host : Host B} {past : List (Point B Unit)} {world : World B}
variable {made rest : List Access} {access : Access}

theorem Booted.access_known (booted : s.Booted past world made)
    (run : program.Run (.start client host) past
      ⟨.accessAll (access :: rest), .client, world⟩)
    (hknown : access.component ∈ firstAccesses made) :
    ∃ more after, program.Run (.start client host) (past ++ more)
        ⟨.accessAll rest, .client, after⟩ ∧
      s.Booted (past ++ more) after (made ++ [access]) := by
  have hlife := (booted.settled _ hknown).life?_eq
  obtain ⟨slot, hslot⟩ := (run_fits run).slot?_of_life? hlife
  obtain ⟨answer, hanswer⟩ := Stage.answer?_of_life? hlife access.component access.strict
  rw [← (run_fits run).slotOf] at hanswer
  have step : program.Step ⟨.accessAll (access :: rest), .client, world⟩
      ⟨.accessAll rest, .client, world.provideSlot access.component⟩ :=
    .answer access.component access.args access.strict _ .client world answer hanswer
  rw [World.provideSlot_of_slot? hslot] at step
  have hchange : Point.change? ⟨Code.accessAll (access :: rest), .client, world⟩ = none := by
    simp only [Code.accessAll, Point.change?, hanswer]
  have hstages : stages (past ++ [⟨.accessAll (access :: rest), .client, world⟩]) = stages past :=
    stages_append_quiet (List.forall_mem_singleton.mpr hchange)
  have horder : firstAccesses (made ++ [access]) = firstAccesses made := by
    rw [firstAccesses_concat, noteAccess, if_pos hknown]
  refine ⟨_, world, run.snoc step, ?_⟩
  constructor
  case settled =>
    intro component hc
    rw [horder] at hc
    rw [hstages, firstLife_of_mem hc]
    exact booted.settled component hc
  case absent => rw [horder, hstages]; exact booted.absent
  case log => rw [horder, hstages]; exact booted.log
  case components => rw [horder]; exact booted.components

theorem Booted.access_fresh (booted : s.Booted past world made)
    (run : program.Run (.start client host) past
      ⟨.accessAll (access :: rest), .client, world⟩)
    (hmem : access.component ∈ s.components)
    (hfresh : access.component ∉ firstAccesses made) :
    ∃ more after, program.Run (.start client host) (past ++ more)
        ⟨.accessAll rest, .client, after⟩ ∧
      s.Booted (past ++ more) after (made ++ [access]) := by
  -- the instance takes the next number, which is the place of the component in the longer order
  let life : Life := ⟨access.component, world.instances.length + 1, access.args⟩
  have hlength : world.instances.length = (firstAccesses made).length := by
    rw [← booted.components, List.length_map]
  have hlife : life = firstLife (made ++ [access]) access.component := by
    rw [firstLife_concat hfresh, ← hlength]
  have horder : firstAccesses (made ++ [access]) = firstAccesses made ++ [access.component] := by
    rw [firstAccesses_concat, noteAccess, if_neg hfresh]
  have hunknown : (world.slotOf access.component).answer? access.component access.strict =
      none := by
    have hslot : world.slotOf access.component = {} := by
      rw [(run_fits run).slotOf, booted.absent _ hfresh]
      rfl
    rw [hslot]
    rfl
  have step : program.Step ⟨.accessAll (access :: rest), .client, world⟩
      (program.inPhase life .constructing (fun _ => Code.accessAll rest) .client
        ((world.provideSlot access.component).begin access.component).2) :=
    .begins access.component access.args access.strict _ .client world hunknown
  have hchange : Point.change? ⟨Code.accessAll (access :: rest), .client, world⟩ =
      some (access.component, .running life .constructing) := by
    simp only [Code.accessAll, Point.change?, hunknown, life]
  obtain ⟨stage, more, answer, after, settled, brings⟩ : ∃ stage more answer after,
      s.Settled life stage ∧ Brings program (program.inPhase life .constructing _ _ _) more
        ⟨.accessAll rest, .client, after⟩ life.component stage (s.blockAt stage) :=
    s.construct_brings hmem (fun _ => Code.accessAll rest) .client
      ((world.provideSlot access.component).begin access.component).2
  have hstages := brings.stages (past ++ [⟨.accessAll (access :: rest), .client, world⟩])
  rw [stages_snoc, Point.record_of_some hchange, Function.update_idem] at hstages
  have hold {component : Identity} (hc : component ∈ firstAccesses made) :
      Function.update (stages past) access.component stage component =
        stages past component :=
    Function.update_of_ne (ne_of_mem_of_not_mem hc hfresh) _ _
  refine ⟨⟨.accessAll (access :: rest), .client, world⟩ :: more, after, ?_, ?_⟩
  · rw [List.append_cons]
    exact (run.snoc step).append brings.run
  rw [List.append_cons]
  constructor
  case settled =>
    intro component hc
    rw [hstages]
    rw [horder, List.mem_append, List.mem_singleton] at hc
    rcases hc with hc | rfl
    · rw [hold hc, firstLife_of_mem hc]
      exact booted.settled component hc
    · rw [Function.update_self, ← hlife]
      exact settled
  case absent =>
    intro component hc
    rw [horder, List.mem_append, List.mem_singleton, not_or] at hc
    rw [hstages, Function.update_of_ne hc.2]
    exact booted.absent component hc.1
  case log =>
    have hlog : ((world.provideSlot access.component).begin access.component).2.host.log =
        world.host.log := by
      rw [World.host_begin, World.host_provideSlot]
    rw [brings.log, hlog, booted.log, horder, List.flatMap_append, List.flatMap_singleton, hstages,
      Function.update_self]
    congr 1
    refine List.flatMap_congr fun component hc => ?_
    rw [hold hc]
  case components =>
    rw [brings.components, World.instances_begin, World.instances_provideSlot, List.map_append,
      booted.components, horder]
    rfl

theorem Booted.access_all (booted : s.Booted past world made)
    (run : program.Run (.start client host) past ⟨.accessAll rest, .client, world⟩)
    (hmem : ∀ access ∈ rest, access.component ∈ s.components) :
    ∃ more after, program.Run (.start client host) (past ++ more) ⟨.done (), .client, after⟩ ∧
      s.Booted (past ++ more) after (made ++ rest) := by
  induction rest generalizing past world made with
  | nil => exact ⟨[], world, by rwa [List.append_nil], by rwa [List.append_nil, List.append_nil]⟩
  | cons access rest ih =>
    obtain ⟨haccess, hrest⟩ := List.forall_mem_cons.mp hmem
    obtain ⟨more, middle, hmiddle, booted⟩ : ∃ more after,
        program.Run (.start client host) (past ++ more) ⟨.accessAll rest, .client, after⟩ ∧
          s.Booted (past ++ more) after (made ++ [access]) := by
      by_cases hknown : access.component ∈ firstAccesses made
      · exact booted.access_known run hknown
      · exact booted.access_fresh run haccess hknown
    obtain ⟨further, after, hafter, booted⟩ := ih booted hmiddle hrest
    rw [List.append_assoc] at hafter
    rw [List.append_assoc, ← List.append_cons] at booted
    exact ⟨more ++ further, after, hafter, booted⟩

variable (s) in
theorem exists_booted {accesses : List Access}
    (hmem : ∀ access ∈ accesses, access.component ∈ s.components) :
    ∃ past after, program.Run (.start (.accessAll accesses) {}) past ⟨.done (), .client, after⟩ ∧
      s.Booted past after accesses := by
  have empty : s.Booted [] {} [] :=
    { settled := nofun, absent := fun _ _ => rfl, log := rfl, components := rfl }
  exact empty.access_all .nil hmem

end Seclusion

end HookWiring
