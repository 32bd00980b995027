import HookWiring.Proofs.Machine
import Mathlib.Logic.Function.Basic

/-!
# Stages of components

The stage of a component is read off the history of a run: it is absent, its sequence is running
in some phase, or the sequence has come to its end or to a failure. A step changes the stage of
one component at most, and only to a next one. From the stages follow the slots of the registry,
the milestones in the journal and the sequences on the stack.
-/

namespace HookWiring

variable {B : Bodies} {α : Type}

inductive Stage where
  | absent
  | running (life : Life) (phase : Phase)
  | ready (life : Life)
  | failed (life : Life) (phase : Phase)

/-- What an observer sees while the code of a phase is running. -/
def Phase.state : Phase → LifecycleState
  | .constructing => .uninitialized
  | .hooking => .constructed
  | .initialising => .hooked

def Phase.milestones (life : Life) : Phase → List Milestone
  | .constructing => [.constructing life.serial]
  | .hooking => [.constructing life.serial, .hooking]
  | .initialising => [.constructing life.serial, .hooking, .initialising life.args]

inductive Shape where
  | running (phase : Phase)
  | ready (serial : Serial)
  | failed
  deriving DecidableEq

namespace Shape

def slot : Shape → Slot
  | .running phase => { state := phase.state, instance? := none, constructing := true }
  | .ready serial => { state := .ready, instance? := some serial, constructing := false }
  | .failed => { state := .failed, instance? := none, constructing := false }

section Answers

variable (phase : Phase) (serial : Serial) (component : Identity) (strict : Bool)

@[simp] theorem answer?_running :
    (running phase).slot.answer? component strict = some (.error (.reentrant component)) :=
  rfl

@[simp] theorem answer?_ready : (ready serial).slot.answer? component strict =
    some (if strict then .error (.duplicate component) else .ok serial) :=
  rfl

@[simp] theorem answer?_failed :
    failed.slot.answer? component strict = some (.error (.failed component)) :=
  rfl

@[simp] theorem ready?_running : (running phase).slot.ready? = none :=
  rfl

@[simp] theorem ready?_ready : (ready serial).slot.ready? = some serial :=
  rfl

@[simp] theorem ready?_failed : failed.slot.ready? = none :=
  rfl

end Answers

end Shape

namespace Stage

def life? : Stage → Option Life
  | .absent => none
  | .running life _ => some life
  | .ready life => some life
  | .failed life _ => some life

def shape? : Stage → Option Shape
  | .absent => none
  | .running _ phase => some (.running phase)
  | .ready life => some (.ready life.serial)
  | .failed _ _ => some .failed

def slot? (stage : Stage) : Option Slot :=
  stage.shape?.map Shape.slot

def milestones : Stage → List Milestone
  | .absent => []
  | .running life phase => phase.milestones life
  | .ready life => Phase.initialising.milestones life ++ [.ready]
  | .failed life phase => phase.milestones life ++ [.failed]

def sequences : Stage → List (Life × Phase)
  | .running life phase => [(life, phase)]
  | _ => []

inductive Next : Stage → Stage → Prop
  | begins (life : Life) : Next .absent (.running life .constructing)
  | hooks (life : Life) : Next (.running life .constructing) (.running life .hooking)
  | inits (life : Life) : Next (.running life .hooking) (.running life .initialising)
  | finishes (life : Life) : Next (.running life .initialising) (.ready life)
  | fails (life : Life) (phase : Phase) : Next (.running life phase) (.failed life phase)

theorem eq_ready_of_state {stage : Stage} (h : (stage.slot?.getD {}).state = .ready) :
    ∃ life, stage = .ready life := by
  cases stage with
  | ready life => exact ⟨life, rfl⟩
  | running life phase => cases phase <;> cases h
  | absent | failed => cases h

theorem mem_sequences_iff {stage : Stage} {life : Life} {phase : Phase} :
    (life, phase) ∈ stage.sequences ↔ stage = .running life phase := by
  cases stage <;> simp [sequences, eq_comm]

theorem Next.life?_eq {s t : Stage} (next : Next s t) {life : Life} (h : s.life? = some life) :
    t.life? = some life := by
  cases next <;> simp_all [life?]

theorem life?_of_course {s t : Stage} (h : Relation.ReflTransGen Next s t) {life : Life}
    (hlife : s.life? = some life) : t.life? = some life := by
  induction h with
  | refl => exact hlife
  | tail _ next ih => exact next.life?_eq ih

theorem eq_of_ready {life : Life} {stage : Stage}
    (h : Relation.ReflTransGen Next (.ready life) stage) : stage = .ready life := by
  induction h with
  | refl => rfl
  | tail _ next ih => subst ih; cases next

theorem eq_of_failed {life : Life} {phase : Phase} {stage : Stage}
    (h : Relation.ReflTransGen Next (.failed life phase) stage) : stage = .failed life phase := by
  induction h with
  | refl => rfl
  | tail _ next ih => subst ih; cases next

end Stage

namespace Point

def change? : Point B α → Option (Identity × Stage)
  | ⟨.ask (.acquire component args strict) _, _, world⟩ =>
    match (world.slotOf component).answer? component strict with
    | some _ => none
    | none =>
      some (component, .running ⟨component, world.instances.length + 1, args⟩ .constructing)
  | ⟨.done _, .sequence life .constructing _ _, _⟩ => some (life.component, .running life .hooking)
  | ⟨.done _, .sequence life .hooking _ _, _⟩ =>
    some (life.component, .running life .initialising)
  | ⟨.done _, .sequence life .initialising _ _, _⟩ => some (life.component, .ready life)
  | ⟨.panic _, .sequence life phase _ _, _⟩ => some (life.component, .failed life phase)
  | _ => none

def record (point : Point B α) (stages : Identity → Stage) : Identity → Stage :=
  match point.change? with
  | some (component, stage) => Function.update stages component stage
  | none => stages

theorem record_of_none {point : Point B α} (h : point.change? = none)
    (stages : Identity → Stage) : point.record stages = stages := by
  rw [record, h]

theorem record_of_some {point : Point B α} {component : Identity} {stage : Stage}
    (h : point.change? = some (component, stage)) (stages : Identity → Stage) :
    point.record stages = Function.update stages component stage := by
  rw [record, h]

end Point

def stages (past : List (Point B α)) : Identity → Stage :=
  past.foldl (fun stages point => point.record stages) fun _ => .absent

theorem stages_snoc (past : List (Point B α)) (p : Point B α) :
    stages (past ++ [p]) = p.record (stages past) := by
  simp [stages]

def World.Bears (world : World B) (life : Life) : Prop :=
  0 < life.serial ∧
    (world.instances.map Instance.component)[life.serial - 1]? = some life.component

theorem World.Bears.mono {world after : World B} {life : Life} (h : world.Bears life)
    (grown : world.instances.map Instance.component <+: after.instances.map Instance.component) :
    after.Bears life := by
  obtain ⟨more, heq⟩ := grown
  obtain ⟨hpos, hget⟩ := h
  refine ⟨hpos, ?_⟩
  obtain ⟨hlt, -⟩ := List.getElem?_eq_some_iff.mp hget
  rw [← heq, List.getElem?_append_left hlt, hget]

/-- Slots, milestones, stack and instances of a point are those of the stages. -/
structure Fits (stages : Identity → Stage) (point : Point B α) : Prop where
  slot : ∀ component, point.world.slot? component = (stages component).slot?
  milestones : ∀ component, point.world.milestones component = (stages component).milestones
  running : ∀ life phase, (life, phase) ∈ point.stack.sequences ↔
    stages life.component = .running life phase
  nodup : point.stack.components.Nodup
  owner : ∀ component life, (stages component).life? = some life → life.component = component
  born : ∀ component life, (stages component).life? = some life → point.world.Bears life

namespace Fits

variable {stages : Identity → Stage} {p : Point B α}

theorem slotOf (fits : Fits stages p) (component : Identity) :
    p.world.slotOf component = (stages component).slot?.getD {} := by
  rw [World.slotOf, fits.slot]

theorem slot?_of_shape (fits : Fits stages p) {component : Identity} {shape : Shape}
    (h : (stages component).shape? = some shape) :
    p.world.slot? component = some shape.slot := by
  rw [fits.slot, Stage.slot?, h]
  rfl

theorem slotOf_of_shape (fits : Fits stages p) {component : Identity} {shape : Shape}
    (h : (stages component).shape? = some shape) : p.world.slotOf component = shape.slot := by
  rw [World.slotOf, fits.slot?_of_shape h, Option.getD_some]

theorem absent_of_unknown (fits : Fits stages p) {component : Identity} {strict : Bool}
    (unknown : (p.world.slotOf component).answer? component strict = none) :
    stages component = .absent := by
  rw [fits.slotOf] at unknown
  cases hs : stages component with
  | absent => rfl
  | _ => simp [hs, Stage.slot?, Stage.shape?] at unknown

theorem life?_of_known (fits : Fits stages p) {component : Identity} {strict : Bool}
    {answer : Except WiringError Serial}
    (known : (p.world.slotOf component).answer? component strict = some answer) :
    ∃ life, (stages component).life? = some life := by
  rw [fits.slotOf] at known
  cases hs : stages component with
  | absent => simp [hs, Stage.slot?, Stage.shape?, Slot.answer?] at known
  | _ => exact ⟨_, rfl⟩

theorem slot?_of_life? (fits : Fits stages p) {component : Identity} {life : Life}
    (h : (stages component).life? = some life) : ∃ slot, p.world.slot? component = some slot := by
  rw [fits.slot]
  cases hs : stages component with
  | absent => simp [hs, Stage.life?] at h
  | _ => exact ⟨_, rfl⟩

end Fits

structure Quiet (p q : Point B α) : Prop where
  change : p.change? = none
  sequences : q.stack.sequences = p.stack.sequences
  slot : ∀ component, q.world.slot? component = p.world.slot? component
  milestones : ∀ component, q.world.milestones component = p.world.milestones component
  instances : q.world.instances.map Instance.component =
    p.world.instances.map Instance.component

structure Turn (stages : Identity → Stage) (p q : Point B α) (component : Identity)
    (stage : Stage) : Prop where
  change : p.change? = some (component, stage)
  next : Stage.Next (stages component) stage
  sequences : ∃ below, p.stack.sequences = (stages component).sequences ++ below ∧
    q.stack.sequences = stage.sequences ++ below
  slot : ∀ other, q.world.slot? other =
    if other = component then stage.slot? else p.world.slot? other
  milestones : ∀ other, q.world.milestones other =
    if other = component then stage.milestones else p.world.milestones other
  instances : p.world.instances.map Instance.component <+:
    q.world.instances.map Instance.component
  life : ∀ life, stage.life? = some life → life.component = component ∧ q.world.Bears life

section Effect

variable {program : Program B} {stages : Identity → Stage} {p q : Point B α}

theorem Fits.top (fits : Fits stages p) {life : Life} {phase : Phase}
    {below : List (Life × Phase)} (h : p.stack.sequences = (life, phase) :: below) :
    stages life.component = .running life phase :=
  (fits.running life phase).mp (h ▸ List.mem_cons_self)

theorem Turn.of_running (fits : Fits stages p) {life : Life} {phase : Phase}
    {below : List (Life × Phase)} (top : p.stack.sequences = (life, phase) :: below)
    {stage : Stage} (change : p.change? = some (life.component, stage))
    (next : Stage.Next (.running life phase) stage)
    (sequences : q.stack.sequences = stage.sequences ++ below)
    (slot : ∀ other, q.world.slot? other =
      if other = life.component then stage.slot? else p.world.slot? other)
    {milestone : Milestone} (milestones : ∀ other, q.world.milestones other =
      p.world.milestones other ++ if other = life.component then [milestone] else [])
    (grown : stage.milestones = phase.milestones life ++ [milestone])
    (instances : q.world.instances = p.world.instances) :
    Turn stages p q life.component stage where
  change := change
  next := fits.top top ▸ next
  sequences := ⟨below, by rw [fits.top top, top]; rfl, sequences⟩
  slot := slot
  milestones other := by
    rw [milestones other]
    by_cases ho : other = life.component
    · rw [if_pos ho, if_pos ho, ho, fits.milestones, fits.top top, grown]
      rfl
    · rw [if_neg ho, if_neg ho, List.append_nil]
  instances := ⟨[], by rw [instances, List.append_nil]⟩
  life other hlife := by
    have same : other = life := Option.some.inj (hlife.symm.trans (next.life?_eq rfl))
    have known : (stages life.component).life? = some life := by rw [fits.top top]; rfl
    rw [same]
    exact ⟨rfl, (fits.born _ _ known).mono ⟨[], by rw [instances, List.append_nil]⟩⟩

theorem Program.Step.effect (step : program.Step p q) (fits : Fits stages p) :
    Quiet p q ∨ ∃ component stage, Turn stages p q component stage := by
  cases step with
  | query query resume stack world =>
    exact .inl ⟨rfl, rfl, world.slot?_answer query, world.milestones_answer query,
      world.components_answer query⟩
  | answer component args strict resume stack world answer known =>
    obtain ⟨life, hlife⟩ := fits.life?_of_known known
    obtain ⟨slot, hslot⟩ := fits.slot?_of_life? hlife
    rw [World.provideSlot_of_slot? hslot]
    refine .inl ⟨?_, rfl, fun _ => rfl, fun _ => rfl, rfl⟩
    simp only [Point.change?, known]
  | begins component args strict resume stack world unknown =>
    have habsent := fits.absent_of_unknown unknown
    refine .inr ⟨component, .running ⟨component, world.instances.length + 1, args⟩ .constructing,
      ?_, ?_, ?_, ?_, ?_, ?_, ?_⟩
    · simp only [Point.change?, unknown]
    · rw [habsent]
      exact .begins _
    · exact ⟨stack.sequences, by rw [habsent]; rfl, rfl⟩
    · intro other
      have hslot : world.slotOf component = {} := by rw [fits.slotOf, habsent]; rfl
      rw [World.slot?_begin, World.slot?_provideSlot, World.slotOf_provideSlot, hslot]
      by_cases ho : other = component
      · rw [if_pos ho, if_pos ho]; rfl
      · rw [if_neg ho, if_neg ho, if_neg ho]
    · intro other
      have hnone : world.milestones component = [] := by
        rw [fits.milestones, habsent]; rfl
      rw [World.milestones_begin, World.instances_provideSlot, World.milestones,
        World.journal_provideSlot]
      by_cases ho : other = component
      · rw [if_pos ho, if_pos ho, ho]
        change world.milestones component ++ _ = _
        rw [hnone]; rfl
      · rw [if_neg ho, if_neg ho, List.append_nil]; rfl
    · rw [World.instances_begin, World.instances_provideSlot, List.map_append]
      exact List.prefix_append _ _
    · rintro life ⟨⟩
      refine ⟨rfl, Nat.succ_pos _, ?_⟩
      rw [World.instances_begin, World.instances_provideSlot, List.map_append]
      simp
  | calls callback args resume stack world =>
    exact .inl ⟨rfl, rfl, fun _ => rfl, fun _ => rfl, rfl⟩
  | hooks life resume below world =>
    have htop : world.slotOf life.component = (Shape.running .constructing).slot :=
      fits.slotOf_of_shape (by rw [fits.top rfl]; rfl)
    refine .inr ⟨_, _, Turn.of_running fits rfl rfl (.hooks life) rfl ?_
      (world.milestones_beginHooks life.component) rfl rfl⟩
    intro other
    rw [World.slot?_beginHooks, htop]; rfl
  | inits life reflection resume below world =>
    have htop : world.slotOf life.component = (Shape.running .hooking).slot :=
      fits.slotOf_of_shape (by rw [fits.top rfl]; rfl)
    refine .inr ⟨_, _, Turn.of_running fits rfl rfl (.inits life) rfl ?_
      (fun other => world.milestones_beginInit life.component other program.settings life.serial
        life.args reflection) rfl (world.instances_beginInit ..)⟩
    intro other
    rw [World.slot?_beginInit, htop]; rfl
  | finishes life resume below world =>
    exact .inr ⟨_, _, Turn.of_running fits rfl rfl (.finishes life) rfl
      (fun other => world.slot?_finish life.component other life.serial)
      (fun other => world.milestones_finish life.component other life.serial) rfl rfl⟩
  | returns answer resume below world =>
    exact .inl ⟨rfl, rfl, fun _ => rfl, fun _ => rfl, rfl⟩
  | fails message life phase resume below world =>
    exact .inr ⟨_, _, Turn.of_running fits rfl rfl (.fails life phase) rfl
      (world.slot?_fail life.component) (world.milestones_fail life.component) rfl rfl⟩
  | escapes message resume below world =>
    exact .inl ⟨rfl, rfl, fun _ => rfl, fun _ => rfl, rfl⟩

theorem Quiet.fits (quiet : Quiet p q) (fits : Fits stages p) : Fits stages q where
  slot component := (quiet.slot component).trans (fits.slot component)
  milestones component := (quiet.milestones component).trans (fits.milestones component)
  running life phase := by rw [quiet.sequences]; exact fits.running life phase
  nodup := by rw [Stack.components, quiet.sequences]; exact fits.nodup
  owner := fits.owner
  born component life h := by
    have hb := fits.born component life h
    rw [World.Bears, quiet.instances]
    exact hb

theorem Fits.mem_below_iff (fits : Fits stages p) {component : Identity}
    {below : List (Life × Phase)}
    (split : p.stack.sequences = (stages component).sequences ++ below) (life : Life)
    (phase : Phase) :
    (life, phase) ∈ below ↔
      life.component ≠ component ∧ stages life.component = .running life phase := by
  constructor
  · intro hmem
    have hrun := (fits.running life phase).mp (by rw [split]; exact List.mem_append_right _ hmem)
    refine ⟨fun heq => ?_, hrun⟩
    have hnodup := fits.nodup
    rw [Stack.components, split, ← heq, hrun] at hnodup
    simp only [Stage.sequences, List.singleton_append, List.map_cons, List.nodup_cons] at hnodup
    exact hnodup.1 (List.mem_map.mpr ⟨_, hmem, rfl⟩)
  · rintro ⟨hne, hrun⟩
    have hmem := (fits.running life phase).mpr hrun
    rw [split, List.mem_append] at hmem
    rcases hmem with htop | hbelow
    · have howner := fits.owner component life (by rw [Stage.mem_sequences_iff.mp htop]; rfl)
      exact absurd howner hne
    · exact hbelow

theorem Turn.fits {component : Identity} {stage : Stage} (turn : Turn stages p q component stage)
    (fits : Fits stages p) : Fits (Function.update stages component stage) q where
  slot other := by
    rw [turn.slot, Function.update_apply]
    split
    · rfl
    · exact fits.slot other
  milestones other := by
    rw [turn.milestones, Function.update_apply]
    split
    · rfl
    · exact fits.milestones other
  running life phase := by
    obtain ⟨below, hp, hq⟩ := turn.sequences
    rw [hq, List.mem_append, fits.mem_below_iff hp, Stage.mem_sequences_iff,
      Function.update_apply]
    by_cases ho : life.component = component
    · simp [ho]
    · have hne : stage ≠ .running life phase := fun h =>
        ho (turn.life life (by rw [h]; rfl)).1
      simp [ho, hne]
  nodup := by
    obtain ⟨below, hp, hq⟩ := turn.sequences
    have hbelow : (below.map fun running => running.1.component).Nodup := by
      have hnodup := fits.nodup
      rw [Stack.components, hp, List.map_append] at hnodup
      exact (List.nodup_append.mp hnodup).2.1
    rw [Stack.components, hq]
    cases stage with
    | running life phase =>
      refine List.nodup_cons.mpr ⟨?_, hbelow⟩
      rw [List.mem_map]
      rintro ⟨⟨other, _⟩, hmem, heq⟩
      have howner := (turn.life life rfl).1
      exact ((fits.mem_below_iff hp _ _).mp hmem).1 (heq.trans howner)
    | _ => exact hbelow
  owner other life h := by
    rw [Function.update_apply] at h
    split at h
    · next heq => rw [heq]; exact (turn.life life h).1
    · exact fits.owner other life h
  born other life h := by
    rw [Function.update_apply] at h
    split at h
    · exact (turn.life life h).2
    · exact (fits.born other life h).mono turn.instances

theorem Fits.step (fits : Fits stages p) (step : program.Step p q) : Fits (p.record stages) q := by
  rcases step.effect fits with quiet | ⟨component, stage, turn⟩
  · rw [Point.record_of_none quiet.change]
    exact quiet.fits fits
  · rw [Point.record_of_some turn.change]
    exact turn.fits fits

theorem Fits.record_next (fits : Fits stages p) (step : program.Step p q)
    (component : Identity) :
    p.record stages component = stages component ∨
      Stage.Next (stages component) (p.record stages component) := by
  rcases step.effect fits with quiet | ⟨other, stage, turn⟩
  · rw [Point.record_of_none quiet.change]
    exact .inl rfl
  · rw [Point.record_of_some turn.change]
    by_cases ho : component = other
    · subst ho
      rw [Function.update_self]
      exact .inr turn.next
    · rw [Function.update_of_ne ho]
      exact .inl rfl

end Effect

theorem fits_start (client : Code B α) (host : Host B) :
    Fits (fun _ => .absent) (Point.start client host) where
  slot component := rfl
  milestones component := rfl
  running life phase := by simp [Point.start, Stack.sequences]
  nodup := List.nodup_nil
  owner component life h := by simp [Stage.life?] at h
  born component life h := by simp [Stage.life?] at h

section Runs

variable {program : Program B} {client : Code B α} {host : Host B}
variable {past : List (Point B α)} {now : Point B α}

/-- At every point of a run the world, the stack and the instances are as the history says. -/
theorem run_fits (run : program.Run (.start client host) past now) : Fits (stages past) now := by
  induction run with
  | nil => exact fits_start client host
  | snoc run step ih =>
    rw [stages_snoc]
    exact ih.step step

theorem stages_next {more : List (Point B α)} {later : Point B α}
    (run : program.Run (.start client host) past now)
    (further : program.Run now more later) (component : Identity) :
    Relation.ReflTransGen Stage.Next (stages past component)
      (stages (past ++ more) component) := by
  induction further with
  | nil => rw [List.append_nil]
  | @snoc more p q before step ih =>
    rw [← List.append_assoc, stages_snoc]
    rcases (run_fits (run.append before)).record_next step component with hsame | hnext
    · rw [hsame]
      exact ih
    · exact ih.tail hnext

theorem stages_of_mem (run : program.Run (.start client host) past now) {p : Point B α}
    (hp : p ∈ past) : ∃ before, program.Run (.start client host) before p ∧
      ∀ component, Relation.ReflTransGen Stage.Next (stages before component)
        (stages past component) := by
  obtain ⟨before, more, q, rfl, hbefore, step, hmore⟩ := run.mem_split hp
  exact ⟨before, hbefore, fun component => stages_next hbefore (hmore.cons step) component⟩

end Runs

end HookWiring
