import HookWiring.Proofs.Stages

/-!
# What the history of a run tells

The points that a run has left say which components were requested and with which arguments, which
instances were handed out, which reflections were wired, and what the host received. All four are
tied to the stages: the arguments of a sequence are those of the first request, only the instance
of a ready component is handed out, and hooks return once.
-/

namespace HookWiring

variable {B : Bodies} {α : Type}

namespace Point

def request? : Point B α → Option (Identity × Value)
  | ⟨.ask (.acquire component args _) _, _, _⟩ => some (component, args)
  | _ => none

def handle? : Point B α → Option (Identity × Serial)
  | ⟨.ask (.acquire component _ strict) _, _, world⟩ =>
    match (world.slotOf component).answer? component strict with
    | some (.ok serial) => some (component, serial)
    | _ => none
  | ⟨.ask (.query (.instanceOf component)) _, _, world⟩ =>
    (world.ready? component).map fun serial => (component, serial)
  | ⟨.done _, .sequence life .initialising _ _, _⟩ => some (life.component, life.serial)
  | _ => none

def hooked? : Point B α → Option (Life × Option (Reflection B))
  | ⟨.done reflection, .sequence life .hooking _ _, _⟩ => some (life, reflection)
  | _ => none

def registered (settings : Settings) : Point B α → List (Registration B)
  | ⟨.ask (.query query) _, _, _⟩ => query.registered
  | ⟨.done reflection, .sequence life .hooking _ _, _⟩ =>
    reflection.elim [] fun r => r.registrations life.serial settings
  | _ => []

theorem registered_of_hooked? {p : Point B α} {life : Life} {r : Reflection B}
    (h : p.hooked? = some (life, some r)) (settings : Settings) :
    p.registered settings = r.registrations life.serial settings := by
  obtain ⟨code, stack, world⟩ := p
  cases code with
  | done result =>
    cases stack with
    | sequence other phase resume below =>
      cases phase <;> cases h
      rfl
    | client | call => cases h
  | panic | ask => cases h

end Point

def requests (past : List (Point B α)) : List (Identity × Value) :=
  past.filterMap Point.request?

def argsFor (component : Identity) (past : List (Point B α)) : List Value :=
  ((requests past).filter fun request => request.1 = component).map Prod.snd

def observed {τ : Type} (observe : Point B α → Option (Life × τ)) (component : Identity)
    (past : List (Point B α)) : List (Life × τ) :=
  (past.filterMap observe).filter fun seen => seen.1.component = component

theorem argsFor_snoc (component : Identity) (past : List (Point B α)) (p : Point B α) :
    argsFor component (past ++ [p]) = argsFor component past ++ argsFor component [p] := by
  simp [argsFor, requests]

theorem argsFor_of_none {p : Point B α} (h : p.request? = none) (component : Identity) :
    argsFor component [p] = [] := by
  rw [argsFor, requests, List.filterMap_cons_none h]
  rfl

theorem argsFor_of_some {p : Point B α} {asked : Identity} {args : Value}
    (h : p.request? = some (asked, args)) (component : Identity) :
    argsFor component [p] = if asked = component then [args] else [] := by
  rw [argsFor, requests, List.filterMap_cons_some h]
  by_cases ho : asked = component <;> simp [ho]

section Observed

variable {τ : Type} {observe : Point B α → Option (Life × τ)} {p : Point B α}

theorem mem_observed_iff {component : Identity} {past : List (Point B α)} {seen : Life × τ} :
    seen ∈ observed observe component past ↔
      (∃ p ∈ past, observe p = some seen) ∧ seen.1.component = component := by
  simp [observed]

theorem observed_append (component : Identity) (past more : List (Point B α)) :
    observed observe component (past ++ more) =
      observed observe component past ++ observed observe component more := by
  simp [observed]

theorem observed_of_none (h : observe p = none) (component : Identity) :
    observed observe component [p] = [] := by
  simp [observed, h]

theorem observed_of_some {seen : Life × τ} (h : observe p = some seen) (component : Identity) :
    observed observe component [p] = if seen.1.component = component then [seen] else [] := by
  by_cases ho : seen.1.component = component <;> simp [observed, h, ho]

end Observed

def Stage.hooked : Stage → List Life
  | .absent => []
  | .running life .initialising => [life]
  | .running _ _ => []
  | .ready life => [life]
  | .failed life .initialising => [life]
  | .failed _ _ => []

section Steps

variable {program : Program B} {stages : Identity → Stage} {p q : Point B α}

theorem Program.Step.log_eq (step : program.Step p q) :
    q.world.host.log = p.world.host.log ++ p.registered program.settings := by
  cases step with
  | query query resume stack world => exact world.log_answer query
  | answer component args strict resume stack world answer known =>
    simp [Point.registered]
  | begins component args strict resume stack world unknown =>
    simp [Point.registered, World.host_begin]
  | inits life reflection resume below world =>
    exact world.log_beginInit life.component program.settings life.serial life.args reflection
  | calls | hooks | finishes | returns | fails | escapes =>
    exact (List.append_nil _).symm

theorem Program.Step.nodup_keys (step : program.Step p q) (h : p.world.slots.keys.Nodup) :
    q.world.slots.keys.Nodup := by
  have hprovide (component : Identity) {world : World B} (hw : world.slots.keys.Nodup) :
      (world.provideSlot component).slots.keys.Nodup := by
    unfold World.provideSlot
    split
    · exact hw
    · exact Table.nodup_keys_insert hw _ _
  cases step with
  | query query resume stack world => rw [World.slots_answer]; exact h
  | answer component => exact hprovide component h
  | begins component => exact Table.nodup_keys_insert (hprovide component h) _ _
  | hooks => exact Table.nodup_keys_insert h _ _
  | inits life reflection => cases reflection <;> exact Table.nodup_keys_insert h _ _
  | finishes => exact Table.nodup_keys_insert (Table.nodup_keys_insert h _ _) _ _
  | fails => exact Table.nodup_keys_insert h _ _
  | calls | returns | escapes => exact h

theorem Stage.ready_of_answer? {stage : Stage} {component : Identity} {strict : Bool}
    {serial : Serial}
    (h : (stage.slot?.getD {}).answer? component strict = some (.ok serial)) :
    ∃ life, stage = .ready life ∧ life.serial = serial := by
  cases stage with
  | ready life =>
    cases strict with
    | true => simp [Stage.slot?, Stage.shape?] at h
    | false =>
      have hs : life.serial = serial := by simpa [Stage.slot?, Stage.shape?] using h
      exact ⟨life, rfl, hs⟩
  | absent => simp [Stage.slot?, Stage.shape?, Slot.answer?] at h
  | running => simp [Stage.slot?, Stage.shape?] at h
  | failed => simp [Stage.slot?, Stage.shape?] at h

theorem Stage.ready_of_ready? {stage : Stage} {serial : Serial}
    (h : (stage.slot?.getD {}).ready? = some serial) :
    ∃ life, stage = .ready life ∧ life.serial = serial := by
  cases stage with
  | ready life =>
    have hs : life.serial = serial := by simpa [Stage.slot?, Stage.shape?] using h
    exact ⟨life, rfl, hs⟩
  | absent => simp [Stage.slot?, Stage.shape?, Slot.ready?] at h
  | running => simp [Stage.slot?, Stage.shape?] at h
  | failed => simp [Stage.slot?, Stage.shape?] at h

theorem Program.Step.handle_ready (step : program.Step p q) (fits : Fits stages p)
    {component : Identity} {serial : Serial} (h : p.handle? = some (component, serial)) :
    ∃ life, p.record stages component = .ready life ∧ life.serial = serial := by
  cases step with
  | query query resume stack world =>
    cases query with
    | instanceOf asked =>
      obtain ⟨found, hready, heq⟩ := Option.map_eq_some_iff.mp h
      cases heq
      rw [World.ready?, fits.slotOf] at hready
      exact Stage.ready_of_ready? hready
    | _ => cases h
  | answer asked args strict resume stack world answer known =>
    rw [Point.record_of_none (by simp only [Point.change?, known])]
    cases answer with
    | error error => simp [Point.handle?, known] at h
    | ok found =>
      simp only [Point.handle?, known, Option.some.injEq, Prod.mk.injEq] at h
      obtain ⟨rfl, rfl⟩ := h
      rw [fits.slotOf] at known
      exact Stage.ready_of_answer? known
  | begins asked args strict resume stack world unknown =>
    simp [Point.handle?, unknown] at h
  | finishes life resume below world =>
    cases h
    exact ⟨life, Function.update_self _ _ _, rfl⟩
  | calls | hooks | inits | returns | fails | escapes => cases h

/-- What a turn of the running sequence on top of the stack leaves of a view of the stages. -/
theorem Fits.view_of_top {ν : Type} (view : Stage → ν) (fits : Fits stages p) {life : Life}
    {phase : Phase} {below : List (Life × Phase)}
    (top : p.stack.sequences = (life, phase) :: below) {stage : Stage}
    (change : p.change? = some (life.component, stage))
    (same : view stage = view (.running life phase)) (component : Identity) :
    view (p.record stages component) = view (stages component) := by
  rw [Point.record_of_some change, Function.update_apply]
  split
  · next heq => rw [heq, fits.top top, same]
  · rfl

theorem Program.Step.first_args (step : program.Step p q) (fits : Fits stages p)
    (component : Identity) {before : List Value}
    (h : (stages component).life?.map Life.args = before.head?) :
    (p.record stages component).life?.map Life.args =
      (before ++ argsFor component [p]).head? := by
  cases step with
  | answer asked args strict resume stack world answer known =>
    rw [Point.record_of_none (by simp only [Point.change?, known]), argsFor_of_some rfl]
    by_cases ho : asked = component
    · subst ho
      obtain ⟨life, hlife⟩ := fits.life?_of_known known
      rw [hlife] at h ⊢
      rw [List.head?_append, ← h]
      rfl
    · rw [if_neg ho, List.append_nil]
      exact h
  | begins asked args strict resume stack world unknown =>
    have habsent := fits.absent_of_unknown unknown
    rw [Point.record_of_some (by simp only [Point.change?, unknown]; rfl), argsFor_of_some rfl]
    by_cases ho : asked = component
    · subst ho
      have hnil : before = [] := by
        rw [habsent] at h
        exact List.head?_eq_none_iff.mp h.symm
      rw [hnil, Function.update_self, if_pos rfl]
      rfl
    · rw [Function.update_of_ne (Ne.symm ho), if_neg ho, List.append_nil]
      exact h
  | query | calls | returns | escapes =>
    rw [Point.record_of_none rfl, argsFor_of_none rfl, List.append_nil]
    exact h
  | hooks | inits | finishes | fails =>
    rw [fits.view_of_top Stage.life? rfl rfl rfl component, argsFor_of_none rfl, List.append_nil]
    exact h

theorem Program.Step.hookings_eq (step : program.Step p q) (fits : Fits stages p)
    (component : Identity) {before : List (Life × Option (Reflection B))}
    (h : before.map Prod.fst = (stages component).hooked) :
    (before ++ observed Point.hooked? component [p]).map Prod.fst =
      (p.record stages component).hooked := by
  cases step with
  | answer asked args strict resume stack world answer known =>
    rw [Point.record_of_none (by simp only [Point.change?, known]), observed_of_none rfl,
      List.append_nil]
    exact h
  | begins asked args strict resume stack world unknown =>
    have habsent := fits.absent_of_unknown unknown
    rw [Point.record_of_some (by simp only [Point.change?, unknown]; rfl), Function.update_apply,
      observed_of_none rfl, List.append_nil, h]
    split
    · next heq => rw [heq, habsent]; rfl
    · rfl
  | inits life reflection resume below world =>
    rw [Point.record_of_some rfl, Function.update_apply, observed_of_some rfl]
    by_cases ho : component = life.component
    · have hnil : before = [] := by
        rw [ho, fits.top rfl] at h
        exact List.map_eq_nil_iff.mp h
      simp [hnil, ho, Stage.hooked]
    · simpa [ho, Ne.symm ho] using h
  | query | calls | returns | escapes =>
    rw [Point.record_of_none rfl, observed_of_none rfl, List.append_nil]
    exact h
  | fails message life phase resume below world =>
    rw [fits.view_of_top Stage.hooked rfl rfl (by cases phase <;> rfl) component,
      observed_of_none rfl, List.append_nil]
    exact h
  | hooks | finishes =>
    rw [fits.view_of_top Stage.hooked rfl rfl rfl component, observed_of_none rfl, List.append_nil]
    exact h

end Steps

section Runs

variable {program : Program B} {client : Code B α} {host : Host B}
variable {past : List (Point B α)} {now : Point B α}

theorem Program.Run.log_eq {start : Point B α} (run : program.Run start past now) :
    now.world.host.log =
      start.world.host.log ++ past.flatMap (Point.registered program.settings) := by
  induction run with
  | nil => exact (List.append_nil _).symm
  | snoc _ step ih => rw [step.log_eq, ih]; simp

theorem run_log (run : program.Run (.start client host) past now) :
    now.world.host.log = host.log ++ past.flatMap (Point.registered program.settings) :=
  run.log_eq

theorem run_nodup_keys (run : program.Run (.start client host) past now) :
    now.world.slots.keys.Nodup := by
  induction run with
  | nil => exact List.nodup_nil
  | snoc _ step ih => exact step.nodup_keys ih

theorem run_first_args (run : program.Run (.start client host) past now) (component : Identity) :
    (stages past component).life?.map Life.args = (argsFor component past).head? := by
  induction run with
  | nil => rfl
  | snoc run step ih =>
    rw [stages_snoc, argsFor_snoc]
    exact step.first_args (run_fits run) component ih

theorem run_hookings (run : program.Run (.start client host) past now) (component : Identity) :
    (observed Point.hooked? component past).map Prod.fst = (stages past component).hooked := by
  induction run with
  | nil => rfl
  | snoc run step ih =>
    rw [stages_snoc, observed_append]
    exact step.hookings_eq (run_fits run) component ih

/-- A component that was handed out once is ready from then on, with the same instance. -/
theorem run_handle (run : program.Run (.start client host) past now) {p : Point B α}
    (hp : p ∈ past) {component : Identity} {serial : Serial}
    (h : p.handle? = some (component, serial)) :
    ∃ life, stages past component = .ready life ∧ life.serial = serial := by
  obtain ⟨before, more, q, rfl, hbefore, step, hmore⟩ := run.mem_split hp
  obtain ⟨life, hready, hserial⟩ := step.handle_ready (run_fits hbefore) h
  have hnext := stages_next (hbefore.snoc step) hmore component
  rw [stages_snoc, hready] at hnext
  rw [List.append_assoc] at hnext
  exact ⟨life, Stage.eq_of_ready hnext, hserial⟩

end Runs

end HookWiring
