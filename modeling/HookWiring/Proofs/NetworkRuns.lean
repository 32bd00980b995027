import HookWiring.Proofs.Traversal

/-!
# Runs of networks

Every run of a network comes to its end: the components that were not begun get fewer with every
sequence, and between two beginnings the code that is left gets shorter. At the end just the
components that the client reaches are ready, and they were begun in depth-first order.
-/

namespace HookWiring

variable {B : Bodies} {α ρ : Type}

section Begun

variable {program : Program B} {client : Code B α} {host : Host B}
variable {past : List (Point B α)} {now : Point B α}

theorem mem_begun_iff {component : Identity} :
    component ∈ begun past ↔
      ∃ life, (life, .constructing) ∈ observed Point.call? component past := by
  simp only [begun, List.mem_filterMap, mem_observed_iff]
  constructor
  · rintro ⟨p, hp, h⟩
    unfold Point.begun? at h
    split at h
    · next life hcall =>
      cases h
      exact ⟨life, ⟨p, hp, hcall⟩, rfl⟩
    · cases h
  · rintro ⟨life, ⟨p, hp, hcall⟩, rfl⟩
    exact ⟨p, hp, by rw [Point.begun?, hcall]⟩

theorem run_begun (run : program.Run (.start client host) past now) (component : Identity) :
    component ∈ begun past ↔ stages past component ≠ .absent := by
  rw [mem_begun_iff, run_calls run]
  cases stages past component with
  | absent => exact ⟨fun ⟨_, h⟩ => (List.not_mem_nil h).elim, fun h => absurd rfl h⟩
  | ready life => exact ⟨fun _ => nofun, fun _ => ⟨life, List.mem_cons_self⟩⟩
  | running life phase | failed life phase =>
    refine ⟨fun _ => nofun, fun _ => ⟨life, ?_⟩⟩
    cases phase <;> exact List.mem_cons_self

end Begun

namespace Network

variable {program : Program B} {network : Network program} {client : Code B α} {host : Host B}
variable {roots : List Identity} {past : List (Point B α)} {now : Point B α}

section Runs

variable (asks : client.Asks roots) (inside : ∀ root ∈ roots, root ∈ network.components)
include asks inside

theorem run_traverses (run : program.Run (.start client host) past now) :
    ∃ debts rest, network.Traverses roots past now debts rest := by
  induction run with
  | nil =>
    refine ⟨[], roots, ⟨rfl, asks⟩, nofun, inside, trivial, fun _ _ => rfl, nofun, ?_⟩
    exact fun final h => h
  | snoc run step ih =>
    obtain ⟨debts, rest, t⟩ := ih
    exact t.step (run_fits run) (run_begun run) step

theorem run_not_panic {message : String} {stack : Stack B α ρ} {world : World B}
    (run : program.Run (.start client host) past ⟨.panic message, stack, world⟩) : False := by
  obtain ⟨debts, rest, t⟩ := run_traverses asks inside run
  exact t.owes.not_panics message rfl

theorem run_unfailed (run : program.Run (.start client host) past now) (component : Identity)
    (life : Life) (phase : Phase) : stages past component ≠ .failed life phase := by
  intro hfailed
  have hfailing := run_failing run component
  rw [hfailed] at hfailing
  have hmem : (life, phase) ∈ observed Point.failing? component past := by
    rw [hfailing]
    exact List.mem_singleton_self _
  obtain ⟨⟨⟨code, stack, world⟩, hp, hp'⟩, -⟩ := mem_observed_iff.mp hmem
  obtain ⟨before, more, q, -, hbefore, -⟩ := run.mem_split hp
  cases code with
  | panic message => exact run_not_panic asks inside hbefore
  | done | ask => cases hp'

end Runs

def unbegun (network : Network program) (past : List (Point B α)) : Nat :=
  (network.components.filter fun component => component ∉ begun past).card

theorem filter_unbegun_subset (network : Network program) (past more : List (Point B α)) :
    (network.components.filter fun component => component ∉ begun (past ++ more)) ⊆
      network.components.filter fun component => component ∉ begun past := by
  intro component h
  rw [Finset.mem_filter, begun_append] at h
  exact Finset.mem_filter.mpr ⟨h.1, fun hmem => h.2 (List.mem_append_left _ hmem)⟩

theorem unbegun_append_le (network : Network program) (past more : List (Point B α)) :
    network.unbegun (past ++ more) ≤ network.unbegun past :=
  Finset.card_le_card (network.filter_unbegun_subset past more)

theorem unbegun_snoc_lt {p : Point B α} {component : Identity}
    (known : component ∈ network.components) (fresh : component ∉ begun past)
    (hbegun : p.begun? = some component) :
    network.unbegun (past ++ [p]) < network.unbegun past := by
  refine Finset.card_lt_card ⟨network.filter_unbegun_subset past [p], fun h => ?_⟩
  have hmem := h (Finset.mem_filter.mpr ⟨known, fresh⟩)
  refine (Finset.mem_filter.mp hmem).2 ?_
  rw [begun_snoc_of_some hbegun]
  exact List.mem_append_right _ (List.mem_singleton_self _)

section Ending

variable (asks : client.Asks roots) (inside : ∀ root ∈ roots, root ∈ network.components)
include asks inside

/-- Code halts if it halts with fewer components to begin, and if what waits for it halts. -/
theorem code_halts {n : Nat}
    (fewer : ∀ {ρ : Type} (stack : Stack B α ρ) (code : Code B ρ) (world : World B)
      (past : List (Point B α)),
      program.Run (.start client host) past ⟨code, stack, world⟩ → network.unbegun past < n →
        program.Halts ⟨code, stack, world⟩)
    (stack : Stack B α ρ)
    (waiting : ∀ (result : ρ) (world : World B) (past : List (Point B α)),
      program.Run (.start client host) past ⟨.done result, stack, world⟩ →
        network.unbegun past ≤ n → program.Halts ⟨.done result, stack, world⟩)
    (code : Code B ρ) (world : World B) (past : List (Point B α))
    (run : program.Run (.start client host) past ⟨code, stack, world⟩)
    (le : network.unbegun past ≤ n) : program.Halts ⟨code, stack, world⟩ := by
  induction code generalizing world past with
  | done result => exact waiting result world past run le
  | panic message => exact (run_not_panic asks inside run).elim
  | ask request resume ih =>
    have hle := (network.unbegun_append_le past [⟨.ask request resume, stack, world⟩]).trans le
    cases request with
    | query query =>
      have step : program.Step _ _ := .query query resume stack world
      exact .of_step step (ih _ _ _ (run.snoc step) hle)
    | call callback args =>
      obtain ⟨debts, rest, t⟩ := run_traverses asks inside run
      exact (t.owes.not_calls).elim
    | acquire component args strict =>
      cases known : (world.slotOf component).answer? component strict with
      | some answer =>
        have step : program.Step _ _ :=
          .answer component args strict resume stack world answer known
        exact .of_step step (ih _ _ _ (run.snoc step) hle)
      | none =>
        have step : program.Step _ _ := .begins component args strict resume stack world known
        obtain ⟨debts, rest, t⟩ := run_traverses asks inside run
        obtain ⟨-, debts', rest', pays, -⟩ := t.owes.acquire
        have hmem := t.inside component pays.target_mem
        have hfresh : component ∉ begun past := by
          rw [run_begun run, (run_fits run).absent_of_unknown known]
          exact fun h => h rfl
        have hlt := unbegun_snoc_lt (p := ⟨.ask (.acquire component args strict) resume, stack,
          world⟩) hmem hfresh (by simp only [Point.begun?, Point.call?, known])
        exact .of_step step (fewer _ _ _ _ (run.snoc step) (hlt.trans_le le))

theorem halts_of_unbegun (n : Nat) (stack : Stack B α ρ) (code : Code B ρ) (world : World B)
    (past : List (Point B α))
    (run : program.Run (.start client host) past ⟨code, stack, world⟩)
    (le : network.unbegun past ≤ n) : program.Halts ⟨code, stack, world⟩ := by
  -- The outer induction is on the components left to begin. The inner one is on the stack: code
  -- that is returned to may have as many left as the code that returned.
  induction n using Nat.strong_induction_on generalizing ρ stack code world past with
  | _ n ihn =>
  have fewer {ρ : Type} (stack : Stack B α ρ) (code : Code B ρ) (world : World B)
      (past : List (Point B α))
      (run : program.Run (.start client host) past ⟨code, stack, world⟩)
      (lt : network.unbegun past < n) : program.Halts ⟨code, stack, world⟩ :=
    ihn _ lt stack code world past run (Nat.le_refl _)
  induction stack generalizing world past with
  | client =>
    refine code_halts asks inside fewer .client (fun result world past _ _ => ?_) code world past
      run le
    exact ⟨_, fun q step => by cases step⟩
  | call resume below ih =>
    obtain ⟨debts, rest, t⟩ := run_traverses asks inside run
    exact t.owes.elim
  | sequence life phase resume below ih =>
    have hinit := code_halts asks inside fewer (.sequence life .initialising resume below)
      fun _ world past run le => by
        have step : program.Step _ _ := .finishes life resume below world
        exact .of_step step (ih _ _ _ (run.snoc step) ((unbegun_append_le ..).trans le))
    have hhook := code_halts asks inside fewer (.sequence life .hooking resume below)
      fun reflection world past run le => by
        have step : program.Step _ _ := .inits life reflection resume below world
        exact .of_step step (hinit _ _ _ (run.snoc step) ((unbegun_append_le ..).trans le))
    have hconstruct := code_halts asks inside fewer (.sequence life .constructing resume below)
      fun _ world past run le => by
        have step : program.Step _ _ := .hooks life resume below world
        exact .of_step step (hhook _ _ _ (run.snoc step) ((unbegun_append_le ..).trans le))
    cases phase with
    | constructing => exact hconstruct code world past run le
    | hooking => exact hhook code world past run le
    | initialising => exact hinit code world past run le

theorem run_halts (run : program.Run (.start client host) past now) : program.Halts now :=
  halts_of_unbegun asks inside _ now.stack now.code now.world past run (Nat.le_refl _)

end Ending

structure Traversed (network : Network program) (start : Point B α) (roots : List Identity)
    (past : List (Point B α)) (world : World B) : Prop where
  order : DepthFirst network.edges roots [] (begun past)
  once : (begun past).Nodup
  begun_iff : ∀ component, component ∈ begun past ↔
    ∃ root ∈ roots, Reaches network.edges root component
  ready : ∀ component, (∃ root ∈ roots, Reaches network.edges root component) →
    world.state component = .ready
  untouched : ∀ component, ¬(∃ root ∈ roots, Reaches network.edges root component) →
    world.state component = .uninitialized
  /-- A component is ready only when all its own requests were answered. -/
  complete : ∀ before p, program.Run start before p → ∀ component,
    p.world.state component = .ready → answered component before = network.all component
  refused : ∀ {ρ : Type} before component args strict
    (resume : Except String (Except WiringError Serial) → Code B ρ) (stack : Stack B α ρ) world,
    program.Run start before ⟨.ask (.acquire component args strict) resume, stack, world⟩ →
      component ∈ stack.components → ∀ depth,
        program.serve (depth + 1) (.acquire component args strict) world =
          .returned (.error (.reentrant component)) world
  handed : ∀ {ρ : Type} before component args strict
    (resume : Except String (Except WiringError Serial) → Code B ρ) (stack : Stack B α ρ) world,
    program.Run start before ⟨.ask (.acquire component args strict) resume, stack, world⟩ →
      component ∉ stack.components → ∃ serial after,
        (∃ depth, ∀ more, depth ≤ more →
          program.serve more (.acquire component args strict) world =
            .returned (.ok serial) after) ∧
        after.slot? component = some (Shape.ready serial).slot

section Requests

variable {component : Identity} {args : Value} {strict : Bool}
variable {resume : Except String (Except WiringError Serial) → Code B ρ} {stack : Stack B α ρ}
variable {world : World B}

theorem serve_refused
    (run : program.Run (.start client host) past
      ⟨.ask (.acquire component args strict) resume, stack, world⟩)
    (h : component ∈ stack.components) (depth : Nat) :
    program.serve (depth + 1) (.acquire component args strict) world =
      .returned (.error (.reentrant component)) world := by
  have fits := run_fits run
  obtain ⟨life, phase, hrunning⟩ := (fits.mem_components_iff component).mp h
  have hshape : (stages past component).shape? = some (.running phase) := by rw [hrunning]; rfl
  have known : (world.slotOf component).answer? component strict =
      some (.error (.reentrant component)) := by
    rw [fits.slotOf_of_shape hshape, Shape.answer?_running]
  simp only [Program.serve, Program.acquire_of_known _ known,
    World.provideSlot_of_slot? (fits.slot?_of_shape hshape)]

theorem serve_handed (asks : client.Asks roots)
    (inside : ∀ root ∈ roots, root ∈ network.components)
    (run : program.Run (.start client host) past
      ⟨.ask (.acquire component args strict) resume, stack, world⟩)
    (h : component ∉ stack.components) : ∃ serial after,
      (∃ depth, ∀ more, depth ≤ more →
        program.serve more (.acquire component args strict) world =
          .returned (.ok serial) after) ∧
      after.slot? component = some (Shape.ready serial).slot := by
  have fits := run_fits run
  obtain ⟨debts, rest, t⟩ := run_traverses asks inside run
  obtain ⟨rfl, -⟩ := t.owes.acquire
  cases hs : stages past component with
  | running life phase => exact absurd ((fits.mem_components_iff component).mpr ⟨_, _, hs⟩) h
  | failed life phase => exact absurd hs (run_unfailed asks inside run component life phase)
  | ready life =>
    have hshape : (stages past component).shape? = some (.ready life.serial) := by rw [hs]; rfl
    have hslot := fits.slot?_of_shape hshape
    have known : (world.slotOf component).answer? component false = some (.ok life.serial) := by
      rw [fits.slotOf_of_shape hshape, Shape.answer?_ready]
      rfl
    refine ⟨life.serial, world, ⟨1, fun more le => ?_⟩, hslot⟩
    obtain ⟨depth, rfl⟩ := Nat.exists_eq_add_of_le' le
    simp only [Program.serve, Program.acquire_of_known _ known,
      World.provideSlot_of_slot? hslot]
  | absent =>
    have unknown : (world.slotOf component).answer? component false = none := by
      rw [fits.slotOf component, hs]
      rfl
    have hbegun := run.snoc (.begins component args false resume stack world unknown)
    -- What is served to some depth has not run out, and it is no panic: a panic would be met by
    -- the steps of the run.
    obtain ⟨depth, hserved⟩ := (run_halts asks inside run).request_settles
    have hanswer (answer : Except WiringError Serial) (after : World B)
        (h : program.serve depth (.acquire component args false) world =
          .returned answer after) :
        ∃ serial, answer = .ok serial ∧ after.slot? component = some (Shape.ready serial).slot := by
      cases depth with
      | zero => cases h
      | succ depth =>
        simp only [Program.serve, Program.acquire_of_unknown _ unknown] at h
        exact ⟨_, Program.construct_returned h⟩
    have hpanic (message : String) (after : World B)
        (h : program.serve depth (.acquire component args false) world =
          .panicked message after) : False := by
      cases depth with
      | zero => cases h
      | succ depth =>
        simp only [Program.serve, Program.acquire_of_unknown _ unknown] at h
        obtain ⟨phase, left, leads⟩ :=
          Program.construct_panicked (Program.serves_serve (α := α) depth) h
        obtain ⟨more, hmore⟩ := hbegun.extend leads
        exact run_not_panic asks inside hmore
    cases houtcome : program.serve depth (.acquire component args false) world with
    | exhausted => exact absurd houtcome hserved
    | panicked message after => exact (hpanic message after houtcome).elim
    | returned answer after =>
      obtain ⟨serial, rfl, hslot⟩ := hanswer answer after houtcome
      refine ⟨serial, after, ⟨depth, fun more le => ?_⟩, hslot⟩
      rw [Program.serve_within le _ world hserved, houtcome]

end Requests

theorem exists_traversed (host : Host B) (asks : client.Asks roots)
    (inside : ∀ root ∈ roots, root ∈ network.components) : ∃ value world past,
      program.Run (.start client host) past ⟨.done value, .client, world⟩ ∧
        Traversed network (.start client host) roots past world := by
  obtain ⟨last, leads, hend⟩ :=
    (run_halts asks inside (.nil : program.Run (.start client host) [] _)).exists_end
  obtain ⟨past, run⟩ := Program.Run.nil.extend leads
  rw [List.nil_append] at run
  obtain ⟨debts, rest, t⟩ := run_traverses asks inside run
  obtain ⟨value, world, rfl⟩ : ∃ value world, last = ⟨.done value, .client, world⟩ := by
    rcases Program.ended_of_step hend with hdone | ⟨message, world, rfl⟩
    · exact hdone
    · exact absurd rfl (t.owes.not_panics message)
  refine ⟨value, world, past, run, ?_⟩
  have fits := run_fits run
  obtain ⟨rfl, hrest⟩ := t.owes
  cases hrest
  have order : DepthFirst network.edges roots [] (begun past) := t.order _ (.nil _)
  have hstate (component : Identity) : component ∈ begun past →
      world.state component = .ready := by
    intro h
    rw [run_begun run] at h
    refine (fits.state_eq component).trans ?_
    cases hs : stages past component with
    | absent => exact absurd hs h
    | ready life => rfl
    | failed life phase => exact absurd hs (run_unfailed asks inside run component life phase)
    | running life phase =>
      have hmem := (fits.mem_components_iff component).mpr ⟨life, phase, hs⟩
      cases hmem
  constructor
  case order => exact order
  case once => exact order.nodup List.nodup_nil
  case begun_iff => exact order.mem_iff
  case ready => exact fun component h => hstate component ((order.mem_iff component).mpr h)
  case untouched =>
    intro component h
    rw [← order.mem_iff, run_begun run, not_not] at h
    refine (fits.state_eq component).trans ?_
    rw [h]
    rfl
  case complete =>
    intro before p hbefore component h
    obtain ⟨debts, rest, t⟩ := run_traverses asks inside hbefore
    rw [(run_fits hbefore).state_eq] at h
    obtain ⟨life, hready⟩ := Stage.eq_ready_of_state h
    exact t.complete component life hready
  case refused =>
    intro ρ before component args strict resume stack world hbefore h depth
    exact serve_refused hbefore h depth
  case handed =>
    intro ρ before component args strict resume stack world hbefore h
    exact serve_handed asks inside hbefore h

theorem asks_acquire (component : Identity) (args : Value) :
    (Code.acquire (B := B) component args false).Asks [component] :=
  .acquire component args fun answer => .done answer

end Network

theorem run_network {program : Program B} (network : Network program) {root : Identity}
    (known : root ∈ network.components) (args : Value) (host : Host B) :
    ∃ serial world past,
      program.Run (.start (Code.acquire root args false) host) past
        ⟨.done (.ok serial), .client, world⟩ ∧
      (∃ depth, ∀ more, depth ≤ more →
        (Code.acquire root args false).run (program.serve more) { host := host } =
          .returned (.ok serial) world) ∧
      network.Traversed (.start (Code.acquire root args false) host) [root] past world := by
  have asks := Network.asks_acquire (B := B) root args
  have inside : ∀ target ∈ [root], target ∈ network.components := by
    intro target h
    rw [List.mem_singleton.mp h]
    exact known
  obtain ⟨value, world, past, run, traversed⟩ := network.exists_traversed host asks inside
  obtain ⟨depth, hreturned⟩ := Program.run_of_leads run.leads
  obtain ⟨serial, after, ⟨enough, hserved⟩, -⟩ := traversed.handed [] root args false _ .client _
    .nil List.not_mem_nil
  have hserial : value = .ok serial := by
    have hrun := hreturned (max depth enough) (Nat.le_max_left ..)
    simp only [Code.acquire, Code.request, Code.run,
      hserved (max depth enough) (Nat.le_max_right ..)] at hrun
    cases hrun
    rfl
  subst hserial
  exact ⟨serial, world, past, run, ⟨depth, hreturned⟩, traversed⟩

def ringRequests (component : Identity) : Phase → List Identity
  | .constructing => if component = "a" then ["b", "a"] else []
  | .hooking => []
  | .initialising => if component = "a" then ["b"] else ["a", "b"]

theorem mem_ringRequests {component target : Identity} {phase : Phase}
    (h : target ∈ ringRequests component phase) : target = "a" ∨ target = "b" := by
  cases phase with
  | hooking => cases h
  | constructing | initialising =>
    simp only [ringRequests] at h
    split at h <;> simp at h <;> tauto

def ring : Network (Program.ofRequests ringRequests) :=
  .ofRequests {"a", "b"} ringRequests fun _ _ _ _ h =>
    Finset.mem_insert.mpr ((mem_ringRequests h).imp_right Finset.mem_singleton.mpr)

theorem network_ring : "a" ∈ ring.components ∧ ∃ serial world past,
    (Program.ofRequests ringRequests).Run (.start (Code.acquire "a" .null false) {}) past
      ⟨.done (.ok serial), .client, world⟩ ∧
    (∃ depth, ∀ more, depth ≤ more →
      (Code.acquire "a" .null false).run ((Program.ofRequests ringRequests).serve more) {} =
        .returned (.ok serial) world) ∧
    ring.Traversed (.start (Code.acquire "a" .null false) {}) ["a"] past world := by
  have known : "a" ∈ ring.components := by simp [ring, Network.ofRequests]
  exact ⟨known, run_network ring known .null {}⟩

end HookWiring
