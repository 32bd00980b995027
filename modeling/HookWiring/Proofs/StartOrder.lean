import HookWiring.Proofs.Hooking
import HookWiring.Proofs.Secluded
import HookWiring.Proofs.StableOrder

/-!
# The order in which components are started

Secluded components may be started in any order. In each run a component is ready if all its phases
have returned, and failed otherwise, and the host receives the blocks of those whose hooks have
returned, one after the other in the order of the run. A block is the same in both runs but for the
number of the instance, since numbers are given in the order of construction. Where no two
components have bindings of one priority under a name, and the same ones have bindings in both
runs, the bindings run in the same order, whichever component came first.
-/

namespace HookWiring

variable {B : Bodies}

/-! ### Other numbers for the instances -/

section Renumbering

variable (number : Serial → Serial)

def Target.renumber : Target B → Target B
  | .method serial index body => .method (number serial) index body
  | .applyDirectives serial reflection => .applyDirectives (number serial) reflection
  | .registerRoutes serial => .registerRoutes (number serial)
  | .handler created body => .handler created body

def Callback.renumber (callback : Callback B) : Callback B :=
  { callback with target := callback.target.renumber number }

def Binding.renumber (binding : Binding B) : Binding B :=
  { binding with callback := binding.callback.renumber number }

def Declaration.renumber (declaration : Declaration B) : Declaration B :=
  { declaration with callback := declaration.callback.renumber number }

def Registration.renumber : Registration B → Registration B
  | .action binding => .action (binding.renumber number)
  | .filter binding => .filter (binding.renumber number)
  | .shortcode name callback => .shortcode name (callback.renumber number)
  | .route mounted => .route mounted
  | .command name callback => .command name (callback.renumber number)

theorem Registration.actionNamed?_renumber (name : String) (registration : Registration B) :
    (registration.renumber number).actionNamed? name =
      (registration.actionNamed? name).map (Binding.renumber number) := by
  cases registration with
  | action binding =>
    by_cases h : binding.name = name <;> simp [renumber, actionNamed?, Binding.renumber, h]
  | _ => rfl

theorem Registration.filterNamed?_renumber (name : String) (registration : Registration B) :
    (registration.renumber number).filterNamed? name =
      (registration.filterNamed? name).map (Binding.renumber number) := by
  cases registration with
  | filter binding =>
    by_cases h : binding.name = name <;> simp [renumber, filterNamed?, Binding.renumber, h]
  | _ => rfl

theorem Declaration.registrations_renumber (settings : Settings) (declaration : Declaration B) :
    (declaration.renumber number).registrations settings =
      (declaration.registrations settings).map (Registration.renumber number) := by
  obtain ⟨kind, name, priority, argCount, callback⟩ := declaration
  cases kind <;> rfl

theorem declare?_renumber (kind : HookKind) (name : String) (priority : Int) (argCount : ArgCount)
    (callback : Callback B) : declare? kind name priority argCount (callback.renumber number) =
      (declare? kind name priority argCount callback).map (Declaration.renumber number) := by
  rw [declare?, declare?, Declaration.make, Declaration.make]
  split <;> rfl

namespace Reflection

theorem methodDeclarations_renumber (method : Method B) (callback : Callback B) :
    methodDeclarations method (callback.renumber number) =
      (methodDeclarations method callback).map (Declaration.renumber number) := by
  simp only [methodDeclarations, declare?_renumber, List.map_append, List.map_filterMap]

theorem apiDeclarations_renumber (reflection : Reflection B) (serial : Serial)
    (settings : Settings) : reflection.apiDeclarations (number serial) settings =
      (reflection.apiDeclarations serial settings).map (Declaration.renumber number) := by
  have hdirectives : reflection.directivesCallback (number serial) =
      (reflection.directivesCallback serial).renumber number := rfl
  have hroutes : reflection.routesCallback (number serial) =
      (reflection.routesCallback serial).renumber number := rfl
  simp only [apiDeclarations, hdirectives, hroutes, declare?_renumber]
  split
  · rw [List.map_filterMap]
    rfl
  · rfl

theorem registrations_renumber (reflection : Reflection B) (serial : Serial)
    (settings : Settings) : reflection.registrations (number serial) settings =
      (reflection.registrations serial settings).map (Registration.renumber number) := by
  have hmethod (index : Nat) (method : Method B) :
      reflection.methodCallback (number serial) index method =
        (reflection.methodCallback serial index method).renumber number := rfl
  have hdeclarations : reflection.declarations (number serial) settings =
      (reflection.declarations serial settings).map (Declaration.renumber number) := by
    simp only [declarations, hmethod, methodDeclarations_renumber, apiDeclarations_renumber,
      List.map_append, List.map_flatMap]
  simp only [registrations, Declaration.registerAll, hdeclarations, List.flatMap_map,
    List.map_flatMap, Declaration.registrations_renumber]

end Reflection

end Renumbering

/-- The number in the second order of the instance that has a number in the first. -/
def renumbering (first second : List Identity) (serial : Serial) : Serial :=
  match first[serial - 1]? with
  | some component => numbering second component
  | none => serial

theorem renumbering_numbering {first : List Identity} (second : List Identity)
    {component : Identity} (h : component ∈ first) :
    renumbering first second (numbering first component) = numbering second component := by
  rw [renumbering, numbering, Nat.add_sub_cancel, List.getElem?_idxOf h]

/-! ### One run -/

def Returned {α : Type} (past : List (Point B α)) (component : Identity) (phase : Phase) : Prop :=
  phase ∈ (observed Point.return? component past).map Prod.snd

instance {α : Type} (past : List (Point B α)) (component : Identity) (phase : Phase) :
    Decidable (Returned past component phase) :=
  inferInstanceAs (Decidable (_ ∈ _))

theorem Phase.mem_upTo_of_notMem {phase earlier : Phase} (h : phase ∉ earlier.upTo.dropLast) :
    earlier ∈ phase.upTo := by
  cases phase <;> cases earlier <;> first | decide | exact absurd (by decide) h

theorem Stage.mem_returns_of_upTo {stage : Stage} {phase earlier : Phase}
    (h : phase ∈ stage.returns.map Prod.snd) (hearlier : earlier ∈ phase.upTo) :
    earlier ∈ stage.returns.map Prod.snd := by
  cases stage with
  | absent => cases h
  | ready life => cases earlier <;> simp [returns, Phase.upTo]
  | running life other | failed life other =>
    cases other <;> cases phase <;> cases earlier <;> simp_all [returns, Phase.upTo]

namespace Seclusion

variable {program : Program B} (s : Seclusion program)

def block (past : List (Point B Unit)) (accesses : List Access) (component : Identity) :
    List (Registration B) :=
  if Returned past component .hooking then s.wiring (firstLife accesses component) else []

structure Started (accesses : List Access) (past : List (Point B Unit)) (world : World B) :
    Prop where
  run : program.Run (.start (.accessAll accesses) {}) past ⟨.done (), .client, world⟩
  served : ∃ depth, ∀ more, depth ≤ more →
    (Code.accessAll accesses).run (program.serve more) {} = .returned () world
  ready : ∀ component ∈ s.components, (∀ phase, Returned past component phase) →
    world.state component = .ready ∧
      world.ready? component = some (numbering (firstAccesses accesses) component)
  failed : ∀ component ∈ s.components, ∀ phase, ¬Returned past component phase →
    world.state component = .failed
  returned : ∀ component ∈ s.components, ∀ phase, Returned past component phase →
    ∃ result, s.ends (firstLife accesses component) phase (some result)
  /-- A phase that has not returned has panicked, or one before it has. -/
  panicked : ∀ component ∈ s.components, ∀ phase, ¬Returned past component phase →
    ∃ earlier ∈ phase.upTo, s.ends (firstLife accesses component) earlier none
  log : world.host.log = (firstAccesses accesses).flatMap (s.block past accesses)

variable {s} {past : List (Point B Unit)} {world : World B} {accesses : List Access}

theorem Settled.hooked_eq {life : Life} {stage : Stage} (settled : s.Settled life stage) :
    stage.hooked = if .hooking ∈ stage.returns.map Prod.snd then [life] else [] := by
  obtain ⟨rfl | ⟨phase, rfl, -⟩, -⟩ := settled
  · rfl
  · cases phase <;> rfl

theorem Booted.started (booted : s.Booted past world accesses)
    (run : program.Run (.start (.accessAll accesses) {}) past ⟨.done (), .client, world⟩)
    (hcovers : ∀ component ∈ s.components, component ∈ firstAccesses accesses) :
    s.Started accesses past world := by
  have fits := run_fits run
  have hreturned (component : Identity) (phase : Phase) : Returned past component phase ↔
      phase ∈ (stages past component).returns.map Prod.snd := by
    rw [Returned, run_returns run]
  have hcases (component : Identity) (hc : component ∈ s.components) :
      stages past component = .ready (firstLife accesses component) ∨
        ∃ phase, stages past component = .failed (firstLife accesses component) phase ∧
          s.ends (firstLife accesses component) phase none :=
    (booted.settled component (hcovers component hc)).ended
  have hready {component : Identity} {life : Life} (h : stages past component = .ready life)
      (phase : Phase) : Returned past component phase := by
    rw [hreturned, h]
    cases phase <;> simp [Stage.returns, Phase.upTo]
  have hfailed {component : Identity} {life : Life} {phase : Phase}
      (h : stages past component = .failed life phase) : ¬Returned past component phase := by
    rw [hreturned, h]
    cases phase <;> simp [Stage.returns, Phase.upTo]
  constructor
  case run => exact run
  case served => exact Program.run_of_leads run.leads
  case ready =>
    intro component hc hall
    rcases hcases component hc with h | ⟨phase, h, -⟩
    · rw [fits.state_eq, World.ready?, fits.slotOf, h]
      exact ⟨rfl, rfl⟩
    · exact absurd (hall phase) (hfailed h)
  case failed =>
    intro component hc phase hnot
    rcases hcases component hc with h | ⟨_, h, -⟩
    · exact absurd (hready h phase) hnot
    · rw [fits.state_eq, h]
      rfl
  case returned =>
    intro component hc phase h
    exact (booted.settled component (hcovers component hc)).returned phase
      ((hreturned component phase).mp h)
  case panicked =>
    intro component hc phase hnot
    rcases hcases component hc with h | ⟨earlier, h, panics⟩
    · exact absurd (hready h phase) hnot
    · refine ⟨earlier, Phase.mem_upTo_of_notMem ?_, panics⟩
      rw [hreturned, h] at hnot
      simpa [Stage.returns] using hnot
  case log =>
    rw [booted.log]
    refine List.flatMap_congr fun component hc => ?_
    rw [blockAt, (booted.settled component hc).hooked_eq, block]
    by_cases hhooked : Returned past component .hooking
    · rw [if_pos hhooked, if_pos ((hreturned component .hooking).mp hhooked),
        List.flatMap_singleton]
    · rw [if_neg hhooked, if_neg (mt (hreturned component .hooking).mpr hhooked), List.flatMap_nil]

end Seclusion

/-! ### Two runs -/

namespace Seclusion

variable {program : Program B} (s : Seclusion program)

section Comparison

variable (first second : List Access) (past past' : List (Point B Unit))
variable (named? : Registration B → Option (Binding B))

def Apart : Prop :=
  ∀ component ∈ s.components, ∀ other ∈ s.components, component ≠ other →
    ∀ binding ∈ (s.block past first component).filterMap named?,
      ∀ binding' ∈ (s.block past first other).filterMap named?,
        binding.priority ≠ binding'.priority

/-- A reader finds bindings of the same components in both runs. -/
def Alike : Prop :=
  ∀ component ∈ s.components, (s.block past first component).filterMap named? = [] ↔
    (s.block past' second component).filterMap named? = []

end Comparison

/-- Whether the construction and the hooks of a component return is the same in all of its lives. -/
def Steady (component : Identity) : Prop :=
  ∀ phase ∈ Phase.hooking.upTo, ∀ life life' : Life, life.component = component →
    life'.component = component → ∀ result, s.ends life phase (some result) →
      ¬s.ends life' phase none

structure SameStart (first second : List Access) (past past' : List (Point B Unit))
    (one two : World B) : Prop where
  orders : (firstAccesses first).Perm (firstAccesses second) ∧
    ∀ component, component ∈ firstAccesses first ↔ component ∈ s.components
  hooked : ∀ component ∈ s.components, s.Steady component →
    (Returned past component .hooking ↔ Returned past' component .hooking)
  blocks : ∀ component ∈ s.components,
    (Returned past component .hooking ↔ Returned past' component .hooking) →
      s.block past' second component = (s.block past first component).map
        (Registration.renumber (renumbering (firstAccesses first) (firstAccesses second)))
  actions : ∀ name, s.Apart first past (Registration.actionNamed? name) →
    s.Alike first second past past' (Registration.actionNamed? name) →
      Host.inOrder (two.host.actions name) = (Host.inOrder (one.host.actions name)).map
        (Binding.renumber (renumbering (firstAccesses first) (firstAccesses second)))
  filters : ∀ name, s.Apart first past (Registration.filterNamed? name) →
    s.Alike first second past past' (Registration.filterNamed? name) →
      Host.inOrder (two.host.filters name) = (Host.inOrder (one.host.filters name)).map
        (Binding.renumber (renumbering (firstAccesses first) (firstAccesses second)))

variable {s} {first second : List Access} {past past' : List (Point B Unit)} {one two : World B}

theorem Started.hooked_of_steady (first_started : s.Started first past one)
    (second_started : s.Started second past' two) {component : Identity}
    (hc : component ∈ s.components) (steady : s.Steady component)
    (h : Returned past component .hooking) : Returned past' component .hooking := by
  by_contra hnot
  obtain ⟨earlier, hearlier, panics⟩ := second_started.panicked component hc .hooking hnot
  have hreturned : Returned past component earlier := by
    rw [Returned, run_returns first_started.run] at h ⊢
    exact Stage.mem_returns_of_upTo h hearlier
  obtain ⟨result, may⟩ := first_started.returned component hc earlier hreturned
  exact steady earlier hearlier _ _ rfl rfl result may panics

theorem wiring_renumber (second : List Access) {component : Identity}
    (h : component ∈ firstAccesses first) :
    s.wiring (firstLife second component) = (s.wiring (firstLife first component)).map
      (Registration.renumber (renumbering (firstAccesses first) (firstAccesses second))) := by
  simp only [wiring, firstLife, ← renumbering_numbering (firstAccesses second) h]
  cases s.reflection component with
  | none => rfl
  | some reflection => exact reflection.registrations_renumber _ _ _

theorem block_renumber {component : Identity} (h : component ∈ firstAccesses first)
    (hhooked : Returned past component .hooking ↔ Returned past' component .hooking) :
    s.block past' second component = (s.block past first component).map
      (Registration.renumber (renumbering (firstAccesses first) (firstAccesses second))) := by
  rw [block, block, wiring_renumber second h]
  by_cases hreturned : Returned past component .hooking
  · rw [if_pos hreturned, if_pos (hhooked.mp hreturned)]
  · rw [if_neg hreturned, if_neg (mt hhooked.mpr hreturned), List.map_nil]

theorem returned_of_filterMap_ne {component : Identity}
    {named? : Registration B → Option (Binding B)}
    (h : (s.block past first component).filterMap named? ≠ []) :
    Returned past component .hooking := by
  by_contra hnot
  rw [block, if_neg hnot] at h
  exact h rfl

theorem filterMap_block_renumber {component : Identity} (h : component ∈ firstAccesses first)
    {named? : Registration B → Option (Binding B)}
    (hnamed : ∀ number registration, named? (registration.renumber number) =
      (named? registration).map (Binding.renumber number))
    (halike : (s.block past first component).filterMap named? = [] ↔
      (s.block past' second component).filterMap named? = []) :
    (s.block past' second component).filterMap named? =
      ((s.block past first component).filterMap named?).map
        (Binding.renumber (renumbering (firstAccesses first) (firstAccesses second))) := by
  by_cases hnil : (s.block past first component).filterMap named? = []
  · rw [hnil, halike.mp hnil, List.map_nil]
  · have hone : Returned past component .hooking := returned_of_filterMap_ne hnil
    have htwo : Returned past' component .hooking := returned_of_filterMap_ne (mt halike.mpr hnil)
    rw [block_renumber h (iff_of_true hone htwo), List.filterMap_map, List.map_filterMap]
    exact List.filterMap_congr fun registration _ => hnamed _ registration

theorem Started.inOrder_eq (first_started : s.Started first past one)
    (second_started : s.Started second past' two)
    (perm : (firstAccesses first).Perm (firstAccesses second))
    (hmem : ∀ component ∈ firstAccesses first, component ∈ s.components)
    {named? : Registration B → Option (Binding B)}
    (hnamed : ∀ number registration, named? (registration.renumber number) =
      (named? registration).map (Binding.renumber number))
    (apart : s.Apart first past named?) (alike : s.Alike first second past past' named?) :
    Host.inOrder (two.host.log.filterMap named?) =
      (Host.inOrder (one.host.log.filterMap named?)).map
        (Binding.renumber (renumbering (firstAccesses first) (firstAccesses second))) := by
  let bindings (component : Identity) : List (Binding B) :=
    (s.block past first component).filterMap named?
  let number := Binding.renumber (B := B)
    (renumbering (firstAccesses first) (firstAccesses second))
  have hone : one.host.log.filterMap named? = (firstAccesses first).flatMap bindings := by
    rw [first_started.log, List.filterMap_flatMap]
  have htwo : two.host.log.filterMap named? =
      (firstAccesses second).flatMap fun component => (bindings component).map number := by
    rw [second_started.log, List.filterMap_flatMap]
    refine List.flatMap_congr fun component hc => ?_
    have hc := perm.mem_iff.mpr hc
    exact filterMap_block_renumber hc hnamed (alike component (hmem component hc))
  have hswap : Host.inOrder ((firstAccesses first).flatMap fun component =>
      (bindings component).map number) = Host.inOrder ((firstAccesses second).flatMap
        fun component => (bindings component).map number) := by
    apply Host.inOrder_flatMap_perm perm (nodup_firstAccesses first)
    intro component hc other ho hne b hb b' hb'
    obtain ⟨binding, hbinding, rfl⟩ := List.mem_map.mp hb
    obtain ⟨binding', hbinding', rfl⟩ := List.mem_map.mp hb'
    exact apart component (hmem component hc) other (hmem other ho) hne binding hbinding binding'
      hbinding'
  -- the numbers of the instances change no priority, so they may be changed after the sorting
  rw [htwo, ← hswap, hone, ← List.map_flatMap]
  have hpriority (binding : Binding B) : (number binding).priority = binding.priority := rfl
  exact Host.inOrder_map hpriority _

theorem Started.sameStart (first_started : s.Started first past one)
    (second_started : s.Started second past' two)
    (hfirst : ∀ component, component ∈ firstAccesses first ↔ component ∈ s.components)
    (hsecond : ∀ component, component ∈ firstAccesses second ↔ component ∈ s.components) :
    s.SameStart first second past past' one two := by
  have perm : (firstAccesses first).Perm (firstAccesses second) :=
    (List.perm_ext_iff_of_nodup (nodup_firstAccesses first) (nodup_firstAccesses second)).mpr
      fun component => (hfirst component).trans (hsecond component).symm
  have hmem := fun component => (hfirst component).mp
  constructor
  case orders => exact ⟨perm, hfirst⟩
  case hooked =>
    intro component hc steady
    exact ⟨first_started.hooked_of_steady second_started hc steady,
      second_started.hooked_of_steady first_started hc steady⟩
  case blocks => exact fun component hc => block_renumber ((hfirst component).mpr hc)
  case actions =>
    intro name
    exact first_started.inOrder_eq second_started perm hmem
      (fun number => Registration.actionNamed?_renumber number name)
  case filters =>
    intro name
    exact first_started.inOrder_eq second_started perm hmem
      (fun number => Registration.filterNamed?_renumber number name)

end Seclusion

theorem startOrder {program : Program B} (s : Seclusion program) (first second : List Access)
    (hfirst : ∀ component, component ∈ s.components ↔ ∃ a ∈ first, a.component = component)
    (hsecond : ∀ component, component ∈ s.components ↔ ∃ a ∈ second, a.component = component) :
    ∃ past past' one two, s.Started first past one ∧ s.Started second past' two ∧
      s.SameStart first second past past' one two := by
  have hcovers (accesses : List Access) (h : ∀ component, component ∈ s.components ↔
      ∃ a ∈ accesses, a.component = component) (component : Identity) :
      component ∈ firstAccesses accesses ↔ component ∈ s.components :=
    mem_firstAccesses.trans (h component).symm
  have hstarted (accesses : List Access) (h : ∀ component, component ∈ s.components ↔
      ∃ a ∈ accesses, a.component = component) : ∃ past world, s.Started accesses past world := by
    obtain ⟨past, world, run, booted⟩ :=
      s.exists_booted fun a ha => (h a.component).mpr ⟨a, ha, rfl⟩
    exact ⟨past, world, booted.started run fun c => (hcovers accesses h c).mpr⟩
  obtain ⟨past, one, first_started⟩ := hstarted first hfirst
  obtain ⟨past', two, second_started⟩ := hstarted second hsecond
  exact ⟨past, past', one, two, first_started, second_started,
    first_started.sameStart second_started (hcovers first hfirst) (hcovers second hsecond)⟩

/-! ### Three components -/

def fleetDoc (component : Identity) : String :=
  if component = "Alpha" then " @action boot, 5"
  else if component = "Gamma" then " @action boot, 20"
  else " @action boot"

def fleetPriority (component : Identity) : Int :=
  if component = "Alpha" then 5 else if component = "Gamma" then 20 else 11

def fleetReflection (component : Identity) : Reflection widgetBodies :=
  { component, classDoc := ""
    methods := [{ name := "boot", argCount := 0, doc := fleetDoc component, body := () }] }

def stalls (component : Identity) : Value → Bool
  | .bool true => component = "Gamma"
  | _ => false

def fleetProgram : Program widgetBodies where
  settings := {}
  component identity :=
    { construct := fun serial => .ask (.query (.read serial)) fun _ => .done ()
      hooks := fun _ => .done (some (fleetReflection identity))
      init := fun _ args => if stalls identity args then .panic "no fuel" else .done () }
  method _ _ _ := .done (.ok .null)
  setter := nofun
  handler := nofun

def fleetEnd (life : Life) : (phase : Phase) → Option (phase.Result widgetBodies)
  | .constructing => some ()
  | .hooking => some (some (fleetReflection life.component))
  | .initialising => if stalls life.component life.args then none else some ()

def fleet : Seclusion fleetProgram where
  components := {"Alpha", "Beta", "Gamma"}
  reflection component := some (fleetReflection component)
  ends life phase ending := ending = fleetEnd life phase
  secluded life _ phase := by
    cases phase with
    | constructing =>
      have own : (Query.read life.serial : Query widgetBodies).IsSecluded := trivial
      exact .query own fun _ => .done rfl
    | hooking => exact .done rfl
    | initialising =>
      change Code.Secluded _
        (if stalls life.component life.args then .panic "no fuel" else .done ())
      cases h : stalls life.component life.args with
      | true => exact .panic (by simp [fleetEnd, h])
      | false => exact .done (by simp [fleetEnd, h])
  static _ _ _ h := Option.some.inj h

def fleetFirst : List Access :=
  [⟨"Alpha", .null, true⟩, ⟨"Beta", .null, false⟩, ⟨"Gamma", .bool true, false⟩]

def fleetSecond : List Access :=
  [⟨"Gamma", .bool false, false⟩, ⟨"Beta", .null, false⟩, ⟨"Alpha", .null, false⟩,
    ⟨"Beta", .null, true⟩]

section Fleet

variable {accesses : List Access} {past : List (Point widgetBodies Unit)}
variable {world : World widgetBodies} {component : Identity}

theorem fleet_hooked (started : fleet.Started accesses past world)
    (hc : component ∈ fleet.components) : Returned past component .hooking := by
  by_contra hnot
  obtain ⟨earlier, hmem, h⟩ := started.panicked component hc .hooking hnot
  cases earlier with
  | initialising => simp [Phase.upTo] at hmem
  | constructing | hooking => cases h

theorem fleet_stalled (started : fleet.Started fleetFirst past world) :
    world.state "Gamma" = .failed := by
  refine started.failed "Gamma" (by decide) .initialising fun hreturned => ?_
  obtain ⟨_, hend⟩ := started.returned "Gamma" (by decide) .initialising hreturned
  cases hend

theorem fleet_priorities (started : fleet.Started accesses past world)
    (hc : component ∈ fleet.components) :
    ((fleet.block past accesses component).filterMap
        (Registration.actionNamed? "boot")).map Binding.priority = [fleetPriority component] := by
  have hregistrations (serial : Serial) :
      (((fleetReflection component).registrations serial {}).filterMap
        (Registration.actionNamed? "boot")).map Binding.priority = [fleetPriority component] := by
    simp only [fleet, Finset.mem_insert, Finset.mem_singleton] at hc
    rcases hc with rfl | rfl | rfl <;> rfl
  rw [Seclusion.block, if_pos (fleet_hooked started hc)]
  exact hregistrations _

theorem fleet_apart (started : fleet.Started accesses past world) :
    fleet.Apart accesses past (Registration.actionNamed? "boot") := by
  intro component hc other ho hne binding hbinding binding' hbinding'
  have hpriority := List.mem_map_of_mem (f := Binding.priority) hbinding
  have hpriority' := List.mem_map_of_mem (f := Binding.priority) hbinding'
  rw [fleet_priorities started hc, List.mem_singleton] at hpriority
  rw [fleet_priorities started ho, List.mem_singleton] at hpriority'
  rw [hpriority, hpriority']
  simp only [fleet, Finset.mem_insert, Finset.mem_singleton] at hc ho
  rcases hc with rfl | rfl | rfl <;> rcases ho with rfl | rfl | rfl <;>
    first | exact absurd rfl hne | decide

theorem fleet_bindings_ne (started : fleet.Started accesses past world)
    (hc : component ∈ fleet.components) :
    (fleet.block past accesses component).filterMap (Registration.actionNamed? "boot") ≠ [] := by
  intro h
  have hpriorities := fleet_priorities started hc
  rw [h] at hpriorities
  cases hpriorities

end Fleet

theorem startOrder_fleet : ∃ past past' one two,
    fleet.Started fleetFirst past one ∧ fleet.Started fleetSecond past' two ∧
    (one.state "Gamma" = .failed ∧ two.state "Gamma" = .ready ∧ two.ready? "Alpha" = some 3) ∧
    fleet.Apart fleetFirst past (Registration.actionNamed? "boot") ∧
    fleet.Alike fleetFirst fleetSecond past past' (Registration.actionNamed? "boot") ∧
    Host.inOrder (two.host.actions "boot") = (Host.inOrder (one.host.actions "boot")).map
      (Binding.renumber (renumbering ["Alpha", "Beta", "Gamma"] ["Gamma", "Beta", "Alpha"])) := by
  obtain ⟨past, past', one, two, first_started, second_started, same⟩ :=
    startOrder fleet fleetFirst fleetSecond (by simp [fleet, fleetFirst, eq_comm])
      (by simp [fleet, fleetSecond, eq_comm]; tauto)
  have hready (component : Identity) (hc : component ∈ fleet.components) :
      two.state component = .ready ∧
        two.ready? component = some (numbering (firstAccesses fleetSecond) component) := by
    refine second_started.ready component hc fun phase => ?_
    by_contra hnot
    obtain ⟨earlier, -, h⟩ := second_started.panicked component hc phase hnot
    simp only [fleet, Finset.mem_insert, Finset.mem_singleton] at hc
    rcases hc with rfl | rfl | rfl <;> cases earlier <;> cases h
  have apart := fleet_apart first_started
  have alike : fleet.Alike fleetFirst fleetSecond past past'
      (Registration.actionNamed? "boot") := fun component hc =>
    iff_of_false (fleet_bindings_ne first_started hc) (fleet_bindings_ne second_started hc)
  refine ⟨past, past', one, two, first_started, second_started, ⟨fleet_stalled first_started, ?_⟩,
    apart, alike, same.actions "boot" apart alike⟩
  exact ⟨(hready "Gamma" (by decide)).1, (hready "Alpha" (by decide)).2⟩

/-- Not every secluded component becomes ready: one that panics has failed. -/
theorem unready_panic : ¬∀ (program : Program widgetBodies) (s : Seclusion program)
    (accesses : List Access) (past : List (Point widgetBodies Unit)) (after : World widgetBodies),
    (∀ component, component ∈ s.components ↔ ∃ a ∈ accesses, a.component = component) →
      program.Run (.start (.accessAll accesses) {}) past ⟨.done (), .client, after⟩ →
        ∀ component ∈ s.components, after.state component = .ready := by
  intro h
  obtain ⟨past, after, run, booted⟩ :
      ∃ past after, fleetProgram.Run (.start (.accessAll fleetFirst) {}) past
        ⟨.done (), .client, after⟩ ∧ fleet.Booted past after fleetFirst :=
    fleet.exists_booted (by decide)
  have hready := h fleetProgram fleet fleetFirst past after
    (by simp [fleet, fleetFirst, eq_comm]) run "Gamma" (by decide)
  rw [fleet_stalled (booted.started run (by decide))] at hready
  cases hready

end HookWiring
