import HookWiring.Proofs.Network

/-!
# Traversals

A run of a network goes through its components depth first. What a run keeps is said of its history
and of the debts on the stack: the answers that the code of a component was given and what it has
still to ask for are together all of its requests, and what is pending, taken up after what was
begun, gives the depth-first order from the roots.
-/

namespace HookWiring

variable {B : Bodies} {α ρ : Type}

namespace Point

def begun? (p : Point B α) : Option Identity :=
  match p.call? with
  | some (life, .constructing) => some life.component
  | _ => none

def answer? : Point B α → Option (Life × Phase × Identity × Except WiringError Serial)
  | ⟨.ask (.acquire component _ strict) _, stack, world⟩ =>
    ((world.slotOf component).answer? component strict).bind fun answer =>
      stack.sequences.head?.map fun frame => (frame.1, frame.2, component, answer)
  | ⟨.done _, .sequence life .initialising _ below, _⟩ =>
    below.sequences.head?.map fun frame =>
      (frame.1, frame.2, life.component, .ok life.serial)
  | _ => none

end Point

def begun (past : List (Point B α)) : List Identity :=
  past.filterMap Point.begun?

def answered (component : Identity) (past : List (Point B α)) : List (Phase × Identity) :=
  (observed Point.answer? component past).map fun seen => (seen.2.1, seen.2.2.1)

theorem begun_append (past more : List (Point B α)) :
    begun (past ++ more) = begun past ++ begun more :=
  List.filterMap_append

theorem begun_snoc_of_none {p : Point B α} (h : p.begun? = none) (past : List (Point B α)) :
    begun (past ++ [p]) = begun past := by
  rw [begun_append, begun, begun, List.filterMap_cons_none h]
  exact List.append_nil _

theorem begun_snoc_of_some {p : Point B α} {component : Identity}
    (h : p.begun? = some component) (past : List (Point B α)) :
    begun (past ++ [p]) = begun past ++ [component] := by
  rw [begun_append, begun, begun, List.filterMap_cons_some h]
  rfl

theorem answered_append (component : Identity) (past more : List (Point B α)) :
    answered component (past ++ more) = answered component past ++ answered component more := by
  rw [answered, observed_append, List.map_append]
  rfl

theorem answered_of_none {p : Point B α} (h : p.answer? = none) (component : Identity) :
    answered component [p] = [] := by
  rw [answered, observed_of_none h]
  rfl

theorem answered_snoc_of_none {p : Point B α} (h : p.answer? = none) (component : Identity)
    (past : List (Point B α)) : answered component (past ++ [p]) = answered component past := by
  rw [answered_append, answered_of_none h, List.append_nil]

def delivered (target : Identity) (debts : List Debt) (component : Identity) :
    List (Phase × Identity) :=
  match debts with
  | [] => []
  | debt :: _ => if debt.life.component = component then [(debt.phase, target)] else []

theorem answered_of_head {p : Point B α} {target : Identity} {debts : List Debt}
    {answer : Except WiringError Serial}
    (h : p.answer? = (debts.map fun debt => (debt.life, debt.phase)).head?.map fun frame =>
      (frame.1, frame.2, target, answer)) (component : Identity) :
    answered component [p] = delivered target debts component := by
  cases debts with
  | nil => exact answered_of_none h component
  | cons debt lower =>
    rw [answered, observed_of_some h, delivered]
    by_cases ho : debt.life.component = component
    · rw [if_pos ho, if_pos ho]; rfl
    · rw [if_neg ho, if_neg ho]; rfl

namespace Network

variable {program : Program B} (network : Network program)

/-- The answers that every running sequence was given make up all its requests, together with the
request it waits for and those it owes. -/
def Balanced (given : Identity → List (Phase × Identity)) : List Identity → List Debt → Prop
  | _, [] => True
  | busy, debt :: lower =>
    given debt.life.component ++ busy.map (fun target => (debt.phase, target)) ++ debt.owed =
        network.all debt.life.component ∧
      Balanced given [debt.life.component] lower

variable {network} {given : Identity → List (Phase × Identity)} {busy : List Identity}
variable {debts debts' : List Debt} {rest rest' : List Identity} {target : Identity}

theorem Balanced.congr {other : Identity → List (Phase × Identity)}
    (h : network.Balanced given busy debts)
    (same : ∀ debt ∈ debts, other debt.life.component = given debt.life.component) :
    network.Balanced other busy debts := by
  induction debts generalizing busy with
  | nil => trivial
  | cons debt lower ih =>
    refine ⟨?_, ih h.2 fun d hd => same d (List.mem_cons_of_mem _ hd)⟩
    rw [same debt List.mem_cons_self]
    exact h.1

theorem Balanced.pays (h : network.Balanced given [] debts)
    (pays : Pays target debts rest debts' rest') : network.Balanced given [target] debts' := by
  cases pays with
  | client => trivial
  | sequence life phase owed lower =>
    refine ⟨?_, h.2⟩
    rw [← h.1]
    simp

theorem Balanced.deliver (h : network.Balanced given [target] debts)
    (nodup : (debts.map fun debt => debt.life.component).Nodup) :
    network.Balanced (fun c => given c ++ delivered target debts c) [] debts := by
  cases debts with
  | nil => trivial
  | cons debt lower =>
    have hfresh := (List.nodup_cons.mp nodup).1
    refine ⟨?_, h.2.congr fun d hd => ?_⟩
    · rw [← h.1]
      simp [delivered]
    · have hne : debt.life.component ≠ d.life.component := fun heq =>
        hfresh (List.mem_map.mpr ⟨d, hd, heq.symm⟩)
      simp [delivered, hne]

variable (network) in
structure Traverses (roots : List Identity) (past : List (Point B α)) (now : Point B α)
    (debts : List Debt) (rest : List Identity) : Prop where
  owes : network.Owes now.stack now.code debts rest
  known : ∀ debt ∈ debts, debt.life.component ∈ network.components
  inside : ∀ target ∈ pending debts rest, target ∈ network.components
  balanced : network.Balanced (fun component => answered component past) [] debts
  unasked : ∀ component, stages past component = .absent → answered component past = []
  complete : ∀ component life, stages past component = .ready life →
    answered component past = network.all component
  order : ∀ final, DepthFirst network.edges (pending debts rest) (begun past) final →
    DepthFirst network.edges roots [] final

section Steps

variable {roots : List Identity} {past : List (Point B α)} {p q : Point B α}

theorem stages_of_running
    (hchange : ∀ change, p.change? = some change →
      ∃ life phase, change.2 = .running life phase) {component : Identity} {stage : Stage}
    (h : stages (past ++ [p]) component = stage)
    (idle : ∀ life phase, stage ≠ .running life phase) : stages past component = stage := by
  rw [stages_snoc] at h
  cases hc : p.change? with
  | none => rwa [Point.record_of_none hc] at h
  | some change =>
    rw [Point.record_of_some hc, Function.update_apply] at h
    split at h
    · obtain ⟨life, phase, hrunning⟩ := hchange change hc
      exact absurd (h.symm.trans hrunning) (idle life phase)
    · exact h

theorem Traverses.of_same (t : network.Traverses roots past p debts rest)
    (hchange : ∀ change, p.change? = some change →
      ∃ life phase, change.2 = .running life phase)
    (hanswer : p.answer? = none) (hbegun : p.begun? = none)
    (owes : network.Owes q.stack q.code debts' rest)
    (known : ∀ debt ∈ debts', debt.life.component ∈ network.components)
    (balanced : network.Balanced (fun c => answered c past) [] debts')
    (same : pending debts' rest = pending debts rest) :
    network.Traverses roots (past ++ [p]) q debts' rest := by
  have hgiven (c : Identity) : answered c (past ++ [p]) = answered c past :=
    answered_snoc_of_none hanswer c past
  constructor
  case owes => exact owes
  case known => exact known
  case inside => rw [same]; exact t.inside
  case balanced => simpa only [hgiven] using balanced
  case unasked =>
    intro c h
    rw [hgiven]
    exact t.unasked c (stages_of_running hchange h nofun)
  case complete =>
    intro c life h
    rw [hgiven]
    exact t.complete c life (stages_of_running hchange h nofun)
  case order => rw [same, begun_snoc_of_none hbegun]; exact t.order

theorem running_of_delivered {stages : Identity → Stage} (fits : Fits stages q)
    (owes : network.Owes q.stack q.code debts rest) {component : Identity}
    (h : delivered target debts component ≠ []) :
    ∃ life phase, stages component = .running life phase := by
  cases debts with
  | nil => exact absurd rfl h
  | cons debt lower =>
    simp only [delivered] at h
    split at h
    · next heq =>
      refine ⟨debt.life, debt.phase, heq ▸ (fits.running debt.life debt.phase).mp ?_⟩
      rw [owes.sequences_eq]
      exact List.mem_cons_self
    · exact absurd rfl h

theorem nodup_of_owes {stages : Identity → Stage} (fits : Fits stages q)
    (owes : network.Owes q.stack q.code debts rest) :
    (debts.map fun debt => debt.life.component).Nodup := by
  have hnodup := fits.nodup
  rw [Stack.components, owes.sequences_eq, List.map_map] at hnodup
  exact hnodup

theorem Traverses.of_answer (fits : Fits (stages (past ++ [p])) q)
    (hanswer : ∃ answer, p.answer? =
      (debts.map fun debt => (debt.life, debt.phase)).head?.map fun frame =>
        (frame.1, frame.2, target, answer))
    (hbegun : p.begun? = none)
    (owes : network.Owes q.stack q.code debts rest)
    (known : ∀ debt ∈ debts, debt.life.component ∈ network.components)
    (inside : ∀ target ∈ pending debts rest, target ∈ network.components)
    (balanced : network.Balanced (fun c => answered c past) [target] debts)
    (unasked : ∀ c, stages (past ++ [p]) c = .absent → answered c past = [])
    (complete : ∀ c life, stages (past ++ [p]) c = .ready life →
      answered c past = network.all c)
    (order : ∀ final, DepthFirst network.edges (pending debts rest) (begun past) final →
      DepthFirst network.edges roots [] final) :
    network.Traverses roots (past ++ [p]) q debts rest := by
  obtain ⟨answer, hanswer⟩ := hanswer
  have hgiven (c : Identity) :
      answered c (past ++ [p]) = answered c past ++ delivered target debts c := by
    rw [answered_append, answered_of_head hanswer]
  have hquiet (c : Identity) (h : ∀ life phase, stages (past ++ [p]) c ≠ .running life phase) :
      answered c (past ++ [p]) = answered c past := by
    have hnil : delivered target debts c = [] := by
      by_contra hne
      obtain ⟨life, phase, hrun⟩ := running_of_delivered fits owes hne
      exact h life phase hrun
    rw [hgiven, hnil, List.append_nil]
  constructor
  case owes => exact owes
  case known => exact known
  case inside => exact inside
  case balanced =>
    have hbalanced := balanced.deliver (nodup_of_owes fits owes)
    simpa only [hgiven] using hbalanced
  case unasked =>
    intro c h
    rw [hquiet c (by rw [h]; exact nofun)]
    exact unasked c h
  case complete =>
    intro c life h
    rw [hquiet c (by rw [h]; exact nofun)]
    exact complete c life h
  case order => rw [begun_snoc_of_none hbegun]; exact order

theorem Traverses.of_beginning (t : network.Traverses roots past p debts rest) (life : Life)
    (habsent : stages past life.component = .absent) (fresh : life.component ∉ begun past)
    (hchange : p.change? = some (life.component, .running life .constructing))
    (hanswer : p.answer? = none) (hbegun : p.begun? = some life.component)
    (pays : Pays life.component debts rest debts' rest')
    (owes : network.Owes q.stack q.code
      (⟨life, .constructing, network.all life.component⟩ :: debts') rest') :
    network.Traverses roots (past ++ [p]) q
      (⟨life, .constructing, network.all life.component⟩ :: debts') rest' := by
  have hrunning (change : Identity × Stage) (h : p.change? = some change) :
      ∃ life phase, change.2 = .running life phase := by
    cases hchange.symm.trans h
    exact ⟨_, _, rfl⟩
  have hgiven (c : Identity) : answered c (past ++ [p]) = answered c past :=
    answered_snoc_of_none hanswer c past
  have hmem := t.inside life.component pays.target_mem
  constructor
  case owes => exact owes
  case known =>
    exact List.forall_mem_cons.mpr ⟨hmem, pays.known t.known⟩
  case inside =>
    intro target h
    rw [pending_cons, List.mem_append] at h
    rcases h with hown | hlater
    · obtain ⟨⟨phase, _⟩, htagged, rfl⟩ := List.mem_map.mp hown
      exact network.mem_of_mem_all hmem htagged
    · exact t.inside target (pays.pending_subset hlater)
  case balanced =>
    simp only [hgiven]
    refine ⟨?_, t.balanced.pays pays⟩
    simp [t.unasked _ habsent]
  case unasked =>
    intro c h
    rw [hgiven]
    exact t.unasked c (stages_of_running hrunning h nofun)
  case complete =>
    intro c other h
    rw [hgiven]
    exact t.complete c other (stages_of_running hrunning h nofun)
  case order =>
    intro final h
    rw [pending_cons, begun_snoc_of_some hbegun] at h
    refine t.order final ?_
    rw [pays.pending_eq]
    exact .visit_of_append fresh h

theorem Traverses.step (t : network.Traverses roots past p debts rest)
    (fits : Fits (stages past) p) (hbegun : ∀ c, c ∈ begun past ↔ stages past c ≠ .absent)
    (step : program.Step p q) :
    ∃ debts' rest', network.Traverses roots (past ++ [p]) q debts' rest' := by
  have fits' : Fits (stages (past ++ [p])) q := by
    rw [stages_snoc]
    exact fits.step step
  cases step with
  | query query resume stack world =>
    exact ⟨debts, rest, t.of_same nofun rfl rfl (t.owes.query _) t.known t.balanced rfl⟩
  | answer component args strict resume stack world answer known =>
    have hstages := stages_snoc past
      ⟨.ask (.acquire component args strict) resume, stack, world⟩
    rw [Point.record_of_none (by simp only [Point.change?, known])] at hstages
    obtain ⟨-, debts', rest', pays, howes⟩ := t.owes.acquire
    have hmem : component ∈ begun past := by
      obtain ⟨life, hlife⟩ := fits.life?_of_known known
      rw [hbegun]
      rintro habsent
      rw [habsent] at hlife
      cases hlife
    refine ⟨debts', rest', .of_answer fits' ⟨answer, ?_⟩ ?_ (howes _) (pays.known t.known)
      (fun target h => t.inside target (pays.pending_subset h)) (t.balanced.pays pays)
      (hstages ▸ t.unasked) (hstages ▸ t.complete) ?_⟩
    · simp only [Point.answer?, known, Option.bind_some]
      rw [t.owes.sequences_eq, pays.frames_eq]
    · simp only [Point.begun?, Point.call?, known]
    · intro final h
      refine t.order final ?_
      rw [pays.pending_eq]
      exact .skip hmem h
  | begins component args strict resume stack world unknown =>
    have habsent := fits.absent_of_unknown unknown
    obtain ⟨-, debts', rest', pays, howes⟩ := t.owes.acquire
    have hmem := t.inside component pays.target_mem
    refine ⟨_, rest', t.of_beginning ⟨component, world.instances.length + 1, args⟩
      habsent ?_ ?_ ?_ ?_ pays
      ⟨_, debts', network.asks ⟨component, _, args⟩ hmem .constructing, rfl, howes⟩⟩
    · rw [hbegun]
      exact fun h => h habsent
    · simp only [Point.change?, unknown]
    · simp only [Point.answer?, unknown, Option.bind_none]
    · simp only [Point.begun?, Point.call?, unknown]
  | calls callback args resume stack world => exact (t.owes.not_calls).elim
  | hooks life resume below world =>
    obtain ⟨targets, lower, hasks, rfl, hbelow⟩ := t.owes
    cases hasks
    have hmem := t.known _ List.mem_cons_self
    refine ⟨⟨life, .hooking, network.following life.component .constructing⟩ :: lower, rest,
      t.of_same ?_ rfl rfl ⟨_, lower, network.asks life hmem .hooking, rfl, hbelow⟩ ?_
        t.balanced rfl⟩
    · rintro change ⟨⟩
      exact ⟨life, .hooking, rfl⟩
    · exact List.forall_mem_cons.mpr (List.forall_mem_cons.mp t.known)
  | inits life reflection resume below world =>
    obtain ⟨targets, lower, hasks, rfl, hbelow⟩ := t.owes
    cases hasks
    have hmem := t.known _ List.mem_cons_self
    refine ⟨⟨life, .initialising, network.following life.component .hooking⟩ :: lower, rest,
      t.of_same ?_ rfl rfl ⟨network.requests life.component .initialising, lower,
        network.asks life hmem .initialising, by simp [following, tagged], hbelow⟩ ?_
        t.balanced rfl⟩
    · rintro change ⟨⟩
      exact ⟨life, .initialising, rfl⟩
    · exact List.forall_mem_cons.mpr (List.forall_mem_cons.mp t.known)
  | finishes life resume below world =>
    obtain ⟨targets, lower, hasks, rfl, hbelow⟩ := t.owes
    cases hasks
    have howes := hbelow (.ok life.serial)
    have hstages := stages_snoc past ⟨.done (), .sequence life .initialising resume below, world⟩
    rw [Point.record_of_some rfl] at hstages
    -- The last phase owes nothing, so what the sequence was given are all its requests.
    have hdone := t.balanced.1
    refine ⟨lower, rest, .of_answer fits' ⟨.ok life.serial, ?_⟩ rfl howes
      (List.forall_mem_cons.mp t.known).2 t.inside t.balanced.2 ?_ ?_ t.order⟩
    · rw [← howes.sequences_eq]
      rfl
    · intro c h
      rw [hstages, Function.update_apply] at h
      split at h
      · cases h
      · exact t.unasked c h
    · intro c other h
      rw [hstages, Function.update_apply] at h
      split at h
      · next heq =>
        rw [heq, ← hdone]
        simp [following]
      · exact t.complete c other h
  | returns answer resume below world => exact t.owes.elim
  | fails message life phase resume below world => exact absurd rfl (t.owes.not_panics message)
  | escapes message resume below world => exact t.owes.elim

end Steps

end Network

end HookWiring
