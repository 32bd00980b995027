import HookWiring.Proofs.GeneratedCalls
import HookWiring.Proofs.Stacking
import Mathlib.Data.Nat.Find

/-!
# Arguments that do not decode

A call of a wired method is decided before the body of the method begins. The first argument that
cannot be read, in the order of the positions, is the error of the call, and nothing has happened
to the world then. If all of them can be read, the call is one run of the body on what was read.
-/

namespace HookWiring

variable {B : Bodies} {α ρ : Type}

/-! ### The first argument that is not read -/

def Param.type? : Param → Option ArgType
  | .invocation => none
  | .positional type => some type

@[simp] theorem Param.type?_invocation : type? .invocation = none :=
  rfl

@[simp] theorem Param.type?_positional (type : ArgType) : type? (.positional type) = some type :=
  rfl

def positionalTypes (params : List Param) : List ArgType :=
  params.filterMap Param.type?

def Unread (args : List Value) (types : List ArgType) (index : Nat) : Prop :=
  ∃ type, types[index]? = some type ∧ type.decode? (argumentAt args index) = none

structure FirstUnread (args : List Value) (types : List ArgType) (index : Nat) : Prop where
  unread : Unread args types index
  earlier : ∀ i < index, ¬Unread args types i

theorem argumentAt_drop (args : List Value) (index i : Nat) :
    argumentAt (args.drop index) i = argumentAt args (index + i) := by
  rw [argumentAt, argumentAt, List.getElem?_drop]

theorem not_unread_nil (args : List Value) (index : Nat) : ¬Unread args [] index := by
  simp [Unread]

theorem unread_cons_zero {args : List Value} {type : ArgType} {types : List ArgType} :
    Unread args (type :: types) 0 ↔ type.decode? (argumentAt args 0) = none := by
  simp [Unread]

theorem unread_cons_succ {args : List Value} {type : ArgType} {types : List ArgType}
    {index : Nat} : Unread args (type :: types) (index + 1) ↔ Unread (args.drop 1) types index := by
  simp only [Unread, List.getElem?_cons_succ, argumentAt_drop, Nat.add_comm 1 index]

theorem FirstUnread.tail {args : List Value} {type : ArgType} {types : List ArgType} {index : Nat}
    (h : FirstUnread args (type :: types) (index + 1)) :
    FirstUnread (args.drop 1) types index := by
  refine ⟨unread_cons_succ.mp h.unread, fun i hi hunread => ?_⟩
  exact h.earlier (i + 1) (by omega) (unread_cons_succ.mpr hunread)

theorem exists_firstUnread {args : List Value} {types : List ArgType}
    (h : ∃ index, Unread args types index) : ∃ index, FirstUnread args types index := by
  classical
  exact ⟨Nat.find h, Nat.find_spec h, fun i hi => Nat.find_min h hi⟩

theorem FirstUnread.unique {args : List Value} {types : List ArgType} {i j : Nat}
    (h : FirstUnread args types i) (h' : FirstUnread args types j) : i = j := by
  rcases Nat.lt_trichotomy i j with hlt | heq | hlt
  · exact absurd h.unread (h'.earlier i hlt)
  · exact heq
  · exact absurd h'.unread (h.earlier j hlt)

theorem FirstUnread.of_agree {args other : List Value} {types : List ArgType} {index : Nat}
    (h : FirstUnread args types index)
    (agree : ∀ i ≤ index, argumentAt other i = argumentAt args i) :
    FirstUnread other types index := by
  have hiff (i : Nat) (hi : i ≤ index) : Unread other types i ↔ Unread args types i := by
    rw [Unread, Unread, agree i hi]
  refine ⟨(hiff index (Nat.le_refl _)).mpr h.unread, fun i hi hunread => ?_⟩
  exact h.earlier i hi ((hiff i (Nat.le_of_lt hi)).mp hunread)

/-! ### Reading of the inputs -/

theorem readInputs_of_firstUnread {args : List Value} {index : Nat} {params : List Param}
    {k : Nat} (h : FirstUnread (args.drop index) (positionalTypes params) k) :
    readInputs args index params = .error (.argument (index + k)) := by
  induction params generalizing index k with
  | nil => exact absurd h.unread (not_unread_nil _ _)
  | cons param params ih =>
    cases param with
    | invocation => rw [readInputs, ih h]
    | positional type =>
      have hzero : argumentAt (args.drop index) 0 = argumentAt args index := argumentAt_drop _ _ _
      rw [readInputs, readArgument]
      cases k with
      | zero =>
        have hunread := unread_cons_zero.mp h.unread
        rw [hzero] at hunread
        rw [hunread]
        rfl
      | succ k =>
        have hread := mt unread_cons_zero.mpr (h.earlier 0 (Nat.succ_pos k))
        rw [hzero] at hread
        obtain ⟨input, hinput⟩ := Option.ne_none_iff_exists'.mp hread
        have hrest := h.tail
        rw [List.drop_drop] at hrest
        simp only [hinput, ih hrest]
        congr 2
        omega

theorem readInputs_of_read {args : List Value} {index : Nat} {params : List Param}
    (h : ∀ k, ¬Unread (args.drop index) (positionalTypes params) k) :
    ∃ inputs, readInputs args index params = .ok inputs := by
  induction params generalizing index with
  | nil => exact ⟨_, rfl⟩
  | cons param params ih =>
    cases param with
    | invocation =>
      obtain ⟨inputs, hinputs⟩ := ih h
      exact ⟨(args, inputs), by rw [readInputs, hinputs]⟩
    | positional type =>
      have hread := mt unread_cons_zero.mpr (h 0)
      rw [argumentAt_drop, Nat.add_zero] at hread
      obtain ⟨input, hinput⟩ := Option.ne_none_iff_exists'.mp hread
      have hrest (k : Nat) : ¬Unread (args.drop (index + 1)) (positionalTypes params) k := by
        intro hunread
        rw [← List.drop_drop] at hunread
        exact h (k + 1) (unread_cons_succ.mpr hunread)
      obtain ⟨inputs, hinputs⟩ := ih hrest
      exact ⟨(input, inputs), by simp only [readInputs, readArgument, hinput, hinputs]⟩

/-! ### Calls -/

def Point.calling (callback : Callback B) (args : List Value)
    (resume : Except String (Except CallbackError Value) → Code B ρ) (stack : Stack B α ρ)
    (world : World B) : Point B α :=
  ⟨.ask (.call callback args) resume, stack, world⟩

def Program.entered (program : Program B) (callback : Callback B) (args : List Value)
    (resume : Except String (Except CallbackError Value) → Code B ρ) (stack : Stack B α ρ)
    (world : World B) : Point B α :=
  ⟨program.invoke callback args, .call resume stack, world⟩

/--
A call is one run of some code. The code begins in the world of the call, the points of its run are
those of the call from there on, and what it ends with is what the caller goes on with.
-/
structure RunsOnce (program : Program B) (callback : Callback B) (args : List Value)
    (world : World B) (code : Code B (Except CallbackError Value)) : Prop where
  begins : ∀ {α ρ : Type} (resume : Except String (Except CallbackError Value) → Code B ρ)
    (stack : Stack B α ρ),
    program.Run (.calling callback args resume stack world)
      [.calling callback args resume stack world, program.entered callback args resume stack world]
      ⟨code, .call resume stack, world⟩
  returns : ∀ {α ρ : Type} (resume : Except String (Except CallbackError Value) → Code B ρ)
    (stack : Stack B α ρ) (past : List (Point B (Except CallbackError Value)))
    (answer : Except CallbackError Value) (after : World B),
    program.Run ⟨code, .client, world⟩ past ⟨.done answer, .client, after⟩ →
      program.Run (.calling callback args resume stack world)
        (.calling callback args resume stack world ::
          program.entered callback args resume stack world ::
            (past.map fun p => p.onto (.call resume stack)) ++
              [⟨.done answer, .call resume stack, after⟩])
        ⟨resume (.ok answer), stack, after⟩
  panics : ∀ {α ρ : Type} (resume : Except String (Except CallbackError Value) → Code B ρ)
    (stack : Stack B α ρ) (past : List (Point B (Except CallbackError Value)))
    (message : String) (after : World B),
    program.Run ⟨code, .client, world⟩ past ⟨.panic message, .client, after⟩ →
      program.Run (.calling callback args resume stack world)
        (.calling callback args resume stack world ::
          program.entered callback args resume stack world ::
            (past.map fun p => p.onto (.call resume stack)) ++
              [⟨.panic message, .call resume stack, after⟩])
        ⟨resume (.error message), stack, after⟩
  served : ∀ depth, (program.invoke callback args).run (program.serve depth) world =
    code.run (program.serve depth) world

namespace Program

variable {program : Program B} {callback : Callback B} {args : List Value} {world : World B}
variable {code : Code B (Except CallbackError Value)}

theorem runsOnce_of_invoke (hinvoke : program.invoke callback args = withHost code)
    (alive : world.hostAlive = true) : RunsOnce program callback args world code := by
  have begins {α ρ : Type} (resume : Except String (Except CallbackError Value) → Code B ρ)
      (stack : Stack B α ρ) : program.Run (.calling callback args resume stack world)
        [.calling callback args resume stack world,
          program.entered callback args resume stack world]
        ⟨code, .call resume stack, world⟩ := by
    have entry : program.Step (.calling callback args resume stack world)
        (program.entered callback args resume stack world) := .calls callback args resume stack world
    have found : program.Step (program.entered callback args resume stack world)
        ⟨code, .call resume stack, world⟩ := by
      rw [entered, hinvoke]
      exact .of_eq (step_withHost alive _)
    exact (Run.nil.snoc entry).snoc found
  refine ⟨begins, ?_, ?_, fun depth => by rw [hinvoke, run_withHost alive]⟩
  · intro α ρ resume stack past answer after run
    have inside := (begins resume stack).append (run.onto (.call resume stack))
    exact inside.snoc (.returns answer resume stack after)
  · intro α ρ resume stack past message after run
    have inside := (begins resume stack).append (run.onto (.call resume stack))
    exact inside.snoc (.escapes message resume stack after)

end Program

/-! ### Calls of wired methods -/

/-- What a call of a wired method comes to while its host is alive. -/
structure CallDecided (program : Program B) (signature : List Param) (call : List Source.Slot)
    (callback : Callback B) (body : Inputs signature → Code B (Except CallbackError Value))
    (args : List Value) : Prop where
  decided : (∃! k, FirstUnread args (positionalTypes signature) k) ∨
    ∀ k, ¬Unread args (positionalTypes signature) k
  missing : ∀ k, args.length ≤ k → argumentAt args k = .null
  later : ∀ k, FirstUnread args (positionalTypes signature) k → ∀ other : List Value,
    (∀ i ≤ k, argumentAt other i = argumentAt args i) →
      FirstUnread other (positionalTypes signature) k
  refused : ∀ k, FirstUnread args (positionalTypes signature) k →
    Evaluates args call signature (.error (.argument k)) ∧
    ∀ world : World B, world.hostAlive = true →
      (∀ {α ρ : Type} (resume : Except String (Except CallbackError Value) → Code B ρ)
        (stack : Stack B α ρ),
        program.Run (.calling callback args resume stack world)
          [ .calling callback args resume stack world,
            program.entered callback args resume stack world,
            ⟨.done (.error (.argument k)), .call resume stack, world⟩ ]
          ⟨resume (.ok (.error (.argument k))), stack, world⟩) ∧
      ∀ depth, (program.invoke callback args).run (program.serve depth) world =
        .returned (.error (.argument k)) world
  passed : (∀ k, ¬Unread args (positionalTypes signature) k) → ∃ inputs,
    Evaluates args call signature (.ok inputs) ∧
    ∀ world : World B, world.hostAlive = true →
      RunsOnce program callback args world (body inputs)

theorem callDecided {program : Program B} {f : Source.Function}
    {reflected : Source.ReflectedMethod} {typeOf : String → ArgType}
    {body : Serial → Inputs (f.signature typeOf) → Code B (Except CallbackError Value)}
    {method : Method B} (wired : Wired program f reflected typeOf body method)
    (reflection : Reflection B) (serial : Serial) (index : Nat) (args : List Value) :
    CallDecided program (f.signature typeOf) reflected.call
      (reflection.methodCallback serial index method) (body serial) args := by
  have evaluates := Source.Function.exists_evaluates wired.reflects typeOf args
  have hinvoke : program.invoke (reflection.methodCallback serial index method) args =
      Program.withHost (Code.onInputs (readInputs args 0 (f.signature typeOf)) (body serial)) := by
    rw [← wired.method_eq]
    rfl
  constructor
  case decided =>
    by_cases h : ∃ k, Unread args (positionalTypes (f.signature typeOf)) k
    · obtain ⟨k, first⟩ := exists_firstUnread h
      exact .inl ⟨k, first, fun other h' => h'.unique first⟩
    · exact .inr (not_exists.mp h)
  case missing => exact fun k => argumentAt_of_length_le
  case later => exact fun k first other agree => first.of_agree agree
  case refused =>
    intro k first
    have herror : readInputs args 0 (f.signature typeOf) = .error (.argument (0 + k)) :=
      readInputs_of_firstUnread first
    rw [herror, Nat.zero_add] at hinvoke evaluates
    refine ⟨evaluates, fun world alive => ?_⟩
    have once := Program.runsOnce_of_invoke hinvoke alive
    exact ⟨fun resume stack => once.returns resume stack [] _ world .nil, once.served⟩
  case passed =>
    intro hread
    obtain ⟨inputs, hinputs⟩ : ∃ inputs, readInputs args 0 (f.signature typeOf) = .ok inputs :=
      readInputs_of_read hread
    rw [hinputs] at hinvoke evaluates
    exact ⟨inputs, evaluates, fun world alive => Program.runsOnce_of_invoke hinvoke alive⟩

/-! ## A method with two positional parameters -/

def labelType : String → ArgType
  | "Option<String>" => .option .text
  | "Vec<u32>" => .list .u32
  | _ => .value

def labelling (_ : Serial) (_ : Inputs (labelled.signature labelType)) :
    Code widgetBodies (Except CallbackError Value) :=
  (Code.query (.note (.text "labelled"))).bind fun _ => .done (.ok .null)

def labelProgram : Program widgetBodies where
  settings := {}
  component _ := ⟨fun _ => .done (), fun _ => .done none, fun _ _ => .done ()⟩
  method _ serial args := Code.withInputs (labelled.signature labelType) args (labelling serial)
  setter := nofun
  handler := nofun

def labelMethod : Method widgetBodies :=
  { name := "label", argCount := 2, doc := " @action label, 7", body := () }

def labelCallback : Callback widgetBodies :=
  (widget [labelMethod]).methodCallback 1 0 labelMethod

theorem callDecided_label :
    Wired labelProgram labelled labelled.described labelType labelling labelMethod ∧
    FirstUnread [.null, .bool true, .null] (positionalTypes (labelled.signature labelType)) 1 ∧
    (labelProgram.invoke labelCallback [.null, .bool true, .null]).run (labelProgram.serve 0) {} =
      .returned (.error (.argument 1)) {} ∧
    (labelProgram.invoke labelCallback [.text "sale", .list []]).run (labelProgram.serve 0) {} =
      .returned (.ok .null) (({} : World widgetBodies).enter (.note (.text "labelled"))) := by
  have wired : Wired labelProgram labelled labelled.described labelType labelling labelMethod :=
    wired_of_withInputs (Source.Function.reflect_eq_some_iff.mpr ⟨by decide, by decide, rfl⟩)
      rfl rfl rfl fun _ _ => rfl
  have htypes : positionalTypes (labelled.signature labelType) = [.option .text, .list .u32] := rfl
  have first : FirstUnread [.null, .bool true, .null]
      (positionalTypes (labelled.signature labelType)) 1 := by
    rw [htypes]
    refine ⟨⟨.list .u32, rfl, rfl⟩, fun i hi => ?_⟩
    rw [Nat.lt_one_iff.mp hi, unread_cons_zero]
    exact nofun
  have read (k : Nat) : ¬Unread [.text "sale", .list []]
      (positionalTypes (labelled.signature labelType)) k := by
    rw [htypes]
    intro h
    obtain ⟨type, htype, hnone⟩ := h
    match k with
    | 0 => cases htype; cases hnone
    | 1 => cases htype; cases hnone
    | k + 2 => cases htype
  have alive : ({} : World widgetBodies).hostAlive = true := rfl
  have decided := callDecided wired (widget [labelMethod]) 1 0
  obtain ⟨inputs, -, passed⟩ := (decided [.text "sale", .list []]).passed read
  refine ⟨wired, first, (((decided _).refused 1 first).2 {} alive).2 0, ?_⟩
  exact ((passed {} alive).served 0).trans rfl

end HookWiring
