import HookWiring.Proofs.BlockReflection
import HookWiring.Proofs.Hooking
import HookWiring.System.Firing
import HookWiring.System.Inputs

/-!
# Generated calls

The call that is generated for a reflected function has a slot for each of its parameters. Slots are
filled from left to right: the call itself is passed on, or the argument at the position of the slot
is read, and the first argument that cannot be read ends the evaluation. The positions of the slots
are counted by one function, the arguments of the method by another, and a host cuts the list off at
what was registered. The three fit together, so no argument that a slot reads is ever cut off.
-/

namespace HookWiring

open Source

/-! ### Slots -/

namespace Source

def Slot.isInvocation : Slot → Bool
  | .invocation => true
  | .position _ => false

def Slot.position? : Slot → Option Nat
  | .invocation => none
  | .position index => some index

@[simp] theorem Slot.position?_invocation : position? .invocation = none :=
  rfl

@[simp] theorem Slot.position?_position (index : Nat) : position? (.position index) = some index :=
  rfl

theorem map_isInvocation_slots (index : Nat) (passed : List Bool) :
    (slots index passed).map Slot.isInvocation = passed := by
  induction passed generalizing index with
  | nil => rfl
  | cons passes rest ih => cases passes <;> simp [slots, Slot.isInvocation, ih]

theorem filterMap_position?_slots (index : Nat) (passed : List Bool) :
    (slots index passed).filterMap Slot.position? = List.range' index (passed.count false) := by
  induction passed generalizing index with
  | nil => rfl
  | cons passes rest ih =>
    cases passes with
    | true => simp [slots, List.filterMap_cons, ih]
    | false => simp [slots, ih, List.range'_succ]

end Source

def Param.receivesCall : Param → Bool
  | .invocation => true
  | .positional _ => false

/-- The parameters of a function, once it is known which types are meant by the written ones. -/
def Source.Function.signature (f : Source.Function) (typeOf : String → ArgType) : List Param :=
  f.parameters.map fun type =>
    if isInvocation type then .invocation else .positional (typeOf type)

theorem map_receivesCall_signature (f : Source.Function) (typeOf : String → ArgType) :
    (f.signature typeOf).map Param.receivesCall = f.parameters.map isInvocation := by
  rw [Source.Function.signature, List.map_map]
  refine List.map_congr_left fun type _ => ?_
  cases h : isInvocation type <;> simp [h, Param.receivesCall]

/-! ### Evaluation of a call -/

inductive Evaluates (args : List Value) :
    List Source.Slot → (params : List Param) → Except CallbackError (Inputs params) → Prop
  | nil : Evaluates args [] [] (.ok ())
  | invocation {call : List Source.Slot} {params : List Param}
      {result : Except CallbackError (Inputs params)} (rest : Evaluates args call params result) :
    Evaluates args (.invocation :: call) (.invocation :: params)
      (result.map fun inputs => (args, inputs))
  | unread {call : List Source.Slot} {params : List Param} {index : Nat} {type : ArgType}
      (unread : type.decode? (argumentAt args index) = none) :
    Evaluates args (.position index :: call) (.positional type :: params)
      (.error (.argument index))
  | read {call : List Source.Slot} {params : List Param} {index : Nat} {type : ArgType}
      {input : type.Carrier} {result : Except CallbackError (Inputs params)}
      (read : type.decode? (argumentAt args index) = some input)
      (rest : Evaluates args call params result) :
    Evaluates args (.position index :: call) (.positional type :: params)
      (result.map fun inputs => (input, inputs))

theorem evaluates_readInputs (args : List Value) (index : Nat) (params : List Param) :
    Evaluates args (slots index (params.map Param.receivesCall)) params
      (readInputs args index params) := by
  induction params generalizing index with
  | nil => exact .nil
  | cons param params ih =>
    cases param with
    | invocation =>
      have step := Evaluates.invocation (ih index)
      rw [readInputs]
      cases h : readInputs args index params <;> rw [h] at step <;> exact step
    | positional type =>
      rw [readInputs, readArgument]
      cases hread : type.decode? (argumentAt args index) with
      | none => exact .unread hread
      | some input =>
        have step := Evaluates.read hread (ih (index + 1))
        dsimp only
        cases h : readInputs args (index + 1) params <;> rw [h] at step <;> exact step

theorem Evaluates.unique {args : List Value} {call : List Source.Slot} {params : List Param}
    {result other : Except CallbackError (Inputs params)}
    (h : Evaluates args call params result) (h' : Evaluates args call params other) :
    result = other := by
  induction h with
  | nil => cases h'; rfl
  | invocation _ ih =>
    cases h' with
    | invocation rest => rw [ih rest]
  | unread unread =>
    cases h' with
    | unread => rfl
    | read read => rw [unread] at read; cases read
  | read read _ ih =>
    cases h' with
    | unread unread => rw [unread] at read; cases read
    | read read' rest =>
      cases read.symm.trans read'
      rw [ih rest]

def Inputs.inCall (args : List Value) : (params : List Param) → Inputs params → Inputs params
  | [], inputs => inputs
  | .invocation :: params, (_, inputs) => (args, inCall args params inputs)
  | .positional _ :: params, (input, inputs) => (input, inCall args params inputs)

theorem Evaluates.of_agree {args other : List Value} {call : List Source.Slot} {params : List Param}
    {result : Except CallbackError (Inputs params)} (h : Evaluates args call params result)
    (agree : ∀ index, Source.Slot.position index ∈ call → argumentAt other index = argumentAt args index) :
    Evaluates other call params (result.map (Inputs.inCall other params)) := by
  induction h with
  | nil => exact .nil
  | @invocation call params result _ ih =>
    have step := Evaluates.invocation (ih fun index h => agree index (List.mem_cons_of_mem _ h))
    cases result <;> exact step
  | unread unread =>
    exact .unread (by rw [agree _ List.mem_cons_self]; exact unread)
  | @read call params index type input result read _ ih =>
    have read' : type.decode? (argumentAt other index) = some input := by
      rw [agree _ List.mem_cons_self]
      exact read
    have step := Evaluates.read read' (ih fun index h => agree index (List.mem_cons_of_mem _ h))
    cases result <;> exact step

/-! ### Arguments of reflected functions -/

theorem argumentAt_of_length_le {args : List Value} {index : Nat} (h : args.length ≤ index) :
    argumentAt args index = .null := by
  rw [argumentAt, List.getElem?_eq_none h, Option.getD_none]

theorem argumentAt_take {count index : Nat} (h : index < count) (args : List Value) :
    argumentAt (args.take count) index = argumentAt args index := by
  rw [argumentAt, argumentAt, List.getElem?_take_of_lt h]

namespace Source.Function

variable {f : Source.Function} {reflected : ReflectedMethod}

theorem call_of_reflect (h : f.reflect = .ok (some reflected)) (typeOf : String → ArgType) :
    reflected.call = slots 0 ((f.signature typeOf).map Param.receivesCall) := by
  obtain ⟨-, -, rfl⟩ := reflect_eq_some_iff.mp h
  rw [map_receivesCall_signature]
  rfl

theorem positions_of_reflect (h : f.reflect = .ok (some reflected)) :
    reflected.call.filterMap Source.Slot.position? = List.range reflected.argCount := by
  obtain ⟨-, -, rfl⟩ := reflect_eq_some_iff.mp h
  rw [argCount_described, List.range_eq_range']
  exact filterMap_position?_slots _ _

theorem lt_argCount_of_mem_call (h : f.reflect = .ok (some reflected)) {index : Nat}
    (hindex : Source.Slot.position index ∈ reflected.call) : index < reflected.argCount := by
  rw [← List.mem_range, ← positions_of_reflect h]
  exact List.mem_filterMap.mpr ⟨_, hindex, rfl⟩

theorem exists_evaluates (h : f.reflect = .ok (some reflected)) (typeOf : String → ArgType)
    (args : List Value) : Evaluates args reflected.call (f.signature typeOf)
      (readInputs args 0 (f.signature typeOf)) := by
  rw [call_of_reflect h typeOf]
  exact evaluates_readInputs args 0 _

theorem evaluates_take (h : f.reflect = .ok (some reflected)) {params : List Param}
    {args : List Value} {result : Except CallbackError (Inputs params)}
    (evaluates : Evaluates args reflected.call params result) :
    Evaluates (args.take reflected.argCount) reflected.call params
      (result.map (Inputs.inCall (args.take reflected.argCount) params)) :=
  evaluates.of_agree fun _ hindex => argumentAt_take (lt_argCount_of_mem_call h hindex) args

end Source.Function

/-! ### Wired methods -/

section Wired

variable {B : Bodies}

/--
The method of a program that a reflected function is wired as: what it runs evaluates the generated
call and goes on with the body of the function.
-/
structure Wired (program : Program B) (f : Source.Function) (reflected : ReflectedMethod)
    (typeOf : String → ArgType)
    (body : Serial → Inputs (f.signature typeOf) → Code B (Except CallbackError Value))
    (method : Method B) : Prop where
  reflects : f.reflect = .ok (some reflected)
  name : method.name = reflected.name
  argCount : method.argCount = reflected.argCount
  doc : method.doc = reflected.doc
  runs : ∀ serial args result, Evaluates args reflected.call (f.signature typeOf) result →
    program.method method.body serial args = Code.onInputs result (body serial)

theorem wired_of_withInputs {program : Program B} {f : Source.Function}
    {reflected : ReflectedMethod} {typeOf : String → ArgType}
    {body : Serial → Inputs (f.signature typeOf) → Code B (Except CallbackError Value)}
    {method : Method B} (reflects : f.reflect = .ok (some reflected))
    (name : method.name = reflected.name) (argCount : method.argCount = reflected.argCount)
    (doc : method.doc = reflected.doc)
    (runs : ∀ serial args, program.method method.body serial args =
      Code.withInputs (f.signature typeOf) args (body serial)) :
    Wired program f reflected typeOf body method := by
  refine ⟨reflects, name, argCount, doc, fun serial args result evaluates => ?_⟩
  rw [runs, evaluates.unique (Source.Function.exists_evaluates reflects typeOf args)]
  rfl

theorem Wired.method_eq {program : Program B} {f : Source.Function} {reflected : ReflectedMethod}
    {typeOf : String → ArgType}
    {body : Serial → Inputs (f.signature typeOf) → Code B (Except CallbackError Value)}
    {method : Method B} (wired : Wired program f reflected typeOf body method) (serial : Serial)
    (args : List Value) : program.method method.body serial args =
      Code.onInputs (readInputs args 0 (f.signature typeOf)) (body serial) :=
  wired.runs serial args _ (Source.Function.exists_evaluates wired.reflects typeOf args)

/-- The binding of a registration whose callback gets arguments when it is fired. -/
def Registration.binding? : Registration B → Option (Binding B)
  | .action binding => some binding
  | .filter binding => some binding
  | _ => none

theorem bound_of_mem_methodRegistrations {settings : Settings} {callback : Callback B}
    {method : Method B} {handlers : List String} {registration : Registration B}
    {binding : Binding B}
    (hmem : registration ∈ methodRegistrations settings callback method handlers)
    (h : registration.binding? = some binding) :
    binding.callback = callback ∧ binding.argCount = .exact method.argCount := by
  simp only [methodRegistrations, List.mem_append] at hmem
  rcases hmem with (hmem | hmem) | hmem
  · obtain ⟨⟨kind, name, priority⟩, -, rfl⟩ := List.mem_map.mp hmem
    cases kind <;> cases h <;> exact ⟨rfl, rfl⟩
  · obtain ⟨name, -, rfl⟩ := List.mem_map.mp hmem
    cases h
  · obtain ⟨name, -, hmem⟩ := List.mem_flatMap.mp hmem
    obtain ⟨stem, -, rfl⟩ := List.mem_map.mp hmem
    cases h
    exact ⟨rfl, rfl⟩

theorem takeArgs_of_mem {settings : Settings} {callback : Callback B} {method : Method B}
    {registration : Registration B} {binding : Binding B}
    (hmem : registration ∈ Declaration.registerAll settings
      (Reflection.methodDeclarations method callback))
    (h : registration.binding? = some binding) (args : List Value) :
    binding.takeArgs args = args.take method.argCount := by
  rw [Declaration.registerAll, methodDeclarations_flatMap] at hmem
  rw [Binding.takeArgs, (bound_of_mem_methodRegistrations hmem h).2, ArgCount.limit]

end Wired

structure ArgumentsAligned (f : Source.Function) (reflected : ReflectedMethod) : Prop where
  invocations : reflected.call.map Slot.isInvocation = f.parameters.map isInvocation
  positions : reflected.call.filterMap Slot.position? = List.range reflected.argCount
  evaluated : ∀ (typeOf : String → ArgType) (args : List Value),
    ∃! result, Evaluates args reflected.call (f.signature typeOf) result
  missing : ∀ (args : List Value) (index : Nat), args.length ≤ index →
    argumentAt args index = .null
  /-- What a single parameter reads is not changed by the registered count. -/
  read : ∀ index, Slot.position index ∈ reflected.call → ∀ (type : ArgType) (args : List Value),
    readArgument type (args.take reflected.argCount) index = readArgument type args index
  truncated : ∀ (typeOf : String → ArgType) (args : List Value)
    (result : Except CallbackError (Inputs (f.signature typeOf))),
    Evaluates args reflected.call (f.signature typeOf) result →
      Evaluates (args.take reflected.argCount) reflected.call (f.signature typeOf)
        (result.map (Inputs.inCall (args.take reflected.argCount) _))
  fired : ∀ {B : Bodies} (program : Program B) (typeOf : String → ArgType)
    (body : Serial → Inputs (f.signature typeOf) → Code B (Except CallbackError Value))
    (method : Method B), Wired program f reflected typeOf body method →
    ∀ (settings : Settings) (callback : Callback B),
    ∀ registration ∈ Declaration.registerAll settings
      (Reflection.methodDeclarations method callback),
    ∀ binding, registration.binding? = some binding → ∀ (serial : Serial) (args : List Value)
      (result : Except CallbackError (Inputs (f.signature typeOf))),
      Evaluates args reflected.call (f.signature typeOf) result →
        binding.takeArgs args = args.take reflected.argCount ∧
        program.method method.body serial (binding.takeArgs args) =
          Code.onInputs (result.map (Inputs.inCall (args.take reflected.argCount) _))
            (body serial)

theorem argumentsAligned {f : Source.Function} {reflected : ReflectedMethod}
    (h : f.reflect = .ok (some reflected)) : ArgumentsAligned f reflected := by
  constructor
  case invocations =>
    obtain ⟨-, -, rfl⟩ := Source.Function.reflect_eq_some_iff.mp h
    exact map_isInvocation_slots _ _
  case positions => exact Source.Function.positions_of_reflect h
  case evaluated =>
    intro typeOf args
    have evaluates := Source.Function.exists_evaluates h typeOf args
    exact ⟨_, evaluates, fun other h' => h'.unique evaluates⟩
  case missing => exact fun args index => argumentAt_of_length_le
  case read =>
    intro index hindex type args
    have hlt := Source.Function.lt_argCount_of_mem_call h hindex
    rw [readArgument, readArgument, argumentAt_take hlt]
  case truncated => exact fun typeOf args result => Source.Function.evaluates_take h
  case fired =>
    intro B program typeOf body method wired settings callback registration hmem binding hbinding
      serial args result evaluates
    have hargs : binding.takeArgs args = args.take reflected.argCount := by
      rw [takeArgs_of_mem hmem hbinding, wired.argCount]
    refine ⟨hargs, ?_⟩
    rw [hargs]
    exact wired.runs serial _ _ (Source.Function.evaluates_take h evaluates)

def labelled : Source.Function :=
  { name := "label"
    doc := [.doc " @action label, 7"]
    receiver := some "&self"
    params := ["Invocation<'_>", "Option<String>", "wiring::Invocation", "Vec<u32>"] }

theorem argumentsAligned_labelled :
    labelled.reflect = .ok (some labelled.described) ∧
    labelled.described.call = [.invocation, .position 0, .invocation, .position 1] ∧
    labelled.described.call.filterMap Slot.position? = [0, 1] ∧
    readArgument (.list .u32) ([.null, .list [.ofNat 7], .bool true].take 2) 1 =
      .ok [UInt32.ofNat 7] := by
  have hreflect : labelled.reflect = .ok (some labelled.described) :=
    Source.Function.reflect_eq_some_iff.mpr ⟨by decide, by decide, rfl⟩
  have aligned := argumentsAligned hreflect
  have hcall : labelled.described.call = [.invocation, .position 0, .invocation, .position 1] := by
    decide
  refine ⟨hreflect, hcall, aligned.positions, ?_⟩
  exact (aligned.read 1 (by rw [hcall]; decide) (.list .u32) _).trans rfl

end HookWiring
