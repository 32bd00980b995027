import HookWiring.Proofs.WrittenLines

/-!
# Written and read back

The documentation of a method may write what it asks for in any arrangement: every directive stands
on a line of its own, the directives of one reader keep their order, those of different readers may
be mixed, and other lines may stand between them. Whatever the arrangement is, each reader finds its
directives and no others, and the method is declared for exactly what was written.
-/

namespace HookWiring.Directive

open Text

structure Asked where
  hooks : List Hook := []
  commands : List String := []
  handlers : List String := []

namespace Asked

/-- Every name fits the grammar of its kind, and every priority a 32-bit integer. A command neither
begins nor ends with a space, for such a space is not taken for a part of it. -/
structure Fits (asked : Asked) : Prop where
  hooks : ∀ hook ∈ asked.hooks, hook.kind ∈ hookKinds ∧
    hook.kind.acceptsName hook.name = true ∧
      ∀ number ∈ hook.priority, number ≤ maxPriority
  commands : ∀ name ∈ asked.commands, HookKind.command.acceptsName name = true ∧
    name.toList.head? ≠ some ' ' ∧ name.toList.getLast? ≠ some ' '
  handlers : ∀ name ∈ asked.handlers, HookKind.ajax.acceptsName name = true

/-- Lines that ask for this, with the three lists mixed in any way and other lines between. -/
inductive Lines : Asked → List (List Char) → Prop
  | nil : Lines {} []
  | prose {asked : Asked} {line : List Char} {lines : List (List Char)} (here : Prose line)
      (more : Lines asked lines) : Lines asked (line :: lines)
  | hook {hooks : List Hook} {commands handlers : List String} {hook : Hook} {line : List Char}
      {lines : List (List Char)} (here : HookLine hook line)
      (more : Lines ⟨hooks, commands, handlers⟩ lines) :
      Lines ⟨hook :: hooks, commands, handlers⟩ (line :: lines)
  | command {hooks : List Hook} {commands handlers : List String} {name : String}
      {line : List Char} {lines : List (List Char)} (here : CommandLine name line)
      (more : Lines ⟨hooks, commands, handlers⟩ lines) :
      Lines ⟨hooks, name :: commands, handlers⟩ (line :: lines)
  | handler {hooks : List Hook} {commands handlers : List String} {name : String}
      {line : List Char} {lines : List (List Char)} (here : HandlerLine name line)
      (more : Lines ⟨hooks, commands, handlers⟩ lines) :
      Lines ⟨hooks, commands, name :: handlers⟩ (line :: lines)

def WrittenIn (asked : Asked) (doc : String) : Prop :=
  ∃ lines, asked.Lines lines ∧ doc = "\n".intercalate (lines.map String.ofList)

def declarations {B : Bodies} (asked : Asked) (argCount : Nat) (callback : Callback B) :
    List (Declaration B) :=
  asked.hooks.map (fun hook =>
      { kind := hook.kind, name := hook.name, priority := hook.priority.getD 11,
        argCount := .exact argCount, callback }) ++
    asked.commands.map (fun name =>
      { kind := .command, name, priority := 10, argCount := .unbounded, callback }) ++
    asked.handlers.map (fun name =>
      { kind := .ajax, name, priority := 11, argCount := .exact argCount, callback })

end Asked

/-! ### One way of writing -/

section Writing

def priorityText : Option Nat → String
  | none => ""
  | some 0 => ", 00"
  | some (number + 1) => ", " ++ toString (number + 1)

def Hook.text (hook : Hook) : String :=
  "@" ++ hook.kind.tag ++ " " ++ hook.name ++ priorityText hook.priority

def commandText (name : String) : String :=
  "@command " ++ name

def handlerText (name : String) : String :=
  "@ajax " ++ name

def Asked.text (asked : Asked) : String :=
  "\n".intercalate (asked.hooks.map Hook.text ++ asked.commands.map commandText ++
    asked.handlers.map handlerText)

theorem margin_nil : Margin [] :=
  .plain nofun

theorem gap_space : Gap [' '] :=
  ⟨nofun, List.forall_mem_singleton.mpr rfl⟩

theorem ending_priorityText (priority : Option Nat) :
    Ending priority (priorityText priority).toList := by
  match priority with
  | none => exact .none
  | some 0 => exact .some gap_space ⟨1, rfl, fun _ => Nat.one_pos⟩
  | some (number + 1) =>
    have htext : (priorityText (some (number + 1))).toList =
        ',' :: ([' '] ++ Nat.toDigits 10 (number + 1)) := by
      rw [priorityText, String.toList_append, Nat.toString_eq_repr, Nat.toList_repr]
      rfl
    rw [htext]
    exact .some gap_space ⟨0, rfl, nofun⟩

theorem hookLine_text (hook : Hook) : HookLine hook hook.text.toList := by
  refine ⟨_, ending_priorityText hook.priority, [], [' '], margin_nil, gap_space, ?_⟩
  simp [Hook.text]

theorem commandLine_text (name : String) : CommandLine name (commandText name).toList := by
  refine ⟨[], [' '], margin_nil, gap_space, ?_⟩
  simp [commandText, HookKind.tag]

theorem handlerLine_text (name : String) : HandlerLine name (handlerText name).toList := by
  refine ⟨[], [' '], margin_nil, gap_space, ?_⟩
  simp [handlerText, HookKind.tag]

theorem writtenIn_text (asked : Asked) : asked.WrittenIn asked.text := by
  obtain ⟨hooks, commands, handlers⟩ := asked
  have hhandlers : Asked.Lines ⟨[], [], handlers⟩
      (handlers.map fun n => (handlerText n).toList) := by
    induction handlers with
    | nil => exact .nil
    | cons name more ih => exact .handler (handlerLine_text name) ih
  have hcommands : Asked.Lines ⟨[], commands, handlers⟩
      (commands.map (fun n => (commandText n).toList) ++
        handlers.map fun n => (handlerText n).toList) := by
    induction commands with
    | nil => exact hhandlers
    | cons name more ih => exact .command (commandLine_text name) ih
  have hhooks : Asked.Lines ⟨hooks, commands, handlers⟩
      (hooks.map (fun h => h.text.toList) ++ (commands.map (fun n => (commandText n).toList) ++
        handlers.map fun n => (handlerText n).toList)) := by
    induction hooks with
    | nil => exact hcommands
    | cons hook more ih => exact .hook (hookLine_text hook) ih
  exact ⟨_, hhooks, by simp [Asked.text, Function.comp_def]⟩

end Writing

/-! ### Reading -/

section Reading

variable {δ : Type} {asked : Asked} {texts : List (List Char)} {doc : String}

structure Asked.ReadFrom (asked : Asked) (texts : List (List Char)) : Prop where
  hooks : texts.filterMap hookOfLine? = asked.hooks
  commands : texts.filterMap commandOfLine? = asked.commands
  handlers : texts.filterMap ajaxOfLine? = asked.handlers.map some
  single : ∀ line ∈ texts, '\n' ∉ line

theorem Asked.ReadFrom.cons {line : List Char} {hook : Option Hook} {command : Option String}
    (handler : Option String) (here : Reads line hook command (handler.map some))
    (more : asked.ReadFrom texts) :
    Asked.ReadFrom ⟨hook.toList ++ asked.hooks, command.toList ++ asked.commands,
      handler.toList ++ asked.handlers⟩ (line :: texts) := by
  constructor
  case hooks =>
    rw [List.filterMap_cons, here.hook, more.hooks]
    cases hook <;> rfl
  case commands =>
    rw [List.filterMap_cons, here.command, more.commands]
    cases command <;> rfl
  case handlers =>
    rw [List.filterMap_cons, here.handler, more.handlers]
    cases handler <;> rfl
  case single => exact List.forall_mem_cons.mpr ⟨here.single, more.single⟩

theorem Asked.Lines.readFrom (written : asked.Lines texts) (fits : asked.Fits) :
    asked.ReadFrom texts := by
  induction written with
  | nil => exact ⟨rfl, rfl, rfl, nofun⟩
  | prose here more ih => exact .cons none here.reads (ih fits)
  | hook here more ih =>
    obtain ⟨⟨hkind, hname, hmax⟩, hhooks⟩ := List.forall_mem_cons.mp fits.hooks
    exact .cons none (here.reads hkind hname hmax)
      (ih ⟨hhooks, fits.commands, fits.handlers⟩)
  | command here more ih =>
    obtain ⟨⟨hname, hhead, hlast⟩, hcommands⟩ := List.forall_mem_cons.mp fits.commands
    exact .cons none (here.reads hname hhead hlast)
      (ih ⟨fits.hooks, hcommands, fits.handlers⟩)
  | handler here more ih =>
    obtain ⟨hname, hhandlers⟩ := List.forall_mem_cons.mp fits.handlers
    exact .cons (some _) (here.reads hname)
      (ih ⟨fits.hooks, fits.commands, hhandlers⟩)

theorem filterMap_lines {read : List Char → Option δ} (hempty : read [] = none)
    (single : ∀ line ∈ texts, '\n' ∉ line) :
    (lines ("\n".intercalate (texts.map String.ofList)).toList).filterMap read =
      texts.filterMap read := by
  induction texts with
  | nil =>
    change [[]].filterMap read = []
    rw [List.filterMap_cons, hempty, List.filterMap_nil]
  | cons line more ih =>
    obtain ⟨hline, hmore⟩ := List.forall_mem_cons.mp single
    cases more with
    | nil =>
      rw [List.map_singleton, String.intercalate_singleton, String.toList_ofList,
        lines_of_not_mem hline]
    | cons second more =>
      have hcons : line :: second :: more = [line] ++ (second :: more) := rfl
      rw [List.map_cons, List.map_cons, String.intercalate_cons_cons, toList_append_newline,
        String.toList_ofList, lines_append_newline, lines_of_not_mem hline, ← List.map_cons,
        List.filterMap_append, ih hmore, ← List.filterMap_append, ← hcons]

theorem Asked.WrittenIn.readFrom (written : asked.WrittenIn doc) (fits : asked.Fits) :
    Directive.hooks doc = asked.hooks ∧ Directive.commands doc = asked.commands ∧
      ajax doc = asked.handlers.map some := by
  obtain ⟨texts, hlines, rfl⟩ := written
  have read := hlines.readFrom fits
  refine ⟨?_, ?_, ?_⟩
  · exact (filterMap_lines rfl read.single).trans read.hooks
  · exact (filterMap_lines rfl read.single).trans read.commands
  · exact (filterMap_lines rfl read.single).trans read.handlers

theorem declare?_of_acceptsName {B : Bodies} {kind : HookKind} {name : String} (priority : Int)
    (argCount : ArgCount) (callback : Callback B) (h : kind.acceptsName name = true) :
    declare? kind name priority argCount callback =
      some { kind, name, priority, argCount, callback } := by
  rw [declare?, Declaration.make, if_pos h]
  rfl

theorem filterMap_eq_map {α β : Type} {items : List α} {read : α → Option β} {found : α → β}
    (h : ∀ item ∈ items, read item = some (found item)) :
    items.filterMap read = items.map found := by
  rw [List.filterMap_congr h, List.filterMap_eq_map']

theorem Asked.WrittenIn.methodDeclarations_eq {B : Bodies} {method : Method B}
    (written : asked.WrittenIn method.doc) (fits : asked.Fits) (callback : Callback B) :
    Reflection.methodDeclarations method callback =
      asked.declarations method.argCount callback := by
  obtain ⟨hhooks, hcommands, hajax⟩ := written.readFrom fits
  rw [Reflection.methodDeclarations, hhooks, hcommands, hajax, List.filterMap_map,
    Asked.declarations]
  refine congrArg₂ _ (congrArg₂ _ ?_ ?_) ?_
  · apply filterMap_eq_map
    intro hook hmem
    -- a method without a priority gets the one of directives, which is 11
    have hpriority : (hook.priority.map Int.ofNat).getD directivePriority =
        (hook.priority.getD 11 : Nat) := by
      cases hook.priority <;> rfl
    rw [declare?_of_acceptsName _ _ _ (fits.hooks hook hmem).2.1, hpriority]
  · apply filterMap_eq_map
    exact fun name hmem => declare?_of_acceptsName _ _ _ (fits.commands name hmem).1
  · apply filterMap_eq_map
    exact fun name hmem => declare?_of_acceptsName _ _ _ (fits.handlers name hmem)

end Reading

structure RoundTrip (asked : Asked) : Prop where
  written : asked.WrittenIn asked.text
  hooks : ∀ doc, asked.WrittenIn doc → hooks doc = asked.hooks
  commands : ∀ doc, asked.WrittenIn doc → commands doc = asked.commands
  handlers : ∀ doc, asked.WrittenIn doc → ajax doc = asked.handlers.map some
  declared : ∀ {B : Bodies} (method : Method B) (callback : Callback B),
    asked.WrittenIn method.doc →
      Reflection.methodDeclarations method callback = asked.declarations method.argCount callback
  alone : ∀ {B : Bodies} (reflection : Reflection B) (method : Method B) (serial : Serial)
    (settings : Settings), asked.WrittenIn method.doc → reflection.methods = [method] →
      reflection.declarations serial settings =
        asked.declarations method.argCount (reflection.methodCallback serial 0 method) ++
          reflection.apiDeclarations serial settings

theorem roundTrip (asked : Asked) (fits : asked.Fits) : RoundTrip asked := by
  constructor
  case written => exact writtenIn_text asked
  case hooks => exact fun doc written => (written.readFrom fits).1
  case commands => exact fun doc written => (written.readFrom fits).2.1
  case handlers => exact fun doc written => (written.readFrom fits).2.2
  case declared => exact fun method callback written => written.methodDeclarations_eq fits callback
  case alone =>
    intro B reflection method serial settings written halone
    rw [Reflection.declarations, halone, ← written.methodDeclarations_eq fits]
    exact congrArg (· ++ _) (List.flatMap_singleton _ _)

def boundaries : Asked where
  hooks := [⟨.action, "saved.", some 0⟩, ⟨.filter, "the_title=", some 2147483647⟩]
  commands := ["acme sync:all"]
  handlers := ["save/"]

def mixed : Method widgetBodies :=
  { saving with doc := "@command acme sync:all\n\t* @action saved., 00\nSaves @ajax x.\n" ++
      "@filter the_title=, 2147483647\n@ajax save/" }

theorem roundTrip_boundaries : boundaries.Fits ∧ boundaries.WrittenIn mixed.doc ∧
    hooks boundaries.text = hooks mixed.doc ∧
    Reflection.methodDeclarations mixed ((widget []).methodCallback 1 0 mixed) =
      boundaries.declarations 2 ((widget []).methodCallback 1 0 mixed) ∧
    (widget [mixed]).declarations 1 {} =
      boundaries.declarations 2 ((widget [mixed]).methodCallback 1 0 mixed) ++
        (widget [mixed]).apiDeclarations 1 {} := by
  have fits : boundaries.Fits := by
    constructor
    case hooks => decide
    case commands => decide
    case handlers => decide
  have hsaved : HookLine ⟨.action, "saved.", some 0⟩ "\t* @action saved., 00".toList := by
    have hmargin : Margin (['\t'] ++ '*' :: [' ']) :=
      .starred (List.forall_mem_singleton.mpr rfl) (List.forall_mem_singleton.mpr rfl)
    have hending : Ending (some 0) [',', ' ', '0', '0'] :=
      .some gap_space ⟨1, by decide, fun _ => Nat.one_pos⟩
    exact ⟨_, hending, _, _, hmargin, gap_space, by decide⟩
  have hprose : Prose "Saves @ajax x.".toList := prose_iff.mpr (by decide)
  have htitle : HookLine ⟨.filter, "the_title=", some 2147483647⟩
      "@filter the_title=, 2147483647".toList := hookLine_text _
  have written : boundaries.WrittenIn mixed.doc :=
    ⟨_, .command (commandLine_text _) <| .hook hsaved <| .prose hprose <| .hook htitle <|
      .handler (handlerLine_text _) .nil, by decide⟩
  have read := roundTrip boundaries fits
  refine ⟨fits, written, ?_, read.declared mixed _ written, read.alone _ mixed 1 {} written rfl⟩
  rw [read.hooks _ written, read.hooks _ read.written]

end HookWiring.Directive
