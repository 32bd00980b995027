import HookWiring.Proofs.LineSplits

/-!
# The languages of commands and handlers

Which lines ask for a command or for an ajax handler, and under which name. The blanks behind
`@command` are taken before the name, although a name may have spaces in it, so a name begins with
no space; the spaces at its end are left out. Behind `@ajax` the word must end, and only what stands
right behind the blanks is a name; a line with anything else there asks for a handler without one.
-/

namespace HookWiring.Directive

open Text

structure CommandSplit where
  margin : List Char
  gap : List Char
  text : List Char
  rest : List Char

structure CommandSplit.Of (split : CommandSplit) (line : List Char) : Prop where
  line_eq : line = split.margin ++ '@' :: ("command".toList ++
    (split.gap ++ (split.text ++ split.rest)))
  margin : Margin split.margin
  spaced : split.gap ≠ []
  gap : LongestRun isBlank split.gap (split.text ++ split.rest)
  named : split.text ≠ []
  text : LongestRun HookKind.isCommandChar split.text split.rest

def WithoutSpaces (text name : List Char) : Prop :=
  ∃ spaces, text = name ++ spaces ∧ (∀ c ∈ spaces, c = ' ') ∧ name.getLast? ≠ some ' '

/-- A text behind the word of a tag begins with blanks, and right behind them with a name. -/
def Names (name text : List Char) : Prop :=
  ∃ gap rest, text = gap ++ (name ++ rest) ∧ Gap gap ∧ name ≠ [] ∧
    LongestRun HookKind.isNameChar name rest

/-- A line begins with the tag of a handler, with this text behind the end of the word. -/
def AsksHandler (behind line : List Char) : Prop :=
  (∃ margin, Margin margin ∧ line = margin ++ '@' :: ("ajax".toList ++ behind)) ∧
    Stops isWord behind

section Commands

variable {text name line : List Char} {split : CommandSplit}

theorem isWhiteSpace_iff_of_isCommandChar {c : Char} (h : HookKind.isCommandChar c = true) :
    isWhiteSpace c = true ↔ c = ' ' := by
  constructor
  · intro hwhite
    by_contra hne
    rw [isWhiteSpace_of_isCommandChar h (isBlank_of_isCommandChar h hne)] at hwhite
    cases hwhite
  · rintro rfl
    decide

theorem withoutSpaces_iff_trims (h : ∀ c ∈ text, HookKind.isCommandChar c = true) :
    WithoutSpaces text name ↔ Trims text name := by
  refine exists_congr fun spaces => and_congr_right fun htext => ?_
  subst htext
  have hwhite (c : Char) (hc : c ∈ name ++ spaces) : isWhiteSpace c = true ↔ c = ' ' :=
    isWhiteSpace_iff_of_isCommandChar (h c hc)
  apply and_congr
  · exact forall₂_congr fun c hc => (hwhite c (List.mem_append_right _ hc)).symm
  · constructor
    · intro hlast c hc
      have hmem : c ∈ name ++ spaces := List.mem_append_left _ (List.mem_of_getLast? hc)
      by_contra hne
      rw [Bool.not_eq_false, hwhite c hmem] at hne
      exact hlast (hne ▸ hc)
    · intro hlast hspace
      have hfalse := hlast ' ' hspace
      revert hfalse
      decide

theorem withoutSpaces_iff (h : ∀ c ∈ text, HookKind.isCommandChar c = true) :
    WithoutSpaces text name ↔ name = trimEnd text := by
  rw [withoutSpaces_iff_trims h, trims_iff, eq_comm]

theorem CommandSplit.Of.commandOfLine?_eq (h : split.Of line) :
    commandOfLine? line = some (String.ofList (trimEnd split.text)) := by
  have hafter : afterTag? HookKind.command.tag line =
      some (split.gap ++ (split.text ++ split.rest)) :=
    afterTag?_eq_some_iff.mpr ⟨_, h.margin, h.line_eq⟩
  have hblanks : afterBlanks? (split.gap ++ (split.text ++ split.rest)) =
      some (split.text ++ split.rest) :=
    afterBlanks?_eq_some_iff.mpr ⟨_, rfl, h.spaced, h.gap⟩
  have hname : name? HookKind.isCommandChar (split.text ++ split.rest) =
      some (split.text, split.rest) :=
    name?_eq_some_iff.mpr ⟨rfl, h.named, h.text⟩
  simp only [commandOfLine?, hafter, hblanks, hname, Option.bind_eq_bind, Option.bind_some]
  rfl

theorem CommandSplit.exists_of {command : String} (h : commandOfLine? line = some command) :
    ∃ split : CommandSplit, split.Of line := by
  obtain ⟨behind, found, text, rest, htag, hblanks, hname, -⟩ := commandOfLine?_cases h
  obtain ⟨margin, hmargin, rfl⟩ := afterTag?_eq_some_iff.mp htag
  obtain ⟨gap, rfl, hgap, hrun⟩ := afterBlanks?_eq_some_iff.mp hblanks
  obtain ⟨rfl, hne, hrest⟩ := name?_eq_some_iff.mp hname
  exact ⟨⟨margin, gap, text, rest⟩, rfl, hmargin, hgap, hrun, hne, hrest⟩

theorem commandOfLine?_eq_some_iff {command : String} : commandOfLine? line = some command ↔
    ∃ split : CommandSplit, split.Of line ∧ WithoutSpaces split.text command.toList := by
  constructor
  · intro h
    obtain ⟨split, hsplit⟩ := CommandSplit.exists_of h
    refine ⟨split, hsplit, (withoutSpaces_iff hsplit.text.all).mpr ?_⟩
    have hread := hsplit.commandOfLine?_eq
    rw [h, Option.some.injEq] at hread
    rw [hread, String.toList_ofList]
  · rintro ⟨split, hsplit, hname⟩
    rw [hsplit.commandOfLine?_eq, ← (withoutSpaces_iff hsplit.text.all).mp hname,
      String.ofList_toList]

/-- The blanks in front of the text are taken, so the name does not begin with one. -/
theorem CommandSplit.Of.head?_ne (h : split.Of line) (hname : WithoutSpaces split.text name) :
    name.head? ≠ some ' ' := by
  obtain ⟨spaces, htext, -⟩ := hname
  intro hhead
  have hstops := h.gap.stops ' '
  rw [htext, List.append_assoc, List.head?_append, hhead] at hstops
  cases hstops rfl

end Commands

section Handlers

variable {behind text line : List Char}

def handlerName? (behind : List Char) : Option String :=
  (afterBlanks? behind).bind fun text =>
    (name? HookKind.isNameChar text).map fun read => String.ofList read.1

theorem handlerName?_eq_some_iff {name : String} :
    handlerName? behind = some name ↔ Names name.toList behind := by
  rw [handlerName?, Option.bind_eq_some_iff]
  constructor
  · rintro ⟨text, htext, hread⟩
    obtain ⟨⟨found, rest⟩, hname, rfl⟩ := Option.map_eq_some_iff.mp hread
    obtain ⟨gap, rfl, hgap, hrun⟩ := afterBlanks?_eq_some_iff.mp htext
    obtain ⟨rfl, hne, hrest⟩ := name?_eq_some_iff.mp hname
    rw [String.toList_ofList]
    exact ⟨gap, rest, rfl, ⟨hgap, hrun.all⟩, hne, hrest⟩
  · rintro ⟨gap, rest, rfl, hgap, hne, hrun⟩
    have hstops := stops_append isNameChar_of_isBlank hne hrun.all rest
    refine ⟨name.toList ++ rest, afterBlanks?_of_gap hgap hstops, ?_⟩
    rw [name?_eq_some_iff.mpr ⟨rfl, hne, hrun⟩, Option.map_some, String.ofList_toList]

theorem endsWord_iff : endsWord text = true ↔ Stops isWord text := by
  cases text with
  | nil => exact ⟨fun _ => nofun, fun _ => rfl⟩
  | cons c more => simp [endsWord, Stops]

theorem ajaxOfLine?_iff {name : Option String} : ajaxOfLine? line = some name ↔
    ∃ behind, AsksHandler behind line ∧ name = handlerName? behind := by
  rw [ajaxOfLine?_eq_some_iff]
  refine exists_congr fun behind => ?_
  rw [AsksHandler, and_assoc]
  exact and_congr afterTag?_eq_some_iff (and_congr endsWord_iff Iff.rfl)

end Handlers

structure CommandLanguage (line : String) : Prop where
  read : ∀ name : String, commands line = [name] ↔ ∃ split : CommandSplit,
    split.Of line.toList ∧ WithoutSpaces split.text name.toList
  silent : commands line = [] ↔ ¬∃ split : CommandSplit, split.Of line.toList
  fitting : ∀ name : String, commands line = [name] → name ≠ "" ∧ name.toList.head? ≠ some ' ' ∧
    HookKind.command.acceptsName name = true
  matched : commands line =
    (commandPattern.findAll line.toList).filterMap fun m => commandOfParts? m.parts

structure HandlerLanguage (line : String) : Prop where
  silent : ajax line = [] ↔ ¬∃ behind, AsksHandler behind line.toList
  named : ∀ behind, AsksHandler behind line.toList → ∀ name : String,
    ajax line = [some name] ↔ Names name.toList behind
  unnamed : ∀ behind, AsksHandler behind line.toList →
    (ajax line = [none] ↔ ∀ name, ¬Names name behind)
  matched : ajax line = (ajaxPattern.findAll line.toList).filterMap fun m => ajaxOfParts? m.parts

theorem commandLanguage {line : String} (single : '\n' ∉ line.toList) : CommandLanguage line := by
  have hcommands : commands line = (commandOfLine? line.toList).toList :=
    filterMap_lines_of_not_mem commandOfLine? single
  have hread (name : String) : commands line = [name] ↔ ∃ split : CommandSplit,
      split.Of line.toList ∧ WithoutSpaces split.text name.toList := by
    rw [hcommands, Option.toList_eq_singleton_iff, commandOfLine?_eq_some_iff]
  constructor
  case read => exact hread
  case silent =>
    rw [hcommands, Option.toList_eq_nil_iff, Option.eq_none_iff_forall_ne_some]
    constructor
    · rintro h ⟨split, hsplit⟩
      exact h _ hsplit.commandOfLine?_eq
    · exact fun h name hname => h (CommandSplit.exists_of hname)
  case fitting =>
    intro name hname
    have haccepts : HookKind.command.acceptsName name = true :=
      accepts_of_commands (hname ▸ List.mem_singleton_self name)
    obtain ⟨split, hsplit, hwithout⟩ := (hread name).mp hname
    refine ⟨?_, hsplit.head?_ne hwithout, haccepts⟩
    rintro rfl
    cases haccepts
  case matched =>
    have hlines : LineByLine commands commandPattern commandOfParts? :=
      lineByLine_of_ofLine? rfl (by decide) (fun _ => rfl) (fun line _ => commandOfLine?_eq line)
        rfl
    exact hlines.matched line

theorem handlerLanguage {line : String} (single : '\n' ∉ line.toList) : HandlerLanguage line := by
  have hajax : ajax line = (ajaxOfLine? line.toList).toList :=
    filterMap_lines_of_not_mem ajaxOfLine? single
  have hhandler {behind : List Char} (h : AsksHandler behind line.toList) :
      ajax line = [handlerName? behind] := by
    rw [hajax, ajaxOfLine?_iff.mpr ⟨behind, h, rfl⟩]
    rfl
  constructor
  case silent =>
    rw [hajax, Option.toList_eq_nil_iff, Option.eq_none_iff_forall_ne_some]
    constructor
    · rintro h ⟨behind, hasks⟩
      exact h _ (ajaxOfLine?_iff.mpr ⟨behind, hasks, rfl⟩)
    · intro h name hname
      obtain ⟨behind, hasks, -⟩ := ajaxOfLine?_iff.mp hname
      exact h ⟨behind, hasks⟩
  case named =>
    intro behind hasks name
    rw [hhandler hasks, List.singleton_inj, handlerName?_eq_some_iff]
  case unnamed =>
    intro behind hasks
    rw [hhandler hasks, List.singleton_inj, Option.eq_none_iff_forall_ne_some]
    constructor
    · intro h name hname
      apply h (String.ofList name)
      rwa [handlerName?_eq_some_iff, String.toList_ofList]
    · exact fun h name hname => h _ (handlerName?_eq_some_iff.mp hname)
  case matched =>
    have hlines : LineByLine ajax ajaxPattern ajaxOfParts? :=
      lineByLine_of_ofLine? rfl (by decide) (fun _ => rfl) (fun line _ => ajaxOfLine?_eq line) rfl
    exact hlines.matched line

theorem commandHandlerLanguage (line : String) (single : '\n' ∉ line.toList) :
    CommandLanguage line ∧ HandlerLanguage line :=
  ⟨commandLanguage single, handlerLanguage single⟩

def spacedSplit : CommandSplit where
  margin := ['*', ' ']
  gap := [' ', '\t']
  text := "acme: list  ".toList
  rest := ['\t', 'x']

theorem commandHandlerLanguage_spaced :
    ('\n' ∉ "* @command \tacme: list  \tx".toList ∧
      commands "* @command \tacme: list  \tx" = ["acme: list"]) ∧
    '\n' ∉ " @ajax-admin".toList ∧ ajax " @ajax-admin" = [none] := by
  have hcommand : '\n' ∉ "* @command \tacme: list  \tx".toList := by decide
  have hhandler : '\n' ∉ " @ajax-admin".toList := by decide
  have hspace : ∀ c ∈ [' '], isBlank c = true := List.all_eq_true.mp rfl
  have of : spacedSplit.Of "* @command \tacme: list  \tx".toList :=
    { line_eq := by decide
      margin := .starred (List.forall_mem_nil _) hspace
      spaced := by decide
      gap := ⟨List.all_eq_true.mp rfl, stops_cons (by decide) _⟩
      named := by decide
      text := ⟨List.all_eq_true.mp rfl, stops_cons (by decide) _⟩ }
  have asks : AsksHandler "-admin".toList " @ajax-admin".toList :=
    ⟨⟨[' '], .plain hspace, by decide⟩, stops_cons (by decide) _⟩
  refine ⟨⟨hcommand, ?_⟩, hhandler, ?_⟩
  · exact ((commandHandlerLanguage _ hcommand).1.read "acme: list").mpr
      ⟨spacedSplit, of, [' ', ' '], by decide, by simp, by decide⟩
  · refine ((commandHandlerLanguage _ hhandler).2.unnamed _ asks).mpr ?_
    rintro name ⟨gap, rest, hgap, ⟨hne, hblanks⟩, -⟩
    obtain ⟨c, more, rfl⟩ := List.exists_cons_of_ne_nil hne
    obtain ⟨rfl, -⟩ := List.cons.inj hgap
    exact absurd (hblanks '-' List.mem_cons_self) (by decide)

end HookWiring.Directive
