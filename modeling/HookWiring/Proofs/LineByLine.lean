import HookWiring.Proofs.BlockReflection
import HookWiring.Proofs.HookPatterns
import HookWiring.Proofs.TrimmedPatterns

/-!
# Line by line

The directives of a whole text are those of its lines, one after the other. Every pattern is
anchored at the start of a line and takes no line feed, so a match never reaches into another line,
and the tags at which the four readers begin exclude each other, so a line gives one directive at
most. The documentation of a method is its attributes joined by line feeds, and therefore it gives
what the attributes give by themselves.
-/

namespace HookWiring.Directive

open Text

variable {δ : Type} {extract : String → List δ} {pattern : Pattern} {read : Parts → Option δ}

/-- A reader of directives that is the pattern applied to the whole text and to every line alike. -/
structure LineByLine (extract : String → List δ) (pattern : Pattern) (read : Parts → Option δ) :
    Prop where
  matched : ∀ doc : String,
    extract doc = (pattern.findAll doc.toList).filterMap fun m => read m.parts
  inside : ∀ doc : String, ∀ m ∈ pattern.findAll doc.toList, '\n' ∉ m.text
  once : ∀ line : String, '\n' ∉ line.toList → (pattern.findAll line.toList).length ≤ 1
  append : ∀ first second : String,
    extract (first ++ "\n" ++ second) = extract first ++ extract second
  documented : ∀ attributes, extract (Source.docText attributes) =
    (attributes.filterMap Source.Attribute.docText?).flatMap extract
  reflected : ∀ (f : Source.Function) (method : Source.ReflectedMethod),
    f.reflect = .ok (some method) →
      extract method.doc = (f.doc.filterMap Source.Attribute.docText?).flatMap extract

theorem not_mem_of_mem_lines {text line : List Char} (h : line ∈ lines text) : '\n' ∉ line := by
  induction hlength : text.length using Nat.strongRecOn generalizing text with
  | ind n ih =>
    by_cases hfeed : '\n' ∈ text
    · obtain ⟨first, more, rfl, hfirst⟩ := List.eq_append_cons_of_mem hfeed
      rw [List.length_append, List.length_cons] at hlength
      rw [lines_append_newline, lines_of_not_mem hfirst] at h
      rcases List.mem_append.mp h with h | h
      · rwa [List.mem_singleton.mp h]
      · exact ih more.length (by omega) h rfl
    · rw [lines_of_not_mem hfeed] at h
      rwa [List.mem_singleton.mp h]

theorem toList_append_newline (first second : String) :
    (first ++ "\n" ++ second).toList = first.toList ++ '\n' :: second.toList := by
  rw [String.toList_append, String.toList_append, List.append_assoc]
  rfl

theorem flatMap_of_append (append : ∀ first second : String,
      extract (first ++ "\n" ++ second) = extract first ++ extract second)
    (empty : extract "" = []) (texts : List String) :
    extract ("\n".intercalate texts) = texts.flatMap extract := by
  induction texts with
  | nil => rw [String.intercalate_nil, empty, List.flatMap_nil]
  | cons first more ih =>
    cases more with
    | nil => rw [String.intercalate_singleton, List.flatMap_singleton]
    | cons second more => rw [String.intercalate_cons_cons, append, ih, ← List.flatMap_cons]

theorem doc_of_reflect {f : Source.Function} {method : Source.ReflectedMethod}
    (h : f.reflect = .ok (some method)) : method.doc = Source.docText f.doc := by
  obtain ⟨-, -, rfl⟩ := Source.Function.reflect_eq_some_iff.mp h
  rfl

section Readers

variable {ofLine? : List Char → Option δ}
variable (anchored : pattern.isAnchored = true) (stays : pattern.staysInLine = true)
include anchored stays

theorem newline_not_mem_of_findAll {text : List Char} {m : Match} (h : m ∈ pattern.findAll text) :
    '\n' ∉ m.text := by
  rw [Pattern.findAll_eq_lines anchored stays] at h
  obtain ⟨line, hline, hm⟩ := List.mem_filterMap.mp h
  have hstart := Pattern.text_isPrefix (Pattern.mem_ways_of_first? hm)
  exact fun hmem => not_mem_of_mem_lines hline (hstart.subset hmem)

theorem findAll_length_le_one {line : List Char} (h : '\n' ∉ line) :
    (pattern.findAll line).length ≤ 1 := by
  rw [Pattern.findAll_eq_lines anchored stays, lines_of_not_mem h]
  exact (List.length_filterMap_le _ _)

theorem lineByLine_of_ofLine? (hextract : ∀ doc, extract doc = (lines doc.toList).filterMap ofLine?)
    (hline : ∀ line, '\n' ∉ line → ofLine? line = (pattern.parts? ⟨none, line⟩).bind read)
    (empty : ofLine? [] = none) : LineByLine extract pattern read := by
  have append (first second : String) :
      extract (first ++ "\n" ++ second) = extract first ++ extract second := by
    rw [hextract, hextract, hextract, toList_append_newline, lines_append_newline,
      List.filterMap_append]
  have hempty : extract "" = [] := by
    rw [hextract]
    change [[]].filterMap ofLine? = []
    rw [List.filterMap_cons, empty, List.filterMap_nil]
  have documented (attributes : List Source.Attribute) : extract (Source.docText attributes) =
      (attributes.filterMap Source.Attribute.docText?).flatMap extract :=
    flatMap_of_append append hempty _
  constructor
  case matched =>
    intro doc
    rw [hextract, Pattern.findAll_eq_lines anchored stays, List.filterMap_filterMap]
    refine List.filterMap_congr fun line hmem => ?_
    rw [hline line (not_mem_of_mem_lines hmem), Pattern.parts?, Option.bind_map]
    rfl
  case inside => exact fun doc m hm => newline_not_mem_of_findAll anchored stays hm
  case once => exact fun line h => findAll_length_le_one anchored stays h
  case append => exact append
  case documented => exact documented
  case reflected =>
    intro f method h
    rw [doc_of_reflect h, documented]

end Readers

section Tags

def tags : List String := ["filter", "action", "shortcode", "command", "ajax", "api-"]

def carries (line : List Char) (tag : String) : Bool :=
  (afterTag? tag line).isSome

/-- No tag is the beginning of another one, so a text begins with one of them at most. -/
theorem eq_of_tags {first second : String} (hfirst : first ∈ tags) (hsecond : second ∈ tags)
    {text : List Char} (h : first.toList <+: text) (h' : second.toList <+: text) :
    first = second := by
  have apart : ∀ first ∈ tags, ∀ second ∈ tags, first.toList <+: second.toList →
      first = second := by decide
  rcases List.prefix_or_prefix_of_prefix h h' with h | h
  · exact apart first hfirst second hsecond h
  · exact (apart second hsecond first hfirst h).symm

theorem isPrefix_of_carries {line : List Char} {tag : String} (h : carries line tag = true) :
    ∃ rest, tagged? line = some rest ∧ tag.toList <+: rest := by
  obtain ⟨after, hafter⟩ := Option.isSome_iff_exists.mp h
  obtain ⟨rest, hrest, hstart⟩ := Option.bind_eq_some_iff.mp hafter
  exact ⟨rest, hrest, after, List.isPrefixOf?_eq_some_iff_append_eq.mp hstart⟩

theorem eq_of_carries {line : List Char} {first second : String} (hfirst : first ∈ tags)
    (hsecond : second ∈ tags) (h : carries line first = true) (h' : carries line second = true) :
    first = second := by
  obtain ⟨rest, hrest, hstart⟩ := isPrefix_of_carries h
  obtain ⟨_, hother, hstart'⟩ := isPrefix_of_carries h'
  cases hrest.symm.trans hother
  exact eq_of_tags hfirst hsecond hstart hstart'

theorem countP_carries_le_one (line : List Char) : tags.countP (carries line) ≤ 1 := by
  have hnodup : (tags.filter (carries line)).Nodup :=
    List.Pairwise.filter _ (by decide : tags.Nodup)
  have hmem : ∀ tag ∈ tags.filter (carries line), tag ∈ tags ∧ carries line tag = true :=
    fun tag h => List.mem_filter.mp h
  rw [List.countP_eq_length_filter]
  cases hfound : tags.filter (carries line) with
  | nil => exact Nat.zero_le 1
  | cons first more =>
    cases more with
    | nil => exact Nat.le_refl 1
    | cons second more =>
      rw [hfound] at hnodup hmem
      obtain ⟨hfirst, hsecond⟩ := (List.forall_mem_cons.mp hmem).imp_right fun h =>
        (List.forall_mem_cons.mp h).1
      have heq : first = second := eq_of_carries hfirst.1 hsecond.1 hfirst.2 hsecond.2
      exact absurd (heq ▸ List.mem_cons_self) (List.nodup_cons.mp hnodup).1

theorem length_toList_le {found : Option δ} {own : List String} {line : List Char}
    (h : ∀ directive, found = some directive → ∃ tag ∈ own, carries line tag = true) :
    found.toList.length ≤ own.countP (carries line) := by
  cases found with
  | none => exact Nat.zero_le _
  | some directive => exact List.countP_pos_iff.mpr (h directive rfl)

theorem carries_of_bind {tag : String} {line : List Char} {next : List Char → Option δ}
    {directive : δ} (h : (afterTag? tag line).bind next = some directive) :
    carries line tag = true := by
  obtain ⟨rest, hrest, -⟩ := Option.bind_eq_some_iff.mp h
  rw [carries, hrest]
  rfl

theorem directives_le_one (line : List Char) :
    (hookOfLine? line).toList.length + (commandOfLine? line).toList.length +
      (ajaxOfLine? line).toList.length + (apiOfLine? line).toList.length ≤ 1 := by
  have hhooks : (hookOfLine? line).toList.length ≤
      ["filter", "action", "shortcode"].countP (carries line) := by
    refine length_toList_le fun hook h => ?_
    obtain ⟨kind, hkind, h⟩ := List.exists_of_findSome?_eq_some h
    exact ⟨kind.tag, List.mem_map_of_mem (f := HookKind.tag) hkind, carries_of_bind h⟩
  have hcommands : (commandOfLine? line).toList.length ≤ ["command"].countP (carries line) :=
    length_toList_le fun _ h => ⟨_, List.mem_singleton_self _, carries_of_bind h⟩
  have hajax : (ajaxOfLine? line).toList.length ≤ ["ajax"].countP (carries line) :=
    length_toList_le fun _ h => ⟨_, List.mem_singleton_self _, carries_of_bind h⟩
  have hapi : (apiOfLine? line).toList.length ≤ ["api-"].countP (carries line) :=
    length_toList_le fun _ h => ⟨_, List.mem_singleton_self _, carries_of_bind h⟩
  have hsum : tags.countP (carries line) = ["filter", "action", "shortcode"].countP (carries line) +
      ["command"].countP (carries line) + ["ajax"].countP (carries line) +
        ["api-"].countP (carries line) := by
    rw [← List.countP_append, ← List.countP_append, ← List.countP_append]
    rfl
  have hone := countP_carries_le_one line
  omega

end Tags

/--
Each of the four readers goes line by line, and a text without a line feed gives one directive at
most over all of them.
-/
theorem lineByLine : LineByLine hooks hookPattern hookOfParts? ∧
    LineByLine commands commandPattern commandOfParts? ∧
    LineByLine ajax ajaxPattern ajaxOfParts? ∧
    LineByLine api apiPattern apiOfParts? ∧
    ∀ line : String, '\n' ∉ line.toList →
      (hooks line).length + (commands line).length + (ajax line).length + (api line).length ≤ 1 := by
  refine ⟨?_, ?_, ?_, ?_, fun line h => ?_⟩
  · exact lineByLine_of_ofLine? rfl (by decide) (fun _ => rfl) (fun line _ => hookOfLine?_eq line) rfl
  · exact lineByLine_of_ofLine? rfl (by decide) (fun _ => rfl)
      (fun line _ => commandOfLine?_eq line) rfl
  · exact lineByLine_of_ofLine? rfl (by decide) (fun _ => rfl) (fun line _ => ajaxOfLine?_eq line) rfl
  · exact lineByLine_of_ofLine? rfl (by decide) (fun _ => rfl) (fun line => apiOfLine?_eq) rfl
  · have hone {γ : Type} (ofLine? : List Char → Option γ) :
        ((lines line.toList).filterMap ofLine?).length = (ofLine? line.toList).toList.length := by
      rw [lines_of_not_mem h, List.filterMap_cons, List.filterMap_nil]
      cases ofLine? line.toList <;> rfl
    rw [hooks, commands, ajax, api, hone, hone, hone, hone]
    exact directives_le_one line.toList

def savePost : Source.Function :=
  { name := "save_post"
    doc := [.doc " Saves a post.", .doc " @action save_post, 5", .doc " * @filter the_title"]
    receiver := some "&self" }

theorem lineByLine_savePost :
    savePost.reflect = .ok (some
      { name := "save_post", argCount := 0, call := [],
        doc := " Saves a post.\n @action save_post, 5\n * @filter the_title" }) ∧
    hooks " Saves a post.\n @action save_post, 5\n * @filter the_title" =
      [⟨.action, "save_post", some 5⟩, ⟨.filter, "the_title", none⟩] ∧
    '\n' ∉ " @action save_post, 5".toList ∧
    (hooks " @action save_post, 5").length + (commands " @action save_post, 5").length +
      (ajax " @action save_post, 5").length + (api " @action save_post, 5").length ≤ 1 := by
  obtain ⟨hhooks, -, -, -, hone⟩ := lineByLine
  have hreflect : savePost.reflect = .ok (some
      { name := "save_post", argCount := 0, call := [],
        doc := " Saves a post.\n @action save_post, 5\n * @filter the_title" }) := by
    rfl
  refine ⟨hreflect, ?_, by decide, hone _ (by decide)⟩
  rw [hhooks.reflected savePost _ hreflect]
  decide

end HookWiring.Directive
