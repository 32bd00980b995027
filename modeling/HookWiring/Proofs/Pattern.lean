import HookWiring.Directive.Line
import HookWiring.Text.Word
import Mathlib.Data.List.Basic

/-!
# Patterns

A pattern says what may stand where: literal text, runs of characters of one class, and assertions
about the place itself. At a place of a text a pattern may match in several ways. They come in order
of preference, a longer run before a shorter one and something optional before nothing, and the
first way is the match. The matches of a text are found from left to right; each begins behind the
one before it.

A pattern that is anchored at the start of a line and takes no line feed is matched against every
line by itself, once at most, and neither the lines around it nor their order matter.
-/

namespace HookWiring

open Text

inductive Part where
  | kind
  | name
  | priority
  | key
  | value
  deriving DecidableEq

inductive Pattern where
  | lineStart
  | lineEnd
  /-- Between a word character and a character that is none, or an end of the text. -/
  | wordBoundary
  | literal (text : String)
  | run (test : Char → Bool)
  | seq (first second : Pattern)
  | either (first second : Pattern)
  | optional (inner : Pattern)
  | part (label : Part) (inner : Pattern)

structure Place where
  before : Option Char
  rest : List Char

structure Match where
  text : List Char
  parts : List (Part × List Char)
  deriving DecidableEq

namespace Match

def empty : Match := ⟨[], []⟩

def append (first second : Match) : Match :=
  ⟨first.text ++ second.text, first.parts ++ second.parts⟩

end Match

namespace Place

def past (place : Place) (text : List Char) : Place :=
  ⟨text.getLast?.or place.before, place.rest.drop text.length⟩

def startsLine (place : Place) : Bool :=
  place.before.all (· == '\n')

def endsLine (place : Place) : Bool :=
  place.rest.head?.all (· == '\n')

def isBoundary (place : Place) : Bool :=
  place.before.any isWord != place.rest.head?.any isWord

end Place

/-- The runs of a class at the start of a text, the longest first. -/
def runs (test : Char → Bool) : List Char → List (List Char)
  | [] => []
  | c :: rest => if test c then (runs test rest).map (c :: ·) ++ [[c]] else []

namespace Pattern

/-- The ways to match a pattern at a place, in order of preference. -/
def ways : Pattern → Place → List Match
  | .lineStart, place => if place.startsLine then [.empty] else []
  | .lineEnd, place => if place.endsLine then [.empty] else []
  | .wordBoundary, place => if place.isBoundary then [.empty] else []
  | .literal text, place =>
    if text.toList.isPrefixOf place.rest then [⟨text.toList, []⟩] else []
  | .run test, place => (runs test place.rest).map fun text => ⟨text, []⟩
  | .seq first second, place =>
    (first.ways place).flatMap fun m => (second.ways (place.past m.text)).map m.append
  | .either first second, place => first.ways place ++ second.ways place
  | .optional inner, place => inner.ways place ++ [.empty]
  | .part label inner, place =>
    (inner.ways place).map fun m => ⟨m.text, (label, m.text) :: m.parts⟩

def first? (pattern : Pattern) (place : Place) : Option Match :=
  (pattern.ways place).head?

/-- The matches in a text from left to right, of which so many characters are taken already. -/
def scan (pattern : Pattern) : (before : Option Char) → (taken : Nat) → List Char → List Match
  | before, 0, [] => (pattern.first? ⟨before, []⟩).toList
  | _, _ + 1, [] => []
  | before, 0, c :: rest =>
    match pattern.first? ⟨before, c :: rest⟩ with
    | some m => m :: pattern.scan (some c) (m.text.length - 1) rest
    | none => pattern.scan (some c) 0 rest
  | _, taken + 1, c :: rest => pattern.scan (some c) taken rest

def findAll (pattern : Pattern) (text : List Char) : List Match :=
  pattern.scan none 0 text

def inOrder : List Pattern → Pattern
  | [] => .literal ""
  | [pattern] => pattern
  | pattern :: more => .seq pattern (inOrder more)

def isAnchored : Pattern → Bool
  | .lineStart => true
  | .seq first _ => first.isAnchored
  | .either first second => first.isAnchored && second.isAnchored
  | .part _ inner => inner.isAnchored
  | _ => false

def staysInLine : Pattern → Bool
  | .lineStart => true
  | .lineEnd => true
  | .wordBoundary => true
  | .literal text => !text.toList.contains '\n'
  | .run test => !test '\n'
  | .seq first second => first.staysInLine && second.staysInLine
  | .either first second => first.staysInLine && second.staysInLine
  | .optional inner => inner.staysInLine
  | .part _ inner => inner.staysInLine

end Pattern

theorem mem_runs_iff {test : Char → Bool} {text run : List Char} :
    run ∈ runs test text ↔ run ≠ [] ∧ run <+: text.takeWhile test := by
  induction text generalizing run with
  | nil => simp [runs]
  | cons c rest ih =>
    by_cases hc : test c
    · cases run with
      | nil => simp [runs, hc]
      | cons d more =>
        simp only [runs, hc, if_true, List.mem_append, List.mem_map, ih, List.mem_singleton,
          List.takeWhile_cons, List.cons_prefix_cons, List.cons.injEq]
        constructor
        · rintro (⟨tail, ⟨-, htail⟩, rfl, rfl⟩ | ⟨rfl, rfl⟩)
          · exact ⟨List.cons_ne_nil _ _, rfl, htail⟩
          · exact ⟨List.cons_ne_nil _ _, rfl, List.nil_prefix⟩
        · rintro ⟨-, rfl, hmore⟩
          by_cases hnil : more = []
          · exact .inr ⟨rfl, hnil⟩
          · exact .inl ⟨more, ⟨hnil, hmore⟩, rfl, rfl⟩
    · simp [runs, hc]

/-- A prefix that does not have the character at which two texts meet is one of the first text. -/
theorem isPrefix_of_head_not_mem {text first second : List Char} (h : text <+: first ++ second)
    (hhead : ∀ c ∈ second.head?, c ∉ text) : text <+: first := by
  cases second with
  | nil => rwa [List.append_nil] at h
  | cons c rest =>
    have hc : c ∉ text := hhead c rfl
    by_cases le : text.length ≤ first.length
    · exact List.prefix_of_prefix_length_le h (List.prefix_append _ _) le
    · have hjoin : first ++ [c] <+: first ++ c :: rest :=
        (List.prefix_append_right_inj _).mpr ⟨rest, rfl⟩
      have hlonger : first ++ [c] <+: text := by
        refine List.prefix_of_prefix_length_le hjoin h ?_
        rw [List.length_append, List.length_singleton]
        omega
      exact absurd (hlonger.subset (List.mem_append_right _ List.mem_cons_self)) hc

theorem runs_append_newline {test : Char → Bool} (htest : test '\n' = false) (line more : List Char) :
    runs test (line ++ '\n' :: more) = runs test line := by
  induction line with
  | nil => simp [runs, htest]
  | cons c rest ih => simp only [List.cons_append, runs, ih]

namespace Place

theorem past_nil (place : Place) : place.past [] = place :=
  rfl

theorem past_append (place : Place) (first second : List Char) :
    place.past (first ++ second) = (place.past first).past second := by
  simp only [past, List.getLast?_append, Option.or_assoc, List.length_append, List.drop_drop]

theorem past_of_append (before : Option Char) (text rest : List Char) :
    (⟨before, text ++ rest⟩ : Place).past text = ⟨text.getLast?.or before, rest⟩ := by
  simp only [past, List.drop_left]

end Place

namespace Pattern

variable {pattern : Pattern} {place : Place} {m : Match}

theorem text_isPrefix (h : m ∈ pattern.ways place) : m.text <+: place.rest := by
  induction pattern generalizing place m with
  | lineStart | lineEnd | wordBoundary =>
    simp only [ways, List.mem_ite_nil_right, List.mem_singleton] at h
    rw [h.2]
    exact List.nil_prefix
  | literal text =>
    simp only [ways, List.mem_ite_nil_right, List.mem_singleton] at h
    rw [h.2]
    exact List.isPrefixOf_iff_prefix.mp h.1
  | run test =>
    obtain ⟨run, hrun, rfl⟩ := List.mem_map.mp h
    exact (mem_runs_iff.mp hrun).2.trans (List.takeWhile_prefix _)
  | seq first second ihfirst ihsecond =>
    obtain ⟨a, ha, h⟩ := List.mem_flatMap.mp h
    obtain ⟨b, hb, rfl⟩ := List.mem_map.mp h
    obtain ⟨rest, hrest⟩ := ihfirst ha
    have hsecond := ihsecond hb
    rw [Place.past, ← hrest, List.drop_left] at hsecond
    rw [← hrest]
    exact (List.prefix_append_right_inj _).mpr hsecond
  | either first second ihfirst ihsecond =>
    rcases List.mem_append.mp h with h | h
    · exact ihfirst h
    · exact ihsecond h
  | optional inner ih =>
    rcases List.mem_append.mp h with h | h
    · exact ih h
    · rw [List.mem_singleton.mp h]
      exact List.nil_prefix
  | part label inner ih =>
    obtain ⟨a, ha, rfl⟩ := List.mem_map.mp h
    exact ih (m := a) ha

theorem part_isInfix (h : m ∈ pattern.ways place) {found : Part × List Char}
    (hfound : found ∈ m.parts) : found.2 <:+: m.text := by
  induction pattern generalizing place m with
  | lineStart | lineEnd | wordBoundary | literal =>
    simp only [ways, List.mem_ite_nil_right, List.mem_singleton] at h
    rw [h.2] at hfound
    cases hfound
  | run test =>
    obtain ⟨run, -, rfl⟩ := List.mem_map.mp h
    cases hfound
  | seq first second ihfirst ihsecond =>
    obtain ⟨a, ha, h⟩ := List.mem_flatMap.mp h
    obtain ⟨b, hb, rfl⟩ := List.mem_map.mp h
    rcases List.mem_append.mp hfound with hfound | hfound
    · exact (ihfirst ha hfound).trans (List.prefix_append _ _).isInfix
    · exact (ihsecond hb hfound).trans (List.suffix_append _ _).isInfix
  | either first second ihfirst ihsecond =>
    rcases List.mem_append.mp h with h | h
    · exact ihfirst h hfound
    · exact ihsecond h hfound
  | optional inner ih =>
    rcases List.mem_append.mp h with h | h
    · exact ih h hfound
    · rw [List.mem_singleton.mp h] at hfound
      cases hfound
  | part label inner ih =>
    obtain ⟨a, ha, rfl⟩ := List.mem_map.mp h
    rcases List.mem_cons.mp hfound with rfl | hfound
    · exact List.infix_rfl
    · exact ih (m := a) ha hfound

theorem mem_ways_of_first? (h : pattern.first? place = some m) : m ∈ pattern.ways place :=
  List.mem_of_head? h

theorem ways_append_newline (stays : pattern.staysInLine = true) (before : Option Char)
    {line : List Char} (h : '\n' ∉ line) (more : List Char) :
    pattern.ways ⟨before, line ++ '\n' :: more⟩ = pattern.ways ⟨before, line⟩ := by
  induction pattern generalizing before line with
  | lineStart => rfl
  | lineEnd =>
    cases line with
    | nil => rfl
    | cons c rest => rfl
  | wordBoundary =>
    have hfeed : isWord '\n' = false := by decide
    cases line with
    | nil => simp [ways, Place.isBoundary, hfeed]
    | cons c rest => rfl
  | literal text =>
    have htext : '\n' ∉ text.toList := by simpa [staysInLine] using stays
    have hiff : text.toList <+: line ++ '\n' :: more ↔ text.toList <+: line := by
      constructor
      · exact fun hp => isPrefix_of_head_not_mem hp (by simpa using htext)
      · exact fun hp => hp.trans (List.prefix_append _ _)
    simp only [ways, List.isPrefixOf_iff_prefix, hiff]
  | run test =>
    have htest : test '\n' = false := by simpa [staysInLine] using stays
    simp only [ways, runs_append_newline htest]
  | seq first second ihfirst ihsecond =>
    simp only [staysInLine, Bool.and_eq_true] at stays
    simp only [ways, ihfirst stays.1 before h]
    refine List.flatMap_congr fun m hm => ?_
    obtain ⟨rest, hrest⟩ := text_isPrefix hm
    simp only at hrest
    subst hrest
    rw [List.append_assoc, Place.past_of_append, Place.past_of_append,
      ihsecond stays.2 _ fun hmem => h (List.mem_append_right _ hmem)]
  | either first second ihfirst ihsecond =>
    simp only [staysInLine, Bool.and_eq_true] at stays
    simp only [ways, ihfirst stays.1 before h, ihsecond stays.2 before h]
  | optional inner ih => simp only [ways, ih stays before h]
  | part label inner ih => simp only [ways, ih stays before h]

theorem ways_lineFeed (rest : List Char) :
    pattern.ways ⟨some '\n', rest⟩ = pattern.ways ⟨none, rest⟩ := by
  induction pattern generalizing rest with
  | lineStart | lineEnd | literal | run => rfl
  | wordBoundary =>
    have hfeed : isWord '\n' = false := by decide
    simp [ways, Place.isBoundary, hfeed]
  | seq first second ihfirst ihsecond =>
    simp only [ways, ihfirst]
    refine List.flatMap_congr fun m _ => ?_
    cases hlast : m.text.getLast? with
    | none =>
      rw [List.getLast?_eq_none_iff] at hlast
      rw [hlast, Place.past_nil, Place.past_nil, ihsecond]
    | some c => simp only [Place.past, hlast, Option.some_or]
  | either first second ihfirst ihsecond => simp only [ways, ihfirst, ihsecond]
  | optional inner ih => simp only [ways, ih]
  | part label inner ih => simp only [ways, ih]

theorem ways_of_isAnchored (anchored : pattern.isAnchored = true) (h : place.startsLine = false) :
    pattern.ways place = [] := by
  induction pattern with
  | lineStart => simp [ways, h]
  | seq first second ihfirst _ => simp only [ways, ihfirst anchored, List.flatMap_nil]
  | either first second ihfirst ihsecond =>
    simp only [isAnchored, Bool.and_eq_true] at anchored
    simp only [ways, ihfirst anchored.1, ihsecond anchored.2, List.append_nil]
  | part label inner ih => simp only [ways, ih anchored, List.map_nil]
  | lineEnd | wordBoundary | literal | run | optional => cases anchored

section Lines

variable (anchored : pattern.isAnchored = true)
include anchored

theorem first?_inside {c : Char} (h : c ≠ '\n') (rest : List Char) :
    pattern.first? ⟨some c, rest⟩ = none := by
  rw [first?, ways_of_isAnchored anchored (by simp [Place.startsLine, h]), List.head?_nil]

theorem scan_inside {c : Char} (hc : c ≠ '\n') {taken : Nat} {line : List Char}
    (h : '\n' ∉ line) (le : taken ≤ line.length) :
    pattern.scan (some c) taken line = [] ∧ ∀ more,
      pattern.scan (some c) taken (line ++ '\n' :: more) = pattern.scan (some '\n') 0 more := by
  induction line generalizing c taken with
  | nil =>
    rw [Nat.le_zero.mp le]
    refine ⟨?_, fun more => ?_⟩
    · rw [scan, first?_inside anchored hc, Option.toList_none]
    · rw [List.nil_append, scan, first?_inside anchored hc]
  | cons d rest ih =>
    have hd : d ≠ '\n' := fun heq => h (heq ▸ List.mem_cons_self)
    have hrest : '\n' ∉ rest := fun hmem => h (List.mem_cons_of_mem _ hmem)
    cases taken with
    | zero =>
      obtain ⟨hend, hmore⟩ := ih hd hrest (Nat.zero_le _)
      refine ⟨?_, fun more => ?_⟩
      · rw [scan, first?_inside anchored hc]
        exact hend
      · rw [List.cons_append, scan, first?_inside anchored hc]
        exact hmore more
    | succ taken => exact ih hd hrest (Nat.le_of_succ_le_succ le)

variable (stays : pattern.staysInLine = true)
include stays

theorem scan_line {before : Option Char} (starts : (⟨before, []⟩ : Place).startsLine = true)
    {line : List Char} (h : '\n' ∉ line) :
    pattern.scan before 0 line = (pattern.first? ⟨none, line⟩).toList ∧ ∀ more,
      pattern.scan before 0 (line ++ '\n' :: more) =
        (pattern.first? ⟨none, line⟩).toList ++ pattern.scan (some '\n') 0 more := by
  have hbefore (rest : List Char) : pattern.first? ⟨before, rest⟩ = pattern.first? ⟨none, rest⟩ := by
    cases before with
    | none => rfl
    | some c =>
      obtain rfl : c = '\n' := by simpa [Place.startsLine] using starts
      rw [first?, ways_lineFeed, first?]
  have hbehind (more : List Char) :
      pattern.first? ⟨before, line ++ '\n' :: more⟩ = pattern.first? ⟨none, line⟩ := by
    rw [hbefore, first?, ways_append_newline stays none h, first?]
  cases line with
  | nil =>
    refine ⟨?_, fun more => ?_⟩
    · rw [scan, hbefore]
    · have hfirst := hbehind more
      rw [List.nil_append] at hfirst ⊢
      rw [scan, hfirst]
      cases hm : pattern.first? ⟨none, []⟩ with
      | none => rfl
      | some m =>
        have hnil := List.prefix_nil.mp (text_isPrefix (mem_ways_of_first? hm))
        simp only [hnil]
        rfl
  | cons c rest =>
    have hc : c ≠ '\n' := fun heq => h (heq ▸ List.mem_cons_self)
    have hrest : '\n' ∉ rest := fun hmem => h (List.mem_cons_of_mem _ hmem)
    have hinside {taken : Nat} (le : taken ≤ rest.length) := scan_inside anchored hc hrest le
    cases hm : pattern.first? ⟨none, c :: rest⟩ with
    | none =>
      refine ⟨?_, fun more => ?_⟩
      · rw [scan, hbefore, hm]
        exact (hinside (Nat.zero_le _)).1
      · have hfirst := (hbehind more).trans hm
        rw [List.cons_append] at hfirst ⊢
        rw [scan, hfirst]
        exact (hinside (Nat.zero_le _)).2 more
    | some m =>
      have hlength := (text_isPrefix (mem_ways_of_first? hm)).length_le
      have le : m.text.length - 1 ≤ rest.length := by
        rw [List.length_cons] at hlength
        omega
      refine ⟨?_, fun more => ?_⟩
      · rw [scan, hbefore, hm]
        exact congrArg _ (hinside le).1
      · have hfirst := (hbehind more).trans hm
        rw [List.cons_append] at hfirst ⊢
        rw [scan, hfirst]
        exact congrArg _ ((hinside le).2 more)

theorem scan_eq_lines {before : Option Char} (starts : (⟨before, []⟩ : Place).startsLine = true)
    (text : List Char) :
    pattern.scan before 0 text =
      (Directive.lines text).filterMap fun line => pattern.first? ⟨none, line⟩ := by
  have hone (line : List Char) : [line].filterMap (fun line => pattern.first? ⟨none, line⟩) =
      (pattern.first? ⟨none, line⟩).toList := by
    cases h : pattern.first? ⟨none, line⟩ <;> simp [h]
  -- The induction is on what is left of the text, which gets shorter behind every line feed.
  induction hlength : text.length using Nat.strongRecOn generalizing text before with
  | ind n ih =>
    by_cases h : '\n' ∈ text
    · obtain ⟨line, more, rfl, hline⟩ := List.eq_append_cons_of_mem h
      rw [List.length_append, List.length_cons] at hlength
      rw [(scan_line anchored stays starts hline).2 more, Directive.lines_append_newline,
        Directive.lines_of_not_mem hline, List.filterMap_append, hone,
        ih more.length (by omega) rfl more rfl]
    · rw [(scan_line anchored stays starts h).1, Directive.lines_of_not_mem h, hone]

/-- An anchored pattern that stays in its line is matched against every line by itself. -/
theorem findAll_eq_lines (text : List Char) :
    pattern.findAll text =
      (Directive.lines text).filterMap fun line => pattern.first? ⟨none, line⟩ :=
  scan_eq_lines anchored stays rfl text

end Lines

end Pattern

end HookWiring
