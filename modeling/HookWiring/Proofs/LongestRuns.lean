import HookWiring.Proofs.DirectivePatterns
import Mathlib.Data.List.TakeWhile

/-!
# Longest runs

A reader of directives takes runs of characters from a text, each as long as it can be. What it has
read is therefore the one way to split the text into such runs.
-/

namespace HookWiring.Directive

open Text

def Stops (test : Char → Bool) (text : List Char) : Prop :=
  ∀ c, text.head? = some c → test c = false

/-- A run of characters that pass a test, which the text behind it does not prolong. -/
structure LongestRun (test : Char → Bool) (run rest : List Char) : Prop where
  all : ∀ c ∈ run, test c = true
  stops : Stops test rest

def Trims (text left : List Char) : Prop :=
  ∃ white, text = left ++ white ∧ (∀ c ∈ white, isWhiteSpace c = true) ∧
    ∀ c, left.getLast? = some c → isWhiteSpace c = false

section Runs

variable {test : Char → Bool} {text run rest name left : List Char}

theorem stops_cons {c : Char} (h : test c = false) (text : List Char) : Stops test (c :: text) := by
  rintro _ ⟨⟩
  exact h

theorem stops_append {other : Char → Bool} (apart : ∀ c, test c = true → other c = false)
    (hne : run ≠ []) (hrun : ∀ c ∈ run, other c = true) (rest : List Char) :
    Stops test (run ++ rest) := by
  intro c hc
  rw [List.head?_append_of_ne_nil _ hne] at hc
  by_contra htest
  have hother := hrun c (List.mem_of_mem_head? hc)
  rw [apart c (by simpa using htest)] at hother
  cases hother

theorem dropWhile_eq_self (h : Stops test text) : text.dropWhile test = text := by
  cases text with
  | nil => rfl
  | cons c more => exact List.dropWhile_cons_of_neg (by simp [h c rfl])

theorem takeWhile_eq_nil (h : Stops test text) : text.takeWhile test = [] := by
  cases text with
  | nil => rfl
  | cons c more => exact List.takeWhile_cons_of_neg (by simp [h c rfl])

theorem stops_dropWhile (text : List Char) : Stops test (text.dropWhile test) := by
  intro c hc
  have hhead := List.head?_dropWhile_not test text
  rw [hc] at hhead
  simpa using hhead

theorem longestRun_takeWhile (test : Char → Bool) (text : List Char) :
    LongestRun test (text.takeWhile test) (text.dropWhile test) where
  all _ hc := List.mem_takeWhile_imp hc
  stops := stops_dropWhile text

theorem LongestRun.takeWhile_eq (h : LongestRun test run rest) :
    (run ++ rest).takeWhile test = run := by
  rw [List.takeWhile_append_of_pos h.all, takeWhile_eq_nil h.stops, List.append_nil]

theorem LongestRun.dropWhile_eq (h : LongestRun test run rest) :
    (run ++ rest).dropWhile test = rest := by
  rw [List.dropWhile_append_of_pos h.all, dropWhile_eq_self h.stops]

theorem LongestRun.unique {other more : List Char} (h : LongestRun test run rest)
    (h' : LongestRun test other more) (heq : run ++ rest = other ++ more) :
    run = other ∧ rest = more := by
  have hrun := congrArg (List.takeWhile test) heq
  have hrest := congrArg (List.dropWhile test) heq
  rw [h.takeWhile_eq, h'.takeWhile_eq] at hrun
  rw [h.dropWhile_eq, h'.dropWhile_eq] at hrest
  exact ⟨hrun, hrest⟩

theorem trims_iff : Trims text left ↔ trimEnd text = left := by
  constructor
  · intro h
    obtain ⟨white, rfl, hwhite, hlast⟩ := h
    -- Read from its end, the text is a longest run of white space before what is left.
    have hrun : LongestRun isWhiteSpace white.reverse left.reverse := by
      constructor
      · simpa using hwhite
      · intro c hc
        apply hlast
        simpa using hc
    rw [trimEnd, dropEndWhile, List.reverse_append, hrun.dropWhile_eq, List.reverse_reverse]
  · intro h
    subst h
    have hrun := longestRun_takeWhile isWhiteSpace text.reverse
    refine ⟨(text.reverse.takeWhile isWhiteSpace).reverse, ?_, ?_, ?_⟩
    · rw [trimEnd, dropEndWhile, ← List.reverse_append, List.takeWhile_append_dropWhile,
        List.reverse_reverse]
    · simpa using hrun.all
    · intro c hc
      apply hrun.stops
      rwa [trimEnd, dropEndWhile, List.getLast?_reverse] at hc

theorem afterBlanks?_eq_some_iff : afterBlanks? text = some rest ↔
    ∃ gap, text = gap ++ rest ∧ gap ≠ [] ∧ LongestRun isBlank gap rest := by
  rw [afterBlanks?_eq]
  constructor
  · intro h
    split at h
    · cases h
    next hne =>
      cases h
      exact ⟨_, List.takeWhile_append_dropWhile.symm, hne, longestRun_takeWhile isBlank text⟩
  · rintro ⟨gap, rfl, hne, hrun⟩
    rw [hrun.takeWhile_eq, hrun.dropWhile_eq, if_neg hne]

theorem name?_eq_some_iff : name? test text = some (name, rest) ↔
    text = name ++ rest ∧ name ≠ [] ∧ LongestRun test name rest := by
  rw [name?_eq]
  constructor
  · intro h
    split at h
    · cases h
    next hne =>
      cases h
      exact ⟨List.takeWhile_append_dropWhile.symm, hne, longestRun_takeWhile test text⟩
  · rintro ⟨rfl, hne, hrun⟩
    rw [hrun.takeWhile_eq, hrun.dropWhile_eq, if_neg hne]

end Runs

end HookWiring.Directive
