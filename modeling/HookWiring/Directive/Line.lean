import HookWiring.Text.Blank

/-!
# Lines of documentation

Directives are read line by line. A line may be indented by spaces and tabs and may carry one
star after the indentation, with more spaces and tabs behind it, as in a comment block. What is
left is a directive when it starts with `@`.
-/

namespace HookWiring.Directive

open Text

/-- The lines of a text. A text has one line more than it has line feeds. -/
def lines : List Char → List (List Char)
  | [] => [[]]
  | c :: rest =>
    if c = '\n' then [] :: lines rest
    else match lines rest with
      | line :: more => (c :: line) :: more
      | [] => [[c]]

/-- A line without its indentation and the star of a comment block. -/
def unindent (line : List Char) : List Char :=
  match line.dropWhile isBlank with
  | '*' :: rest => rest.dropWhile isBlank
  | rest => rest

def tagged? (line : List Char) : Option (List Char) :=
  match unindent line with
  | '@' :: rest => some rest
  | _ => none

def afterTag? (tag : String) (line : List Char) : Option (List Char) :=
  (tagged? line).bind fun rest => tag.toList.isPrefixOf? rest

def afterBlanks? (text : List Char) : Option (List Char) :=
  match text with
  | [] => none
  | c :: rest => if isBlank c then some (rest.dropWhile isBlank) else none

theorem exists_lines_eq_cons (text : List Char) :
    ∃ line more, lines text = line :: more := by
  cases text with
  | nil => exact ⟨_, _, rfl⟩
  | cons c rest =>
    by_cases h : c = '\n'
    · exact ⟨[], lines rest, by simp [lines, h]⟩
    · cases hr : lines rest with
      | nil => exact ⟨[c], [], by simp [lines, h, hr]⟩
      | cons line more => exact ⟨c :: line, more, by simp [lines, h, hr]⟩

theorem lines_append_newline (a b : List Char) : lines (a ++ '\n' :: b) = lines a ++ lines b := by
  induction a with
  | nil => simp [lines]
  | cons c rest ih =>
    by_cases h : c = '\n'
    · simp [lines, h, ih]
    · obtain ⟨line, more, hr⟩ := exists_lines_eq_cons rest
      simp [lines, h, ih, hr]

theorem lines_of_not_mem {line : List Char} (h : '\n' ∉ line) : lines line = [line] := by
  induction line with
  | nil => rfl
  | cons c rest ih =>
    have hc : c ≠ '\n' := fun e => h (e ▸ List.mem_cons_self)
    simp [lines, hc, ih fun m => h (List.mem_cons_of_mem _ m)]

end HookWiring.Directive
