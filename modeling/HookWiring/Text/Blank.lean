import HookWiring.Text.CharSet

/-!
# Blank characters

Two classes of blanks. White space is the property White_Space of the Unicode standard; it ends
keys and is trimmed from the end of values. Spaces and tabs alone indent a line and separate the
parts of a directive.
-/

namespace HookWiring.Text

def whiteSpaceBoundaries : Boundaries :=
  [ 0x9, 0xE, 0x20, 0x21, 0x85, 0x86, 0xA0, 0xA1, 0x1680, 0x1681, 0x2000, 0x200B, 0x2028, 0x202A,
    0x202F, 0x2030, 0x205F, 0x2060, 0x3000, 0x3001 ]

def isWhiteSpace (c : Char) : Bool :=
  whiteSpaceBoundaries.contains c.toNat

def isBlank (c : Char) : Bool :=
  c == ' ' || c == '\t'

def dropEndWhile (p : Char → Bool) (text : List Char) : List Char :=
  (text.reverse.dropWhile p).reverse

def trimEnd (text : List Char) : List Char :=
  dropEndWhile isWhiteSpace text

theorem isWhiteSpace_of_isBlank (c : Char) (h : isBlank c = true) : isWhiteSpace c = true := by
  simp only [isBlank, Bool.or_eq_true, beq_iff_eq] at h
  rcases h with rfl | rfl <;> decide

end HookWiring.Text
