/-!
# Sets of characters

A set of characters is kept as the sorted list of the code points at which membership changes.
A code point belongs to the set when an odd number of these boundaries lie at or below it.
The properties of the Unicode standard that directives, quoting and letter case depend on are
tables of this form, each in the module named for the property.
-/

namespace HookWiring.Text

/-- The ascending code points at which membership changes, beginning outside the set. -/
abbrev Boundaries := List Nat

def Boundaries.contains (bounds : Boundaries) (code : Nat) : Bool :=
  (bounds.takeWhile (· ≤ code)).length % 2 == 1

/-- Membership of a character outside ASCII in a set whose ASCII part is given by a test. -/
def Boundaries.extend (bounds : Boundaries) (ascii : Char → Bool) (c : Char) : Bool :=
  if c.toNat < 128 then ascii c else bounds.contains c.toNat

theorem Boundaries.extend_of_ascii (bounds : Boundaries) (ascii : Char → Bool) {c : Char}
    (h : c.toNat < 128) : bounds.extend ascii c = ascii c := by
  simp [Boundaries.extend, h]

end HookWiring.Text
