import HookWiring.Text.Alphabetic
import HookWiring.Text.Mark
import HookWiring.Text.Numeral
import HookWiring.Text.Recent

/-!
# Words

Two notions of what continues a word. A word character is a letter, mark, decimal digit,
connecting punctuation or join control that is not recent; the end of a tag is found with it. An
alphanumeric character is a letter or any number. Neither notion contains the other: a superscript
two is alphanumeric and no word character, an underscore is the reverse.
-/

namespace HookWiring.Text

def connectorBoundaries : Boundaries :=
  [ 0x5F, 0x60, 0x203F, 0x2041, 0x2054, 0x2055, 0xFE33, 0xFE35, 0xFE4D, 0xFE50, 0xFF3F, 0xFF40 ]

def isConnector (c : Char) : Bool :=
  connectorBoundaries.contains c.toNat

def isJoinControl (c : Char) : Bool :=
  c == '\u200c' || c == '\u200d'

def isWordForming (c : Char) : Bool :=
  isAlphabetic c || isMark c || isDecimalDigit c || isConnector c || isJoinControl c

def isWord (c : Char) : Bool :=
  isWordForming c && !isRecent c

def isWordDigit (c : Char) : Bool :=
  isDecimalDigit c && !isRecent c

def isAlphanumeric (c : Char) : Bool :=
  isAlphabetic c || isDecimalDigit c || isOtherNumber c

theorem isRecent_or_isOtherNumber_of_isAlphanumeric (c : Char) (h : isAlphanumeric c = true)
    (hw : isWord c = false) : isRecent c = true ∨ isOtherNumber c = true := by
  simp only [isWord, isWordForming, isAlphanumeric, Bool.and_eq_false_iff, Bool.or_eq_false_iff,
    Bool.or_eq_true, Bool.not_eq_false'] at h hw
  rcases hw with hw | hw
  · simp_all
  · exact .inl hw

end HookWiring.Text
