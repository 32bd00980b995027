import HookWiring.Text.Word

/-!
# Identifiers

Which characters an identifier may begin with and go on with. These are the letters and the word
characters of the Unicode standard, apart from enclosed letters and a few forms that do not survive
normalisation, and with a few characters that are kept for the sake of stability. Identifiers are
those of version 18 of the standard, which the other tables of properties do not know yet.
-/

namespace HookWiring.Text

def excludedStartBoundaries : Boundaries :=
  [ 0x37A, 0x37B, 0xE33, 0xE34, 0xEB3, 0xEB4, 0x24B6, 0x24EA, 0x2E2F, 0x2E30, 0xFC5E, 0xFC64,
    0xFDFA, 0xFDFC, 0xFE70, 0xFE71, 0xFE72, 0xFE73, 0xFE74, 0xFE75, 0xFE76, 0xFE77, 0xFE78, 0xFE79,
    0xFE7A, 0xFE7B, 0xFE7C, 0xFE7D, 0xFE7E, 0xFE7F, 0xFF9E, 0xFFA0, 0x1F130, 0x1F14A, 0x1F150,
    0x1F16A, 0x1F170, 0x1F18A ]

def excludedPartBoundaries : Boundaries :=
  [ 0x37A, 0x37B, 0x488, 0x48A, 0x1ABE, 0x1ABF, 0x20DD, 0x20E1, 0x20E2, 0x20E5, 0x24B6, 0x24EA,
    0x2E2F, 0x2E30, 0xA670, 0xA673, 0xFC5E, 0xFC64, 0xFDFA, 0xFDFC, 0xFE70, 0xFE71, 0xFE72, 0xFE73,
    0xFE74, 0xFE75, 0xFE76, 0xFE77, 0xFE78, 0xFE79, 0xFE7A, 0xFE7B, 0xFE7C, 0xFE7D, 0xFE7E, 0xFE7F,
    0x1F130, 0x1F14A, 0x1F150, 0x1F16A, 0x1F170, 0x1F18A ]

def newLetterBoundaries : Boundaries :=
  [ 0x558, 0x559, 0x58B, 0x58D, 0x208F, 0x2090, 0x209D, 0x20A0, 0xA7DD, 0xA7DE, 0xA7E2, 0xA7E3,
    0xAB6C, 0xAB6E, 0x107BB, 0x107C0, 0x10ED9, 0x10EEF, 0x11B0A, 0x11B0B, 0x11DF1, 0x11DF2, 0x1246F,
    0x12470, 0x12475, 0x12480, 0x12550, 0x12687, 0x18CD6, 0x18CDB, 0x18D1F, 0x18D21, 0x18E00,
    0x19192, 0x191A0, 0x191D3, 0x1B123, 0x1B129, 0x1B168, 0x1B169, 0x1D6A6, 0x1D6A7, 0x1DF1F,
    0x1DF25, 0x1DF2B, 0x1DF82, 0x1DF90, 0x1DF97, 0x1DFCD, 0x1E000, 0x2B81E, 0x2B81F, 0x3D000,
    0x3FC40 ]

def newMarkBoundaries : Boundaries :=
  [ 0x5C8, 0x5CA, 0xB53, 0xB55, 0x1ADE, 0x1AE0, 0x1AEC, 0x1AF1, 0x10ECB, 0x10ED0, 0x10EF0, 0x10EFA,
    0x11DF0, 0x11DF1, 0x1D127, 0x1D129, 0x1D250, 0x1D253, 0x1D25B, 0x1D25D, 0x1D25F, 0x1D260,
    0x1D280, 0x1D282 ]

def isIdentifierStart (c : Char) : Bool :=
  c == '_' || c == '\u1885' || c == '\u1886' || c == '\u2118' || c == '\u212e' ||
    newLetterBoundaries.contains c.toNat ||
    (isAlphabetic c && !isMark c && !excludedStartBoundaries.contains c.toNat)

def isIdentifierPart (c : Char) : Bool :=
  c == '\u00b7' || c == '\u0387' || ('\u1369' ≤ c && c ≤ '\u1371') || c == '\u19da' ||
    c == '\u2118' || c == '\u212e' || c == '\u30fb' || c == '\uff65' ||
    newLetterBoundaries.contains c.toNat || newMarkBoundaries.contains c.toNat ||
    (isWordForming c && !excludedPartBoundaries.contains c.toNat)

end HookWiring.Text
