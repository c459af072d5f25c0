import Narrative.Text.Letter

/-!
# Text.Name — the characters of names

The identifiers of the Unicode standard, with the underscore: a name starts with a letter and goes
on with letters, marks, decimal digits and characters that connect. Both classes are closed under
compatibility normalisation, which excludes a few letters.
-/

namespace Narrative.Text

/-- Characters that are not among the letters and may start a name. -/
def startingSigns : List (Nat × Nat) :=
  [(0x558, 0x558), (0x1885, 0x1886), (0x2118, 0x2118), (0x212E, 0x212E)]

/-- Letters that may not start a name, but stand in one. -/
def innerLetters : List (Nat × Nat) :=
  [(0xE33, 0xE33), (0xEB3, 0xEB3), (0xFF9E, 0xFF9F)]

/-- Letters that stand in no name. -/
def excludedLetters : List (Nat × Nat) :=
  [(0x37A, 0x37A), (0x2E2F, 0x2E2F), (0xFC5E, 0xFC63), (0xFDFA, 0xFDFB), (0xFE70, 0xFE70),
   (0xFE72, 0xFE72), (0xFE74, 0xFE74), (0xFE76, 0xFE76), (0xFE78, 0xFE78), (0xFE7A, 0xFE7A),
   (0xFE7C, 0xFE7C), (0xFE7E, 0xFE7E)]

/-- Characters that connect the parts of a name. -/
def connectors : List (Nat × Nat) :=
  [(0x5F, 0x5F), (0x203F, 0x2040), (0x2054, 0x2054), (0xFE33, 0xFE34), (0xFE4D, 0xFE4F),
   (0xFF3F, 0xFF3F)]

/-- Other characters that stand in names. -/
def innerSigns : List (Nat × Nat) :=
  [(0xB7, 0xB7), (0x387, 0x387), (0x1369, 0x1371), (0x19DA, 0x19DA), (0x200C, 0x200D),
   (0x30FB, 0x30FB), (0xFF65, 0xFF65)]

/-- Whether a character may start a name. -/
def startsName (c : Char) : Bool :=
  c == '_' || inRanges startingSigns c.toNat ||
    inRanges letterRanges c.toNat &&
      !inRanges innerLetters c.toNat && !inRanges excludedLetters c.toNat

/-- Whether a character may stand in a name behind its start. -/
def continuesName (c : Char) : Bool :=
  startsName c || inRanges innerLetters c.toNat || inRanges digitRanges c.toNat ||
    isMark c.toNat && !inRanges enclosingMarks c.toNat ||
    inRanges connectors c.toNat || inRanges innerSigns c.toNat

/-! The ranges increase, so `inRanges_iff` holds of them. -/

example : increasingFrom 0 startingSigns := by decide +kernel
example : increasingFrom 0 innerLetters := by decide +kernel
example : increasingFrom 0 excludedLetters := by decide +kernel
example : increasingFrom 0 connectors := by decide +kernel
example : increasingFrom 0 innerSigns := by decide +kernel

end Narrative.Text
