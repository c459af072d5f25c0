import Narrative.Text.Columns

/-!
# Text.Glyph — what a terminal shows of a text

A terminal does not show escape sequences, and they take no column. `glyphs` splits a text into
the characters that are shown, each with the escape sequences in front of it; `glyphs_chars` says
that nothing is lost.
-/

namespace Narrative.Text

/-- A character with the escape sequences in front of it. The sequences at the end of a text make
up a glyph without a character. -/
structure Glyph where
  hidden : List Char
  shown? : Option Char
deriving DecidableEq, Repr

namespace Glyph

def chars (glyph : Glyph) : List Char := glyph.hidden ++ glyph.shown?.toList

/-- The columns that a glyph takes. -/
def columns (glyph : Glyph) : Nat := (glyph.shown?.map Text.columns).getD 0

end Glyph

/-! ## Escape sequences -/

/-- Cuts a string for the terminal off the front of a text. It ends with a bell, or with a backslash
behind an escape; `previous` is the character in front. -/
def cutTerminalString (previous : Char) : List Char → List Char × List Char
  | [] => ([], [])
  | c :: cs =>
    if c == '\x07' || c == '\\' && previous == '\x1b' then ([c], cs)
    else
      let cut := cutTerminalString c cs
      (c :: cut.1, cut.2)

/-- Cuts the parameters of a control sequence off the front of a text, with the character that ends
it. -/
def cutParameters : List Char → List Char × List Char
  | [] => ([], [])
  | c :: cs =>
    if '@' ≤ c && c ≤ '~' then ([c], cs)
    else
      let cut := cutParameters cs
      (c :: cut.1, cut.2)

/-- Cuts an escape sequence whose first character was read off the front of a text. -/
def cutSequence : List Char → List Char × List Char
  | '[' :: cs => let cut := cutParameters cs; ('[' :: cut.1, cut.2)
  | ']' :: cs => let cut := cutTerminalString ']' cs; (']' :: cut.1, cut.2)
  | c :: cs => ([c], cs)
  | [] => ([], [])

/-- A string for the terminal and what follows it make up the text. Induction on it. -/
theorem cutTerminalString_append (previous : Char) (cs : List Char) :
    (cutTerminalString previous cs).1 ++ (cutTerminalString previous cs).2 = cs := by
  induction cs generalizing previous with
  | nil => rfl
  | cons c cs ih =>
    unfold cutTerminalString
    split
    · rfl
    · simpa using ih c

/-- The parameters and what follows them make up the text. Induction on it. -/
theorem cutParameters_append (cs : List Char) :
    (cutParameters cs).1 ++ (cutParameters cs).2 = cs := by
  induction cs with
  | nil => rfl
  | cons c cs ih =>
    unfold cutParameters
    split
    · rfl
    · simpa using ih

/-- An escape sequence and what follows it make up the text. -/
theorem cutSequence_append (cs : List Char) : (cutSequence cs).1 ++ (cutSequence cs).2 = cs := by
  unfold cutSequence
  split
  · simpa using cutParameters_append _
  · simpa using cutTerminalString_append _ _
  · rfl
  · rfl

/-- What follows an escape sequence is no longer than the text. -/
theorem length_cutSequence_le (cs : List Char) : (cutSequence cs).2.length ≤ cs.length := by
  have h := congrArg List.length (cutSequence_append cs)
  simp only [List.length_append] at h
  omega

/-! ## Glyphs -/

/-- Puts an escape sequence in front of glyphs. -/
def hide (sequence : List Char) : List Glyph → List Glyph
  | [] => [⟨sequence, none⟩]
  | glyph :: rest => ⟨sequence ++ glyph.hidden, glyph.shown?⟩ :: rest

def glyphs : List Char → List Glyph
  | [] => []
  | c :: cs =>
    if c == '\x1b' then hide (c :: (cutSequence cs).1) (glyphs (cutSequence cs).2)
    else ⟨[], some c⟩ :: glyphs cs
termination_by cs => cs.length
decreasing_by
  · have := length_cutSequence_le cs
    simp only [List.length_cons]
    omega
  · simp

/-- Hiding a sequence puts it in front of the text. -/
theorem hide_chars (sequence : List Char) (parts : List Glyph) :
    (hide sequence parts).flatMap Glyph.chars = sequence ++ parts.flatMap Glyph.chars := by
  cases parts <;> simp [hide, Glyph.chars]

/-- The glyphs put together are the text. Induction along `glyphs`. -/
theorem glyphs_chars (cs : List Char) : (glyphs cs).flatMap Glyph.chars = cs := by
  fun_induction glyphs cs with
  | case1 => rfl
  | case2 c cs _ ih => simp [hide_chars, ih, cutSequence_append]
  | case3 c cs _ ih => simp [Glyph.chars, ih]

/-- The columns that a text takes. -/
def width (cs : List Char) : Nat :=
  (glyphs cs).foldr (fun glyph used => glyph.columns + used) 0

end Narrative.Text
