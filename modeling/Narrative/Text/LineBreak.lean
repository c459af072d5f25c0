import Narrative.Text.BreakClass
import Narrative.Text.Glyph

/-!
# Text.LineBreak — where a line may be broken

The rules of the Unicode line breaking standard, but for the one that holds an opening bracket to a
quote across spaces. They look at the character in front of a place and at the one behind it, and
across spaces between the two. No place behind a hyphen counts, since hyphens have a rule of their
own; a hyphen at the end of a line even takes the last place in front of it away.

`segments` cuts a line at all these places. `segments_flatten` says that nothing is lost.
-/

namespace Narrative.Text

namespace BreakClass

/-! ## Pairs of characters -/

/-- Whether a character of this class never starts a line, not even behind spaces. -/
def neverStarts (right : BreakClass) : Bool :=
  right ∈ [lineEnd, space, zeroSpace, wordJoiner, closing, closingBracket, exclamation, separator,
    slash]

/-- Whether characters of these classes stay together across spaces between them. -/
def joinedAcross (left right : BreakClass) : Bool :=
  if left == zeroSpace then right ∈ [lineEnd, space, zeroSpace]
  else
    right.neverStarts || left == opening || left == dash && right == dash ||
      left ∈ [closing, closingBracket] && right == nonStarter

/-- The jamo and syllables of Hangul. -/
def hangul : List BreakClass := [leadJamo, vowelJamo, tailJamo, openSyllable, closedSyllable]

/-- The pairs that stay together when they touch, where no rule speaks of one side alone: each of
the first classes with each of the second ones. -/
def joinedPairs : List (List BreakClass × List BreakClass) :=
  [([letter, hebrew, digit], [letter, hebrew, digit, numberSign, unitSign, opening]),
   ([numberSign, unitSign], [letter, hebrew, digit, opening]),
   ([numberSign], [ideograph, emoji, tone] ++ hangul),
   ([ideograph, emoji, tone] ++ hangul, [unitSign]),
   ([closing, closingBracket], [numberSign, unitSign]),
   ([closingBracket, separator], [letter, hebrew, digit]),
   ([hyphen], [digit]),
   ([slash], [hebrew, digit]),
   ([leadJamo], [leadJamo, vowelJamo, openSyllable, closedSyllable]),
   ([vowelJamo, openSyllable], [vowelJamo, tailJamo]),
   ([tailJamo, closedSyllable], [tailJamo]),
   ([regional], [regional]),
   ([emoji], [tone]),
   ([dash], [dash])]

/-- Whether characters of these classes stay together when they touch. The first rule that speaks
of one of them decides. -/
def joined (left right : BreakClass) : Bool :=
  if left == lineEnd then false
  else if right ∈ [lineEnd, space, zeroSpace] then true
  else if left == zeroSpace then false
  else if left ∈ [wordJoiner, glue] || right == wordJoiner then true
  else if right == glue then left != breakBehind && left != hyphen
  else if right.neverStarts || left == opening then true
  else if left == quotation || right == quotation then true
  else if left == placeholder || right == placeholder then false
  else if right ∈ [breakBehind, hyphen, nonStarter, leader] then true
  else if left == breakInFront || left == hebrewHyphen then true
  else joinedPairs.any fun pair => left ∈ pair.1 && right ∈ pair.2

/-- The class of a character for what follows it, if it touches one of the class `left`. -/
def behind (left right : BreakClass) : BreakClass :=
  if left == regional && right == regional then flag
  else if left == hebrew && right ∈ [hyphen, breakBehind] then hebrewHyphen
  else right

end BreakClass

/-! ## Places in a line -/

/-- Hyphens, hard and soft. -/
def isHyphen (c : Char) : Bool := c == '-' || c == '\u00ad'

/-- What stands in front of a place in a line. -/
structure LinePlace where
  /-- The class of the last character that is neither a space nor a mark on another one. -/
  class? : Option BreakClass := none
  /-- The character directly in front. -/
  previous? : Option Char := none

namespace LinePlace

/-- Whether a space stands in front. -/
def isSpaced (place : LinePlace) : Bool := place.previous? == some ' '

/-- The class under which a character counts at a place: none for a mark on the character in front.
A mark without one is a letter. -/
def counted? (place : LinePlace) (cls : BreakClass) : Option BreakClass :=
  if cls ∈ [.mark, .joiner] then
    if !place.isSpaced && place.class?.any (· ∉ [.lineEnd, .zeroSpace]) then none else some .letter
  else some cls

/-- Whether the standard lets a line be broken at a place in front of a character of a class. -/
def mayBreak (place : LinePlace) (cls : BreakClass) : Bool :=
  match place.counted? cls, place.class? with
  | none, _ => false
  | some right, none => place.isSpaced && !right.neverStarts
  | some right, some left =>
    place.previous? != some '\u200d' &&
      !(if place.isSpaced then left.joinedAcross right else left.joined right)

/-- Whether a line is cut at a place in front of a character of a class. -/
def isCut (place : LinePlace) (cls : BreakClass) : Bool :=
  !place.previous?.any isHyphen && place.mayBreak cls

/-- The place behind the next character. -/
def next (place : LinePlace) (c : Char) (cls : BreakClass) : LinePlace :=
  let class? := match place.counted? cls, place.class? with
    | none, class? => class?
    | some .space, class? => class?
    | some right, none => some right
    | some right, some left => some (if place.isSpaced then right else left.behind right)
  { class?, previous? := some c }

end LinePlace

/-! ## Segments -/

/-- Puts characters in front of the first segment. -/
def extendFirst (cs : List Char) : List (List Char) → List (List Char)
  | [] => [cs]
  | segment :: rest => (cs ++ segment) :: rest

/-- Puts the last two segments together. -/
def joinLast : List (List Char) → List (List Char)
  | [] => []
  | [last] => [last]
  | [before, last] => [before ++ last]
  | segment :: rest => segment :: joinLast rest

/-- The segments of the rest of a line. -/
def segmentsAfter (place : LinePlace) : List Glyph → List (List Char)
  | [] => [[]]
  | glyph :: rest =>
    match glyph.shown? with
    -- escape sequences at the end belong to the last segment
    | none => extendFirst glyph.chars (segmentsAfter place rest)
    | some c =>
      let cls := BreakClass.of c
      let parts := extendFirst glyph.chars (segmentsAfter (place.next c cls) rest)
      if place.isCut cls then [] :: parts else parts

/-- Whether the last character of a line that is shown is a hyphen. -/
def endsInHyphen (line : List Glyph) : Bool := (line.filterMap (·.shown?)).getLast?.any isHyphen

def segments (line : List Char) : List (List Char) :=
  let parts := segmentsAfter {} (glyphs line)
  if endsInHyphen (glyphs line) then joinLast parts else parts

/-- The first segment grows by the characters. -/
theorem extendFirst_flatten (cs : List Char) (parts : List (List Char)) :
    (extendFirst cs parts).flatten = cs ++ parts.flatten := by
  cases parts <;> simp [extendFirst]

/-- Joining segments keeps their characters. Induction along `joinLast`. -/
theorem joinLast_flatten (parts : List (List Char)) :
    (joinLast parts).flatten = parts.flatten := by
  fun_induction joinLast parts with
  | case1 => rfl
  | case2 => rfl
  | case3 => simp
  | case4 segment rest _ _ ih => simp [ih]

/-- The segments of glyphs put together are their text. Induction on the glyphs. -/
theorem segmentsAfter_flatten (place : LinePlace) (line : List Glyph) :
    (segmentsAfter place line).flatten = line.flatMap Glyph.chars := by
  induction line generalizing place with
  | nil => rfl
  | cons glyph rest ih =>
    simp only [segmentsAfter]
    split
    · simp [extendFirst_flatten, ih]
    · split <;> simp [extendFirst_flatten, ih]

/-- The segments put together are the line. -/
theorem segments_flatten (line : List Char) : (segments line).flatten = line := by
  unfold segments
  split <;> simp [joinLast_flatten, segmentsAfter_flatten, glyphs_chars]

end Narrative.Text
