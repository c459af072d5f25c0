import Narrative.Text.Blank

/-!
# Command.Phrase — the words of a command

A source is cut into words at white space. Double quotes hold a word together, white space and
all, and are no part of it; a quoted word may be empty. A quote that is never closed is skipped.
-/

namespace Narrative

/-- A verb and its arguments, as written. -/
structure Phrase where
  verb : String
  arguments : List String
deriving DecidableEq, Repr

namespace Phrase

/-- The characters of a bare word. -/
def isBare (c : Char) : Bool := !Text.isBlank c && c != '"'

def words : List Char → List (List Char)
  | [] => []
  | '"' :: cs =>
    match h : cs.dropWhile (· != '"') with
    | _ :: rest =>
      have : rest.length < cs.length + 1 := by
        have hle := (List.dropWhile_sublist (p := (· != '"')) (l := cs)).length_le
        rw [h, List.length_cons] at hle
        omega
      cs.takeWhile (· != '"') :: words rest
    -- a quote that is not closed counts for nothing, and the words go on behind it
    | [] => words cs
  | c :: cs =>
    if Text.isBlank c then words cs
    else
      have : (cs.dropWhile isBare).length < cs.length + 1 :=
        Nat.lt_succ_of_le (List.dropWhile_sublist (p := isBare) (l := cs)).length_le
      (c :: cs.takeWhile isBare) :: words (cs.dropWhile isBare)
termination_by cs => cs.length

/-- The phrase of a source, or nothing if it has no words. -/
def read? (source : String) : Option Phrase :=
  match (words source.toList).map String.ofList with
  | [] => none
  | verb :: arguments => some ⟨verb, arguments⟩

end Phrase

end Narrative
