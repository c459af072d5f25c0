import Narrative.Recipe.Basic
import Narrative.Registry
import Narrative.Text.Blank

/-!
# Recipe.Shorthand — how documents declare recipes

A recipe is declared by its amounts, or in shorthand as in `stick + stone + stone = sword`,
where every repetition of a name adds one to its amount.
-/

namespace Narrative

/-- A recipe as a document declares it. -/
inductive RecipeDeclaration where
  | shorthand (text : String)
  | amounts (ingredients results : Registry Amount)

/-- Why a shorthand is no recipe. -/
inductive ShorthandError where
  | missingEquals (text : String)
  | repeatedEquals (text : String)
  | noResults (text : String)
deriving DecidableEq, Repr

def ShorthandError.message : ShorthandError → String
  | .missingEquals text => "missing '=' in recipe shorthand \"" ++ text ++ "\""
  | .repeatedEquals text => "more than one '=' in recipe shorthand \"" ++ text ++ "\""
  | .noResults text => "recipe shorthand \"" ++ text ++ "\" produces nothing"

/-- What a declaration lists on its two sides. -/
structure RecipeParts where
  ingredients : List Stack
  results : List Stack
deriving DecidableEq, Repr

namespace Shorthand

/-- Counts one more of a name. A name that was not there yet goes to the end. -/
def countOne (name : String) : List Stack → List Stack
  | [] => [⟨name, 1⟩]
  | stack :: rest =>
    if stack.item = name then ⟨name, stack.amount + 1⟩ :: rest else stack :: countOne name rest

/-- The names between the plus signs of one side, trimmed, without the blank ones. -/
def names (side : List Char) : List String :=
  (((Text.splitAt (· == '+') side).map Text.trim).filter (!·.isEmpty)).map String.ofList

/-- How often each name stands on one side, in the order of the first occurrences. -/
def tally (side : List Char) : List Stack :=
  (names side).foldl (fun counted name => countOne name counted) []

/-- Reads a shorthand: two sides around a single equals sign, the right one not empty. -/
def parts (text : String) : Except ShorthandError RecipeParts :=
  match Text.splitAt (· == '=') text.toList with
  | [lhs, rhs] =>
    if (tally rhs).isEmpty then .error (.noResults text) else .ok ⟨tally lhs, tally rhs⟩
  | _ :: _ :: _ => .error (.repeatedEquals text)
  | _ => .error (.missingEquals text)

end Shorthand

/-- The entries of a registry of amounts as stacks, in the order of the names. -/
def stacksOf (amounts : Registry Amount) : List Stack :=
  amounts.entries.map fun entry => ⟨entry.1, entry.2⟩

/-- What a declaration lists. -/
def RecipeDeclaration.parts : RecipeDeclaration → Except ShorthandError RecipeParts
  | .shorthand text => Shorthand.parts text
  | .amounts ingredients results => .ok ⟨stacksOf ingredients, stacksOf results⟩

end Narrative
