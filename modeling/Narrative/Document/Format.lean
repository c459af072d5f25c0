import Narrative.Path

/-!
# Document.Format — which syntax a file has
-/

namespace Narrative

/-- The syntaxes of documents. -/
inductive Format where
  | json
  | toml
  | ron
deriving DecidableEq, Repr

namespace Format

/-- The syntax that the extension of a path stands for, in capitals or not. -/
def ofPath? (path : String) : Option Format := do
  match String.ofList ((← Path.extension? path.toList).map Char.toLower) with
  | "json" => some .json
  | "toml" => some .toml
  | "ron" => some .ron
  | _ => none

/-- The name of a syntax in messages. -/
def name : Format → String
  | .json => "JSON"
  | .toml => "TOML"
  | .ron => "RON"

/-- What is said of a text that is no story in a syntax. -/
def refusal (format : Format) : String := "parsing quest " ++ format.name

end Format

end Narrative
