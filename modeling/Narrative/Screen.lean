import Narrative.Condition
import Narrative.Command.Phrase
import Narrative.Command.Basic

/-!
# Screen — what the player sees and may choose

Screens and relays, the two kinds of places of a story. A screen shows a text and offers choices;
a relay is never shown and leads on through the first of its forks whose guard holds.
-/

namespace Narrative

/-- The sources of the commands of an action, in order. -/
abbrev Script := List String

/-- Whether some command of a script starts with this verb. -/
def Script.hasVerb (script : Script) (verb : String) : Bool :=
  script.any fun source => (Phrase.read? source).any (·.verb == verb)

/-- The scripts of a place: `once` runs on the first visit only, `always` on every visit and
behind `once`. -/
structure StageScripts where
  once : Script := []
  always : Script := []
deriving DecidableEq, Repr

/-- A guarded option of the player. -/
structure Choice where
  title : String
  condition : Condition := []
  action : Script
deriving DecidableEq, Repr

namespace Choice

/-- Whether the action moves the player elsewhere. -/
def changesScreen (choice : Choice) : Bool :=
  [Verb.jump, .relay, .next].any fun verb => Script.hasVerb choice.action verb.keyword

/-- Whether the action shows a message. -/
def hasMessage (choice : Choice) : Bool := Script.hasVerb choice.action Verb.message.keyword

/-- The choices whose guards hold. The error is that of the first malformed guard. -/
def available (ctx : Context) : List Choice → Except ExprError (List Choice)
  | [] => .ok []
  | choice :: rest => do
    let holds ← choice.condition.evaluate ctx
    let others ← available ctx rest
    return if holds then choice :: others else others

/-- What happens while the guards of choices are evaluated, up to the first malformed one. -/
def remarks (ctx : Context) : List Choice → List Remark
  | [] => []
  | choice :: rest =>
    match choice.condition.parse with
    | .ok _ => choice.condition.remarks ctx ++ remarks ctx rest
    | .error _ => []

end Choice

/-- A place that is shown. A screen without a name can only be reached by its position. -/
structure Screen where
  name : Option String := none
  title : String := ""
  text : List String := []
  scripts : StageScripts := {}
  choices : List Choice := []
deriving DecidableEq, Repr

namespace Screen

/-- The lines of the text as one text. -/
def joinedText (screen : Screen) : String := "\n".intercalate screen.text

/-- What a screen is called in notices: its name, or else its title. -/
def label (screen : Screen) : String := screen.name.getD screen.title

end Screen

end Narrative
