import Narrative.Console.Input
import Narrative.Load
import Narrative.Session.Host
import Narrative.Text.Uppercase
import Narrative.Text.Wrap

/-!
# Console.Basic — playing a story line by line

The console shows a session as text and does what the lines of a player ask for. It adds nothing
to the session: it only remembers whether the story has come to its end.
-/

namespace Narrative

/-- A session that is played at a console. -/
structure Console where
  session : Session
  /-- Whether the story has come to its end at this console. -/
  finished : Bool

namespace Console

/-- The columns of a line. -/
def lineWidth : Nat := 80

/-- A text as a line of its own. -/
def line (text : String) : String := text ++ "\n"

/-- A text fitted into the lines. -/
def filled (text : String) : String := String.ofList (Text.fill lineWidth text.toList)

/-- A text in the middle of a line. An odd space goes behind it. -/
def centered (text : String) : String :=
  let room := lineWidth - text.length
  let left := room / 2
  "".pushn ' ' left ++ text ++ "".pushn ' ' (room - left)

/-- The head of a play: the title of the story in capitals. -/
def banner (graph : Graph) : String :=
  line (centered (String.ofList (Text.uppercase graph.title.toList)))

/-- Stands in front of what a player types. -/
def prompt : String := "> "

/-- What follows when the story has come to its end. -/
def ending : String := "\n" ++ line "THE END"

/-! ## The view of a session -/

/-- The text of the current screen. -/
def screenText (session : Session) : String :=
  match session.screenText with
  | .ok text => if text.isEmpty then "" else line (filled text)
  | .error error => line ("error in screen text: " ++ error.message)

/-- The message, if there is one. -/
def message (session : Session) : String :=
  if session.state.message.isEmpty then "" else "\n" ++ line (filled session.state.message)

/-- The open choices with their numbers. -/
def choiceList (session : Session) : String :=
  match session.availableChoices with
  | .ok choices =>
    "\n" ++ String.join (choices.mapIdx fun index choice =>
      line ("  " ++ toString (index + 1) ++ ". " ++ choice.title))
  | .error error => line ("error in choice guard: " ++ error.message)

/-- What a player sees of a session. -/
def view (session : Session) : String :=
  match session.currentScreen? with
  | none => ""
  | some screen =>
    "\n" ++ line screen.title ++ screenText session ++ message session ++ choiceList session

/-- The unlocked recipes with their numbers. -/
def recipeList (session : Session) : String :=
  if session.recipeLines.isEmpty then line "No recipes unlocked."
  else
    String.join (session.recipeLines.mapIdx fun index text =>
      line (toString (index + 1) ++ ". " ++ text))

def help : String :=
  "\n" ++ String.join
    ["Commands\n", "  <number>   pick a choice\n", "  inventory  list what you carry\n",
     "  recipes    list unlocked recipes\n", "  craft <n>  craft recipe number n\n",
     "  quit       leave the quest\n"]

/-! ## Playing -/

/-- Performs an operation on the session. -/
def perform {ε α : Type} (console : Console) (play : Play ε α) : Except ε α × Console :=
  let (result, session, trace) := console.session.run play
  let ends := trace.events.any fun
    | .questFinished _ => true
    | _ => false
  (result, { session, finished := console.finished || ends })

/-- Starts a session at a console. -/
def start (session : Session) : Except SessionError Console :=
  let (result, console) := perform ⟨session, false⟩ Play.start
  result.map fun _ => console

/-- Selects the choice with a number. -/
def choose (console : Console) (number : Nat) : String × Console :=
  match console.perform (Play.selectChoice (number - 1)) with
  | (.ok _, after) => ("", after)
  | (.error error, after) => (line ("error: " ++ error.message), after)

/-- Crafts the recipe with a number. -/
def craft (console : Console) (number : Nat) : String × Console :=
  match console.perform (Play.useRecipe (number - 1) : Play Empty Bool) with
  | (.ok true, after) => ("", after)
  | (_, after) => (line "You can't craft that right now.", after)

/-- Answers a line: what is written, and the console afterwards. Nothing, if the player leaves.
Numbers count from one, so zero is none. -/
def respond (console : Console) (typed : String) : Option (String × Console) :=
  match Input.parse typed with
  | .choose (number + 1) => some (console.choose (number + 1))
  | .craft (number + 1) => some (console.craft (number + 1))
  | .inventory => some ("\n" ++ line console.session.inventoryText, console)
  | .recipes => some (recipeList console.session, console)
  | .help => some (help, console)
  | .quit => none
  | .choose 0 | .craft 0 | .unknown => some (line "Type a choice number, or 'help'.", console)

/-- What is written while a player types these lines, and the console afterwards. The play ends
with the story, when the player leaves, or when there are no more lines. -/
def transcript (console : Console) (lines : List String) : String × Console :=
  if console.finished then (ending, console)
  else
    let shown := view console.session ++ prompt
    match lines with
    -- the end of the input leaves the prompt unanswered
    | [] => (shown, console)
    | typed :: rest =>
      match console.respond typed with
      | none => (shown, console)
      | some (answer, next) =>
        let (later, last) := next.transcript rest
        (shown ++ answer ++ later, last)

/-- Plays a session with a player who types these lines. No line is read where it does not start. -/
def play (session : Session) (lines : List String) : Except SessionError (String × Console) :=
  (start session).map fun console => console.transcript lines

end Console

end Narrative
