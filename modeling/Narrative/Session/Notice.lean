import Narrative.Session.Basic

/-!
# Session.Notice — events, notices and errors of a session

Events tell a host what changed; notices are for the log. Both are data. A session leaves a trace
of them and of every change of its state, in the order in which they happened.
-/

namespace Narrative

/-- Why a command did not do what it asks for. -/
inductive ActionError where
  | command (error : CommandError)
  | unknownScreen (name : String)
  | unknownRelay (name : String)
  | unknownItem (name : String)
  | unknownRecipe (name : String)
  | outOfRange (offset : Nat)
  | noCurrentScreen
  | expr (error : ExprError)
  | navigationLoop (limit : Nat)
deriving DecidableEq, Repr

namespace ActionError

/-- Fatal errors end the running script and all that led to it; the others only skip their
command. -/
def isFatal : ActionError → Bool
  | .expr _ | .navigationLoop _ => true
  | _ => false

def message : ActionError → String
  | .command error => error.message
  | .unknownScreen name => "unknown screen '" ++ name ++ "'"
  | .unknownRelay name => "unknown relay '" ++ name ++ "'"
  | .unknownItem name => "unknown item '" ++ name ++ "'"
  | .unknownRecipe name => "unknown recipe '" ++ name ++ "'"
  | .outOfRange offset => "no screen " ++ toString offset ++ " position(s) after the current one"
  | .noCurrentScreen => "there is no current screen to move from"
  | .expr error => error.message
  | .navigationLoop limit =>
    "navigation exceeded " ++ toString limit ++ " nested jumps/relays (loop?)"

end ActionError

/-- Why an operation of a host failed. -/
inductive SessionError where
  | missingStartScreen (name : String)
  | action (error : ActionError)
  | expr (error : ExprError)
deriving DecidableEq, Repr

def SessionError.message : SessionError → String
  | .missingStartScreen name => "start screen '" ++ name ++ "' does not exist"
  | .action error => error.message
  | .expr error => error.message

/-- What a host is told. -/
inductive Event where
  | screenChanged (screen : Screen)
  | choiceSelected (choice : Choice)
  | messageChanged (text : String)
  /-- Carries the name of the story. -/
  | questFinished (name : String)
deriving DecidableEq, Repr

/-- How grave a notice is. -/
inductive Severity where
  | info
  | warning
  | error
deriving DecidableEq, Repr

/-- How a severity is written in a log. -/
def Severity.name : Severity → String
  | .info => "INFO"
  | .warning => "WARN"
  | .error => "ERROR"

/-- What a command has done, for the log. -/
inductive Deed where
  | jump (screen : String)
  | next (offset : Nat) (target : Nat)
  | relay (name : String)
  | message (text : String)
  | give (item : String) (amount : Amount)
  | consume (item : String) (amount : Amount)
  /-- Nothing was consumed, because less was held. -/
  | spare (item : String) (amount : Amount)
  | unlock (recipe : String)
  | lock (recipe : String)
  | set (name : String) (assignment : Assignment) (expression : String) (value : Value)
  | exit

def Deed.text : Deed → String
  | .jump screen => "Jump(" ++ screen ++ ")"
  | .next offset target => "Next(" ++ toString offset ++ ") -> screen #" ++ toString target
  | .relay name => "Relay(" ++ name ++ ")"
  | .message text => "Message(\"" ++ text ++ "\")"
  | .give item amount => "Give(" ++ item ++ ", " ++ toString amount.toNat ++ ")"
  | .consume item amount => "Consume(" ++ item ++ ", " ++ toString amount.toNat ++ ")"
  | .spare item amount =>
    "Consume(" ++ item ++ ", " ++ toString amount.toNat ++ ") skipped, not enough held"
  | .unlock recipe => "Unlock(" ++ recipe ++ ")"
  | .lock recipe => "Lock(" ++ recipe ++ ")"
  | .set name assignment expression value =>
    "Set(" ++ name ++ " " ++ assignment.symbol ++ " " ++ expression ++ ") -> " ++ value.display
  | .exit => "Exit"

/-- A record for the log of a session. -/
inductive Notice where
  | starting (quest screen : String)
  | noStartScreen (quest screen : String)
  | choiceSelected (title : String)
  | screenChanged (label : String)
  | noForkMatched (relay : String)
  | tooManyHops (limit : Nat)
  | finished (quest : String)
  | deed (deed : Deed)
  | skippedCommand (source : String) (error : ActionError)
  | guardFailed (source : String) (error : ExprError)
  | countedUnknownItem (item : String)
  | unknownItem (item : String)
  | unknownRecipe (recipe : String)
  | crafted (recipe : String)

namespace Notice

def severity : Notice → Severity
  | .starting _ _ | .choiceSelected _ | .screenChanged _ | .noForkMatched _ | .finished _
  | .deed _ | .crafted _ => .info
  | .noStartScreen _ _ | .skippedCommand _ _ | .guardFailed _ _ | .countedUnknownItem _
  | .unknownItem _ | .unknownRecipe _ => .warning
  | .tooManyHops _ => .error

def text : Notice → String
  | .starting quest screen => "starting quest '" ++ quest ++ "' at screen '" ++ screen ++ "'"
  | .noStartScreen quest screen =>
    "quest '" ++ quest ++ "' has no start screen '" ++ screen ++ "'"
  | .choiceSelected title => "choice selected: \"" ++ title ++ "\""
  | .screenChanged label => "screen changed to '" ++ label ++ "'"
  | .noForkMatched relay => "relay '" ++ relay ++ "': no fork matched"
  | .tooManyHops limit =>
    "navigation loop: more than " ++ toString limit ++ " nested screen/relay entries"
  | .finished quest => "quest '" ++ quest ++ "' finished"
  | .deed done => "└─ action: " ++ done.text
  | .skippedCommand source error => "skipping command \"" ++ source ++ "\": " ++ error.message
  | .guardFailed source error =>
    "guard \"" ++ source ++ "\" treated as false: " ++ error.message
  | .countedUnknownItem item => "counting unknown item '" ++ item ++ "'"
  | .unknownItem item => "unknown item '" ++ item ++ "'"
  | .unknownRecipe recipe => "unknown recipe '" ++ recipe ++ "'"
  | .crafted recipe => "crafted recipe '" ++ recipe ++ "'"

end Notice

/-- What happens while an operation runs. -/
inductive Occurrence where
  /-- The state changes. -/
  | change
  /-- The host is told of an event. -/
  | event (event : Event)
  /-- A notice is written to the log. -/
  | notice (notice : Notice)

/-- One entry of the trace of a session. -/
structure TraceEntry where
  occurrence : Occurrence
  /-- The state right after it. -/
  state : State

/-- What happened, in order. -/
abbrev Trace := List TraceEntry

namespace Trace

def events (trace : Trace) : List Event :=
  trace.filterMap fun entry =>
    match entry.occurrence with
    | .event event => some event
    | .change | .notice _ => none

def notices (trace : Trace) : List Notice :=
  trace.filterMap fun entry =>
    match entry.occurrence with
    | .notice notice => some notice
    | .change | .event _ => none

/-- The states that an operation goes through, each as often as something happens in it. -/
def states (trace : Trace) : List State := trace.map (·.state)

end Trace

end Narrative
