import Narrative.Console.Basic
import Narrative.Proofs.Session.Lifecycle
import Narrative.Proofs.Text

/-!
# What a console adds to a session

A console adds nothing. Each line that a player types is at most one call of the session, so the
session behind a play is the session behind the calls that the lines stand for, and the play ends
where the host hears of the end of the story.

* **`Console.respond_eq`** — a line is answered by the call that it stands for.
* **`Console.transcript_conversation`** — what a play writes, where it ends and why, which the lines
  determine (`Console.Conversation.unique`).
* **`Console.numbered`** — the number in front of a choice is the number that selects it.
* **`console_is_the_session_api`** — all of it, for a play from its start.
-/

namespace Narrative

/-! ## The calls of a session -/

namespace Session

variable {session : Session} {calls calls' : List HostCall}

/-- The session after these calls, however each of them ends. -/
def after (session : Session) (calls : List HostCall) : Session :=
  { session with state := (HostCall.playAll calls session.world session.state).state }

/-- What a host hears of these calls. -/
def told (session : Session) (calls : List HostCall) : List Event :=
  (HostCall.playAll calls session.world session.state).trace.events

/-- Whether a host hears of the end of the story during these calls. -/
def endsIn (session : Session) (calls : List HostCall) : Bool :=
  (session.told calls).any Event.isFinish

/-- A session to which nothing is said stays as it is. -/
@[simp] theorem after_nil : session.after [] = session := rfl

/-- A session to which nothing is said tells nothing. -/
@[simp] theorem told_nil : session.told [] = [] := rfl

/-- The calls behind the first one go to the session that it leaves. -/
theorem after_cons (call : HostCall) (rest : List HostCall) :
    session.after (call :: rest) =
      Session.after { session with state := (call.play session.world session.state).state }
        rest := by
  rw [after, HostCall.playAll_cons]
  rfl

/-- What the first call tells comes first, then what the others tell from there. -/
theorem told_cons (call : HostCall) (rest : List HostCall) :
    session.told (call :: rest) =
      (call.play session.world session.state).trace.events ++
        Session.told { session with state := (call.play session.world session.state).state }
          rest := by
  rw [told, HostCall.playAll_cons, Trace.events_append]
  rfl

/-- Calls may be made in two rounds. -/
theorem after_append : session.after (calls ++ calls') = (session.after calls).after calls' := by
  induction calls generalizing session with
  | nil => rfl
  | cons call rest ih => rw [List.cons_append, after_cons, ih, after_cons]

/-- The second round tells what it tells to the session that the first one leaves. -/
theorem told_append :
    session.told (calls ++ calls') = session.told calls ++ (session.after calls).told calls' := by
  induction calls generalizing session with
  | nil => rfl
  | cons call rest ih =>
      rw [List.cons_append, told_cons, ih, told_cons, after_cons, List.append_assoc]

/-- A story that ended in the first round has ended. -/
theorem endsIn_append :
    session.endsIn (calls ++ calls') =
      (session.endsIn calls || (session.after calls).endsIn calls') := by
  rw [endsIn, told_append, List.any_append]
  rfl

end Session

namespace Console

variable {session : Session} {console : Console} {lines : List String} {typed : String}

/-! ## Lines and calls -/

/-- The call that a player asks for. Numbers count from one and positions from zero. -/
def Input.call? : Input → Option HostCall
  | .choose (number + 1) => some (.selectChoice number)
  | .craft (number + 1) => some (.useRecipe number)
  | .choose 0 | .craft 0 | .inventory | .recipes | .help | .quit | .unknown => none

/-- The calls that these lines stand for, in their order. -/
def callsFor (lines : List String) : List HostCall :=
  lines.filterMap fun typed => (Input.parse typed).call?

/-- What a player reads who asked for something. -/
def answer (session : Session) : Input → String
  | .choose (number + 1) =>
    match ((HostCall.selectChoice number).play session.world session.state).result with
    | .ok _ => ""
    | .error error => line ("error: " ++ error.message)
  | .craft (number + 1) =>
    match ((HostCall.useRecipe number).play session.world session.state).result with
    | .ok (.answer true) => ""
    | _ => line "You can't craft that right now."
  | .inventory => "\n" ++ line session.inventoryText
  | .recipes => recipeList session
  | .help => help
  | .quit => ""
  | .choose 0 | .craft 0 | .unknown => line "Type a choice number, or 'help'."

/-- What is written up to a line and in answer to it. -/
def exchange (session : Session) (typed : String) : String :=
  view session ++ prompt ++ answer session (Input.parse typed)

/-- The console behind these calls. It is told of the end of the story as any host is. -/
def heard (console : Console) (calls : List HostCall) : Console where
  session := console.session.after calls
  finished := console.finished || console.session.endsIn calls

/-- A console may hear of calls in two rounds. -/
theorem heard_append (calls calls' : List HostCall) :
    console.heard (calls ++ calls') = (console.heard calls).heard calls' := by
  rw [heard, Session.after_append, Session.endsIn_append, ← Bool.or_assoc]
  rfl

/-- The console watches for the same event as any host that waits for the end. -/
theorem perform_eq {ε α : Type} (play : Play ε α) :
    console.perform play =
      let outcome := play console.session.world console.session.state
      (outcome.result,
        { session := { console.session with state := outcome.state }
          finished := console.finished || outcome.trace.events.any Event.isFinish }) := by
  rcases hrun : play console.session.world console.session.state with ⟨result, state, trace⟩
  simp only [perform, Session.run, hrun]
  congr 4
  funext event
  cases event <;> rfl

/-- A call leaves the console as hearing of it does. -/
theorem heard_singleton (call : HostCall) :
    console.heard [call] = (console.perform call.play).2 := by
  rw [heard, Session.endsIn, Session.told_cons, Session.after_cons, perform_eq]
  simp

/-- A typed number counts from one, the choice of the session from zero. -/
theorem choose_eq (number : Nat) :
    console.choose (number + 1) =
      (answer console.session (.choose (number + 1)), console.heard [.selectChoice number]) := by
  rw [heard_singleton, perform_eq, choose, perform_eq, answer]
  simp only [Nat.add_sub_cancel, HostCall.play, HostCall.playBy, Play.reported, Play.selectChoice]
  rcases Play.selectChoiceBy Play.go number console.session.world console.session.state with
    ⟨result, state, trace⟩
  cases result <;> rfl

/-- Crafting never fails, so the console may take it as an operation without errors. -/
theorem craft_eq (number : Nat) :
    console.craft (number + 1) =
      (answer console.session (.craft (number + 1)), console.heard [.useRecipe number]) := by
  rw [heard_singleton, perform_eq, craft, perform_eq, answer]
  simp only [Nat.add_sub_cancel, HostCall.play, HostCall.playBy, Play.reported]
  cases husable : console.session.state.canUseRecipe console.session.world number with
  | false =>
      rw [Play.useRecipe_of_unusable husable, Play.useRecipe_of_unusable husable]
      rfl
  | true =>
      obtain ⟨recipe, hrecipe, hheld⟩ := (Option.any_eq_true ..).mp husable
      rw [Play.useRecipe_of_usable hrecipe hheld, Play.useRecipe_of_usable hrecipe hheld]
      rfl

/-- A console that hears of nothing stays as it is. -/
@[simp] theorem heard_nil : console.heard [] = console := by
  rw [heard, Session.endsIn, Session.told_nil, List.any_nil, Bool.or_false, Session.after_nil]

/-- **A line is answered by the call that it stands for.** A player who leaves is not answered, and
a line that stands for no call leaves the console as it is. -/
theorem respond_eq (console : Console) (typed : String) :
    console.respond typed =
      if Input.parse typed = .quit then none
      else some (answer console.session (Input.parse typed),
        console.heard (Input.parse typed).call?.toList) := by
  rw [respond]
  cases Input.parse typed with
  | choose number =>
      -- zero is the one number that makes no call
      cases number with
      | zero => simp [answer, Input.call?]
      | succ number => simp [choose_eq, Input.call?]
  | craft number =>
      cases number with
      | zero => simp [answer, Input.call?]
      | succ number => simp [craft_eq, Input.call?]
  | inventory | recipes | help | unknown => simp [answer, Input.call?]
  | quit => rfl

/-- Each line adds the call that it asks for, if it asks for one. -/
theorem callsFor_cons (typed : String) (rest : List String) :
    callsFor (typed :: rest) = (Input.parse typed).call?.toList ++ callsFor rest := by
  rw [callsFor, List.filterMap_cons]
  cases (Input.parse typed).call? <;> rfl

/-! ## Plays -/

/-- Once the story is over no line is read. -/
theorem transcript_of_finished (h : console.finished = true) (lines : List String) :
    console.transcript lines = (ending, console) := by
  rw [transcript, if_pos h]

section

variable (h : console.finished = false)
include h

/-- At the end of the input the screen and the prompt are the last that is printed. -/
theorem transcript_nil : console.transcript [] = (view console.session ++ prompt, console) := by
  rw [transcript, if_neg (Bool.eq_false_iff.mp h)]

/-- A line that quits is the last that is read, and nothing answers it. -/
theorem transcript_of_quit (hquit : Input.parse typed = .quit) (rest : List String) :
    console.transcript (typed :: rest) = (view console.session ++ prompt, console) := by
  rw [transcript, if_neg (Bool.eq_false_iff.mp h)]
  simp only [respond_eq, if_pos hquit]

/-- Any other line is answered, and the transcript goes on behind the call that it asks for. -/
theorem transcript_of_ne_quit (hstays : Input.parse typed ≠ .quit) (rest : List String) :
    console.transcript (typed :: rest) =
      let after := (console.heard (Input.parse typed).call?.toList).transcript rest
      (exchange console.session typed ++ after.1, after.2) := by
  rw [transcript, if_neg (Bool.eq_false_iff.mp h)]
  simp only [respond_eq, if_neg hstays]
  rfl

end

/-- The calls that were made and those that the first lines stand for. -/
def callsUpTo (made : List HostCall) (lines : List String) (count : Nat) : List HostCall :=
  made ++ callsFor (lines.take count)

/-- Without a further line nothing is added to the calls that were made. -/
@[simp] theorem callsUpTo_zero (made : List HostCall) (lines : List String) :
    callsUpTo made lines 0 = made := by
  rw [callsUpTo, List.take_zero, callsFor, List.filterMap_nil, List.append_nil]

/-- A further line adds its call at the end. -/
@[simp] theorem callsUpTo_succ (made : List HostCall) (typed : String) (rest : List String)
    (count : Nat) : callsUpTo made (typed :: rest) (count + 1) =
      callsUpTo (made ++ (Input.parse typed).call?.toList) rest count := by
  rw [callsUpTo, callsUpTo, List.take_succ_cons, callsFor_cons, List.append_assoc]

/-- A play in which these lines are typed behind some calls ends when so many lines were heeded. -/
structure EndsAt (session : Session) (made : List HostCall) (lines : List String) (heeded : Nat) :
    Prop where
  le_length : heeded ≤ lines.length
  /-- No line was heeded behind the end of the story. -/
  goes_on : ∀ earlier < heeded, session.endsIn (callsUpTo made lines earlier) = false
  /-- No line was heeded with which the player leaves. -/
  stays : ∀ typed ∈ lines.take heeded, Input.parse typed ≠ .quit
  /-- The play ends with the story, with the lines, or where the player leaves. A call that failed
  is no reason to end. -/
  stops : session.endsIn (callsUpTo made lines heeded) = true ∨ heeded = lines.length ∨
    ∃ typed, lines[heeded]? = some typed ∧ Input.parse typed = .quit

/-- What became of a play in which these lines were typed behind some calls: so many of the lines
were heeded, this was written, and this is the console afterwards. -/
structure Conversation (session : Session) (made : List HostCall) (lines : List String)
    (heeded : Nat) (output : String) (last : Console) : Prop
    extends EndsAt session made lines heeded where
  /-- The session is the one behind the calls, and nothing else has been done to it. -/
  session_eq : last.session = session.after (callsUpTo made lines heeded)
  /-- The end of the story is noticed as soon as the host hears of it. -/
  finished_eq : last.finished = session.endsIn (callsUpTo made lines heeded)
  /-- What is written shows the session in front of each line and once more behind the last one,
  unless the story ended there. -/
  output_eq : output =
    String.join ((lines.take heeded).mapIdx fun index typed =>
      exchange (session.after (callsUpTo made lines index)) typed) ++
    if last.finished then ending else view last.session ++ prompt

/-- The console of a host that has made these calls and heard what came of them. -/
def behind (session : Session) (made : List HostCall) : Console := heard ⟨session, false⟩ made

/-- The console behind some calls hears of further ones. -/
theorem behind_append (session : Session) (made calls : List HostCall) :
    behind session (made ++ calls) = (behind session made).heard calls := heard_append made calls

/-- A console has finished exactly if the calls told so. -/
theorem finished_behind (session : Session) (made : List HostCall) :
    (behind session made).finished = session.endsIn made := Bool.false_or _

section

variable {made : List HostCall} {rest : List String} {heeded heeded' : Nat}
  {output output' : String} {last last' : Console}

namespace EndsAt

/-- A conversation may end before its first line, for one of three reasons. -/
theorem zero (h : session.endsIn made = true ∨ 0 = lines.length ∨
      ∃ typed, lines[0]? = some typed ∧ Input.parse typed = .quit) :
    EndsAt session made lines 0 where
  le_length := Nat.zero_le _
  goes_on earlier hearlier := absurd hearlier (Nat.not_lt_zero earlier)
  stays typed hmem := by
    rw [List.take_zero] at hmem
    nomatch hmem
  stops := by
    rw [callsUpTo_zero]
    exact h

/-- A first line that is neither behind the end nor quits is heeded, and then the rest decides. -/
theorem succ (hgoes : session.endsIn made = false) (hstays : Input.parse typed ≠ .quit)
    (h : EndsAt session (made ++ (Input.parse typed).call?.toList) rest heeded) :
    EndsAt session made (typed :: rest) (heeded + 1) where
  le_length := Nat.succ_le_succ h.le_length
  -- the calls of the lines so far are those of the first line and those of the lines behind it
  goes_on earlier hearlier := by
    cases earlier with
    | zero => rw [callsUpTo_zero, hgoes]
    | succ earlier => rw [callsUpTo_succ, h.goes_on earlier (Nat.lt_of_succ_lt_succ hearlier)]
  stays other hmem := by
    rw [List.take_succ_cons] at hmem
    rcases List.mem_cons.mp hmem with rfl | hmem
    · exact hstays
    · exact h.stays other hmem
  stops := by
    rw [callsUpTo_succ, List.length_cons, List.getElem?_cons_succ, Nat.succ_inj]
    exact h.stops

/-- No line can be heeded behind a place where a play ends. -/
theorem le (h : EndsAt session made lines heeded) (h' : EndsAt session made lines heeded') :
    heeded' ≤ heeded := by
  by_contra hlonger
  have hlt : heeded < heeded' := Nat.lt_of_not_le hlonger
  rcases h.stops with hends | hall | ⟨typed, htyped, hquit⟩
  · rw [h'.goes_on heeded hlt] at hends
    nomatch hends
  · have hlength := h'.le_length
    omega
  · have hmem : typed ∈ lines.take heeded' := by
      rw [← List.getElem?_take_of_lt hlt] at htyped
      exact List.mem_of_getElem? htyped
    exact h'.stays typed hmem hquit

/-- A conversation has one end: of two ends neither is before the other. -/
theorem unique (h : EndsAt session made lines heeded) (h' : EndsAt session made lines heeded') :
    heeded = heeded' := Nat.le_antisymm (h'.le h) (h.le h')

end EndsAt

namespace Conversation

/-- A play that ends before a line is heeded. -/
theorem zero (hends : EndsAt session made lines 0)
    (houtput : output =
      if session.endsIn made then ending else view (session.after made) ++ prompt) :
    Conversation session made lines 0 output (behind session made) where
  toEndsAt := hends
  session_eq := by rw [callsUpTo_zero]; rfl
  finished_eq := by rw [callsUpTo_zero, finished_behind]
  output_eq := by
    rw [List.take_zero, List.mapIdx_nil, String.join_nil, String.empty_append, finished_behind]
    exact houtput

/-- A play in which a first line is heeded. -/
theorem succ (hgoes : session.endsIn made = false) (hstays : Input.parse typed ≠ .quit)
    (h : Conversation session (made ++ (Input.parse typed).call?.toList) rest heeded output last) :
    Conversation session made (typed :: rest) (heeded + 1)
      (exchange (session.after made) typed ++ output) last where
  toEndsAt := .succ hgoes hstays h.toEndsAt
  session_eq := by rw [callsUpTo_succ, h.session_eq]
  finished_eq := by rw [callsUpTo_succ, h.finished_eq]
  output_eq := by
    rw [List.take_succ_cons, List.mapIdx_cons, String.join_cons, String.append_assoc, h.output_eq,
      callsUpTo_zero]
    simp only [callsUpTo_succ]

/-- **There is only one conversation**: the lines determine where it ends, what is written and what
becomes of the session. -/
theorem unique (h : Conversation session made lines heeded output last)
    (h' : Conversation session made lines heeded' output' last') :
    heeded = heeded' ∧ output = output' ∧ last = last' := by
  obtain rfl := h.toEndsAt.unique h'.toEndsAt
  have hlast : last = last' := by
    rcases last with ⟨session, finished⟩
    rcases last' with ⟨session', finished'⟩
    rw [Console.mk.injEq]
    exact ⟨h.session_eq.trans h'.session_eq.symm, h.finished_eq.trans h'.finished_eq.symm⟩
  subst hlast
  exact ⟨rfl, h.output_eq.trans h'.output_eq.symm, rfl⟩

/-- The play says that the story is over if and only if the host heard so. -/
theorem says_ending_iff (h : Conversation session made lines heeded output last) :
    (∃ before, output = before ++ ending) ↔
      session.endsIn (callsUpTo made lines heeded) = true := by
  rw [← h.finished_eq]
  constructor
  · rintro ⟨before, hends⟩
    by_contra hfinished
    -- a prompt ends in a space and the ending in a line break
    rw [h.output_eq, if_neg hfinished, ← String.append_assoc] at hends
    have hlast := congrArg (fun text : String => text.toList.getLast?) hends
    simp [prompt, ending, line] at hlast
  · intro hfinished
    exact ⟨_, by rw [h.output_eq, if_pos hfinished]⟩

end Conversation

end

/-- **A play is a conversation**, whatever was done to the session before. -/
theorem transcript_conversation (session : Session) (made : List HostCall) (lines : List String) :
    ∃ heeded, Conversation session made lines heeded
      ((behind session made).transcript lines).1 ((behind session made).transcript lines).2 := by
  have hfinished := finished_behind session made
  induction lines generalizing made with
  | nil =>
      cases hends : session.endsIn made with
      | true =>
          rw [transcript_of_finished (hfinished.trans hends)]
          exact ⟨0, .zero (.zero (.inl hends)) (by rw [hends, if_pos rfl])⟩
      | false =>
          rw [transcript_nil (hfinished.trans hends)]
          refine ⟨0, .zero (.zero (.inr (.inl rfl))) ?_⟩
          rw [hends, if_neg Bool.false_ne_true]
          rfl
  | cons typed rest ih =>
      -- whether the story has ended is asked before the line is looked at
      cases hends : session.endsIn made with
      | true =>
          rw [transcript_of_finished (hfinished.trans hends)]
          exact ⟨0, .zero (.zero (.inl hends)) (by rw [hends, if_pos rfl])⟩
      | false =>
          by_cases hquit : Input.parse typed = .quit
          · rw [transcript_of_quit (hfinished.trans hends) hquit]
            refine ⟨0, .zero (.zero (.inr (.inr ⟨typed, rfl, hquit⟩))) ?_⟩
            rw [hends, if_neg Bool.false_ne_true]
            rfl
          · -- the rest is a conversation behind one call more
            obtain ⟨heeded, h⟩ := ih (made ++ (Input.parse typed).call?.toList)
              (finished_behind session _)
            rw [behind_append] at h
            rw [transcript_of_ne_quit (hfinished.trans hends) hquit]
            exact ⟨heeded + 1, .succ hends hquit h⟩

/-- A console that starts a session is the one of a host that does, where that goes well. -/
theorem start_eq (session : Session) :
    Console.start session = (Play.start session.world session.state).result.map fun _ =>
      behind session [.start] := by
  rw [Console.start, behind, heard_singleton, perform_eq, perform_eq]
  rfl

/-! ## Numbers -/

/-- The line of a choice behind its number. -/
def choiceLine (number : Nat) (choice : Choice) : String :=
  line ("  " ++ toString number ++ ". " ++ choice.title)

/-- Selecting at a position comes to this choice: the message is cleared, the action of the choice
is executed, and the host is told of the choice if that went well. -/
structure Selects (session : Session) (position : Nat) (choice : Choice) : Prop where
  after_eq : session.after [.selectChoice position] =
    session.after [.clearMessage, .execute choice.action]
  told_eq : session.told [.selectChoice position] =
    session.told [.clearMessage, .execute choice.action] ++
      if ((HostCall.selectChoice position).play session.world session.state).result.isOk then
        [.choiceSelected choice]
      else []

/-- Where the open choices can be told, there is a screen that they are of, or there are none. -/
theorem currentScreen?_of_availableChoices {choices : List Choice}
    (h : session.availableChoices = .ok choices) :
    (session.state.currentScreen? session.world = none ∧ choices = []) ∨
      ∃ screen, session.state.currentScreen? session.world = some screen ∧
        Choice.available (session.state.context session.world) screen.choices = .ok choices := by
  rw [Session.availableChoices, State.availableChoices] at h
  cases hscreen : session.state.currentScreen? session.world with
  | none =>
      rw [hscreen] at h
      cases h
      exact .inl ⟨rfl, rfl⟩
  | some screen =>
      rw [hscreen] at h
      exact .inr ⟨screen, rfl, h⟩

/-- Clearing the message and executing a script is executing it without the message. -/
theorem after_clearMessage_execute (session : Session) (script : Script) :
    session.after [.clearMessage, .execute script] =
      { session with
        state := (Script.run Play.go script session.world
          { session.state with message := "" }).state } := by
  rw [Session.after_cons, Session.after_cons]
  rfl

/-- Clearing the message is told first, then what the script tells. -/
theorem told_clearMessage_execute (session : Session) (script : Script) :
    session.told [.clearMessage, .execute script] =
      .messageChanged "" :: (Script.run Play.go script session.world
        { session.state with message := "" }).trace.events := by
  rw [Session.told_cons, Session.told_cons, Session.told_nil, List.append_nil]
  rfl

/-- The position of an open choice selects it. -/
theorem selects_of_getElem? {choices : List Choice} {choice : Choice} {position : Nat}
    (hchoices : session.availableChoices = .ok choices)
    (hchoice : choices[position]? = some choice) : Selects session position choice := by
  rcases currentScreen?_of_availableChoices hchoices with ⟨-, rfl⟩ | ⟨screen, hscreen, havailable⟩
  · nomatch hchoice
  have hplay : Play.selectChoiceBy Play.go position session.world session.state = _ :=
    Play.selectChoiceBy_of_choice hscreen havailable hchoice
  rw [Play.mapError_bind_emit] at hplay
  -- remarks on malformed guards are in the trace too, but no event is
  have hsilent : (Play.remarkTrace session.world session.state (Choice.remarks
      (session.state.context session.world) screen.choices)).events = [] :=
    Trace.events_noted _ _
  constructor
  · rw [after_clearMessage_execute, Session.after_cons, HostCall.play, HostCall.playBy,
      Play.reported, hplay]
    rfl
  · rw [told_clearMessage_execute, Session.told_cons, Session.told_nil, List.append_nil,
      HostCall.play, HostCall.playBy, Play.reported, hplay, Outcome.after_mk, Trace.events_append,
      Trace.events_append, Trace.events_append, hsilent]
    cases (Script.run Play.go choice.action session.world
      { session.state with message := "" }).result <;> rfl

/-- A position behind the open choices selects nothing. -/
theorem selectChoice_of_beyond {choices : List Choice} {position : Nat}
    (hchoices : session.availableChoices = .ok choices) (hbeyond : choices[position]? = none) :
    session.after [.selectChoice position] = session ∧
      session.told [.selectChoice position] = [] := by
  rw [Session.after_cons, Session.told_cons, Session.told_nil, Session.after_nil, List.append_nil,
    HostCall.play, HostCall.playBy, Play.reported]
  rcases currentScreen?_of_availableChoices hchoices with
    ⟨hscreen, -⟩ | ⟨screen, hscreen, havailable⟩
  · rw [Play.selectChoiceBy_of_nowhere hscreen]
    exact ⟨rfl, rfl⟩
  · rw [Play.selectChoiceBy_of_beyond hscreen havailable hbeyond]
    exact ⟨rfl, Trace.events_noted _ _⟩

/-- The open choices stand behind the numbers that select them, at the end of what is shown. -/
structure Numbered (session : Session) (choices : List Choice) : Prop where
  shown : ∃ before, view session =
    before ++ String.join (choices.mapIdx fun index choice => choiceLine (index + 1) choice)
  selects : ∀ typed number choice, Input.parse typed = .choose (number + 1) →
    choices[number]? = some choice →
      callsFor [typed] = [.selectChoice number] ∧ Selects session number choice
  beyond : ∀ typed number, Input.parse typed = .choose (number + 1) →
    choices[number]? = none →
      session.after (callsFor [typed]) = session ∧ session.told (callsFor [typed]) = []

/-- A number other than zero asks for one call. -/
theorem callsFor_of_choose {number : Nat} (h : Input.parse typed = .choose (number + 1)) :
    callsFor [typed] = [.selectChoice number] := by
  rw [callsFor_cons, h]
  rfl

/-- **The number in front of a choice is the number that selects it**, in every session whose open
choices can be told. -/
theorem numbered {choices : List Choice} (hchoices : session.availableChoices = .ok choices) :
    Numbered session choices where
  shown := by
    rw [view, choiceList, hchoices]
    -- without a screen there are no choices, and the view ends with an empty list of them
    rcases currentScreen?_of_availableChoices hchoices with ⟨hscreen, rfl⟩ | ⟨screen, hscreen, -⟩
    · exact ⟨"", by rw [Session.currentScreen?, hscreen]; rfl⟩
    · rw [Session.currentScreen?, hscreen]
      dsimp only
      rw [← String.append_assoc]
      exact ⟨_, rfl⟩
  selects typed number choice hparse hchoice :=
    ⟨callsFor_of_choose hparse, selects_of_getElem? hchoices hchoice⟩
  beyond typed number hparse hbeyond := by
    rw [callsFor_of_choose hparse]
    exact selectChoice_of_beyond hchoices hbeyond

/-- A number is read from a line as it is printed. -/
theorem Input.number?_toString {number : Nat} (h : number < UInt64.size) :
    Input.number? (toString number) = some number := by
  rw [Input.number?, Nat.toString_eq_ofList_toDigits, String.toList_ofList,
    Text.readBelow?_toDigits h]

/-- A number is a single word. -/
theorem words_toString (number : Nat) :
    Text.words (toString number).toList = [(toString number).toList] := by
  rw [Nat.toString_eq_ofList_toDigits, String.toList_ofList]
  exact Text.words_of_solid Nat.toDigits_ne_nil fun c hc =>
    Text.isBlank_of_isDigit (Text.isDigit_of_mem_toDigits number c hc)

/-- A line with nothing but a number asks for the choice with that number. -/
theorem Input.parse_toString {number : Nat} (h : number < UInt64.size) :
    Input.parse (toString number) = .choose number := by
  -- no other command has a word of digits
  have hname (names : List String)
      (hnames : ∀ word ∈ names, word.toList.all (·.isDigit) = false) :
      toString number ∉ names := by
    intro hmem
    have hall := hnames _ hmem
    rw [Nat.toString_eq_ofList_toDigits, String.toList_ofList,
      List.all_eq_true.mpr (Text.isDigit_of_mem_toDigits number)] at hall
    nomatch hall
  rw [Input.parse, words_toString, List.map_cons, List.map_nil, String.ofList_toList,
    Input.ofWords, if_neg (hname _ (by decide)), if_neg (hname _ (by decide)),
    if_neg (hname _ (by decide)), if_neg (hname _ (by decide)), Input.number?_toString h]
  rfl

end Console

/-- **A console is the calls of its session and nothing more.** A play fails as the start does, and
then no line is read. A play that starts is a conversation behind the start: a line makes the call
that it stands for, also behind calls that failed, and the play says that the story is over if and
only if the host heard so. Whatever session is shown, the number in front of a choice selects it,
and a number asks for a choice as it is printed. -/
theorem console_is_the_session_api (session : Session) (lines : List String) :
    (∀ error, (Play.start session.world session.state).result = .error error →
      Console.play session lines = .error error) ∧
    ((Play.start session.world session.state).result = .ok () →
      ∃ heeded output last, Console.play session lines = .ok (output, last) ∧
        Console.Conversation session [.start] lines heeded output last ∧
        ((∃ before, output = before ++ Console.ending) ↔
          session.endsIn (Console.callsUpTo [.start] lines heeded) = true)) ∧
    (∀ (shown : Session) (choices : List Choice), shown.availableChoices = .ok choices →
      Console.Numbered shown choices) ∧
    ∀ number < UInt64.size, Console.Input.parse (toString number) = .choose number := by
  refine ⟨fun error herror => ?_, fun hok => ?_, fun _ _ hchoices => Console.numbered hchoices,
    fun _ hsize => Console.Input.parse_toString hsize⟩
  · rw [Console.play, Console.start_eq, herror]
    rfl
  · -- the transcript is a conversation behind the call that starts the session
    obtain ⟨heeded, h⟩ := Console.transcript_conversation session [.start] lines
    exact ⟨heeded, _, _, by rw [Console.play, Console.start_eq, hok]; rfl, h, h.says_ending_iff⟩

/-- A story with a choice whose action fails, and behind it one that ends the story. -/
def Quest.tollgate : Quest where
  name := "tollgate"
  start := "road"
  screens :=
    [{ name := some "road"
       choices :=
        [{ title := "Haggle", action := ["set toll = -true"] },
         { title := "Pay", action := ["exit"] }] }]

/-- The first line fails for want of a toll, the second is no command, and the third ends the story,
so that the fourth is not read. -/
theorem tollgate_console :
    (Play.start (Session.new Quest.tollgate.graph).world
        (Session.new Quest.tollgate.graph).state).result = .ok () ∧
      ((HostCall.selectChoice 0).play (Session.new Quest.tollgate.graph).world
        ((Session.new Quest.tollgate.graph).after [.start]).state).result.isOk = false ∧
      ∃ output last, Console.play (Session.new Quest.tollgate.graph) ["1", "look", "2", "1"] =
          .ok (output, last) ∧
        Console.Conversation (Session.new Quest.tollgate.graph) [.start] ["1", "look", "2", "1"] 3
          output last ∧
        ∃ before, output = before ++ Console.ending := by
  have hstart : (Play.start (Session.new Quest.tollgate.graph).world
      (Session.new Quest.tollgate.graph).state).result = .ok () := by cbv
  have hthree : Console.EndsAt (Session.new Quest.tollgate.graph) [.start]
      ["1", "look", "2", "1"] 3 := {
    le_length := by decide
    goes_on := fun earlier hearlier => by
      interval_cases earlier <;> cbv
    stays := by decide +kernel
    stops := .inl (by cbv) }
  obtain ⟨-, hplay, -, -⟩ := console_is_the_session_api (Session.new Quest.tollgate.graph)
    ["1", "look", "2", "1"]
  obtain ⟨heeded, output, last, hok, h, hends⟩ := hplay hstart
  -- the conversation heeds as many lines as `hthree` says, since there is only one such number
  obtain rfl := h.toEndsAt.unique hthree
  exact ⟨hstart, by cbv, output, last, hok, h, hends.mpr (by cbv)⟩

end Narrative
