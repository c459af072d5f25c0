import Narrative.Proofs.Session.Host
import Narrative.Proofs.Session.Steps

/-!
# All that a host can do

A `HostCall` is one call of a host, with all that it brings along from outside, and a host has
nothing but such calls. So what every call preserves holds in every reachable state.

* **`HostCall.course`** — whatever a call does is a course: steps and trails, one behind the
  other, also if it fails.
* **`HostCall.depth_play`** — every call comes back to the depth at which it was made.
* **`State.Reachable.invariant`** — the invariant principle for sessions.
-/

namespace Narrative

/-- What a host is answered. -/
inductive Reply where
  | done
  | answer (yes : Bool)
  | amount (held : Amount)
  | text (text : String)
deriving DecidableEq, Repr

/-- What a host can ask of a session. -/
inductive HostCall where
  | start
  | selectChoice (index : Nat)
  | useRecipe (index : Nat)
  | addItem (item : String) (amount : Amount)
  | consumeItem (item : String) (amount : Amount)
  | removeItem (item : String)
  | countItem (item : String)
  | unlockRecipe (recipe : String)
  | lockRecipe (recipe : String)
  | setVariable (name : String) (value : Value)
  | setMessage (text : String)
  | clearMessage
  | finish
  | prepareText (text : String)
  | dispatch (command : Command)
  | execute (script : Script)

/-- An operation with its result put into the terms of a host. -/
def Play.reported {ε α : Type} (reply : α → Reply) (error : ε → SessionError) (play : Play ε α) :
    Play SessionError Reply := fun w s =>
  ⟨((play w s).result.mapError error).map reply, (play w s).state, (play w s).trace⟩

namespace HostCall

/-- What a call does where the way to a place is `go`. -/
def playBy (go : Destination → Play ActionError Unit) : HostCall → Play SessionError Reply
  | start => (Play.startBy go).reported (fun _ => .done) id
  | selectChoice index => (Play.selectChoiceBy go index).reported (fun _ => .done) id
  | useRecipe index => (Play.useRecipe index).reported .answer id
  | addItem item amount => (Play.addItem item amount).reported .answer id
  | consumeItem item amount => (Play.consumeItem item amount).reported .answer id
  | removeItem item => (Play.removeItem item).reported .answer id
  | countItem item => (Play.countItem item).reported .amount id
  | unlockRecipe recipe => (Play.unlockRecipe recipe).reported .answer id
  | lockRecipe recipe => (Play.lockRecipe recipe).reported .answer id
  | setVariable name value => (Play.setVariable name value).reported (fun _ => .done) id
  | setMessage text => (Play.setMessage text).reported (fun _ => .done) id
  | clearMessage => Play.clearMessage.reported (fun _ => .done) id
  | finish => Play.finish.reported (fun _ => .done) id
  | prepareText text => (Play.prepareText text).reported .text .expr
  | dispatch command => (Play.perform go command).reported (fun _ => .done) .action
  | execute script => (Script.run go script).reported (fun _ => .done) .action

def play (call : HostCall) : Play SessionError Reply := call.playBy Play.go

/-- Whether a call brings no commands along. -/
def IsCommandFree : HostCall → Prop
  | dispatch _ | execute _ => False
  | _ => True

/-- Whether the licence admits what a call brings along. -/
def AdmittedBy (L : Licence) : HostCall → Prop
  | setVariable name _ => L.target name
  | dispatch command => L.command command
  | execute script => ∀ source ∈ script, L.source source
  | _ => True

/-- Without a restriction every call is admitted. -/
theorem admittedBy_all (call : HostCall) : call.AdmittedBy .all := by
  cases call <;> first | exact trivial | exact fun _ _ => trivial

end HostCall

variable {w : World} {L : Licence} {s s' s'' : State} {trace trace' : Trace}

/-! ## Courses -/

/-- Steps and trails, one behind the other. -/
inductive Course (w : World) (L : Licence) : State → Trace → State → Prop
  | nil (s : State) : Course w L s [] s
  | step {s s' s'' : State} {trace trace' : Trace} (head : Step w L s trace s')
      (rest : Course w L s' trace' s'') : Course w L s (trace ++ trace') s''
  | trail {s s' : State} {trace : Trace} {outcome : Outcome ActionError Unit}
      (head : Trail w L s outcome) (rest : Course w L outcome.state trace s') :
      Course w L s (outcome.trace ++ trace) s'

namespace Course

/-- A course goes on where another one ended. -/
theorem append (first : Course w L s trace s') (rest : Course w L s' trace' s'') :
    Course w L s (trace ++ trace') s'' := by
  induction first with
  | nil s => exact rest
  | step head _ ih => rw [List.append_assoc]; exact .step head (ih rest)
  | trail head _ ih => rw [List.append_assoc]; exact .trail head (ih rest)

/-- A step is a course. -/
theorem single (h : Step w L s trace s') : Course w L s trace s' := by
  rw [← List.append_nil trace]
  exact .step h (.nil s')

/-- A notice that is not about a skipped command. -/
theorem note {notice : Notice} (h : notice.isSkip = false) :
    Course w L s [⟨.notice notice, s⟩] s :=
  single (.notes [notice] fun _ hmem => List.mem_singleton.mp hmem ▸ h)

/-- A course comes back to the depth at which it began: steps leave it alone and trails unwind. -/
theorem depth_eq (h : Course w L s trace s') : s'.depth = s.depth := by
  induction h with
  | nil s => rfl
  | step head _ ih => exact ih.trans head.depth_eq
  | trail head _ ih => exact ih.trans head.depth_eq

/-- Forgetting its commands, a course is a sequence of steps. -/
theorem steps (h : Course w L s trace s') : Steps w L s trace s' := by
  induction h with
  | nil s => exact .nil s
  | step head _ ih => exact .step head ih
  | trail head _ ih => exact head.steps.append ih

end Course

/-- A trail is a course. -/
theorem Trail.course {outcome : Outcome ActionError Unit} (h : Trail w L s outcome) :
    Course w L s outcome.trace outcome.state := by
  rw [← List.append_nil outcome.trace]
  exact .trail h (.nil outcome.state)

/-! ## What calls do is a course -/

/-- What an operation does from a state is a course. -/
def Play.Coursed {ε α : Type} (w : World) (L : Licence) (s : State) (play : Play ε α) : Prop :=
  Course w L s (play w s).trace (play w s).state

namespace Play

/-- Starting a session takes a course. -/
theorem start_coursed (hL : L.Covers w) : Coursed w L s start := by
  unfold Coursed start
  cases hindex : w.graph.screenIndex? w.graph.start with
  | none =>
      rw [startBy_of_missing hindex]
      exact .note rfl
  | some index =>
      have htrail := (go_trail hL (hL.start hindex) { s with phase := .active }).course
      have hfront : Course w L s [⟨.notice (.starting w.graph.name w.graph.start), s⟩,
          ⟨.change, { s with phase := .active }⟩] { s with phase := .active } :=
        (Course.note rfl).append (.single .activate)
      rcases hrun : Play.go (.screen index) w { s with phase := .active } with ⟨result, s', trace⟩
      rw [hrun] at htrail
      -- what follows an entry is a message or, if it failed, a change of the phase
      cases result with
      | ok value =>
          rw [startBy_of_ok hindex hrun]
          exact (hfront.append htrail).append (.single (.say ""))
      | error error =>
          rw [startBy_of_error hindex hrun]
          exact (hfront.append htrail).append (.single .settle)

/-- Executing a script takes a course. -/
theorem execute_coursed (hL : L.Covers w) {script : Script}
    (hscript : ∀ source ∈ script, L.source source) : Coursed w L s (execute script) :=
  (run_tracked hL (go_tracked hL s.depth) hscript s rfl).course

/-- The actions of the current screen are admitted. -/
theorem currentScreen_admitted (hL : L.Covers w) {screen : Screen}
    (h : s.currentScreen? w = some screen) {choice : Choice} (hchoice : choice ∈ screen.choices) :
    ∀ source ∈ choice.action, L.source source := by
  obtain ⟨index, -, hscreen⟩ := Option.bind_eq_some_iff.mp h
  exact (hL.screens hscreen).2.2 choice hchoice

/-- The open choices are among the choices of the screen. -/
theorem mem_of_available {ctx : Context} {choices : List Choice} :
    ∀ {others : List Choice}, Choice.available ctx choices = .ok others →
      ∀ choice ∈ others, choice ∈ choices := by
  induction choices with
  | nil =>
      intro others h choice hmem
      cases h
      nomatch hmem
  | cons head rest ih =>
      intro others h choice hmem
      rw [Choice.available] at h
      cases hguard : head.condition.evaluate ctx with
      | error error => rw [hguard] at h; nomatch h
      | ok holds =>
          cases hrest : Choice.available ctx rest with
          | error error => rw [hguard, hrest] at h; nomatch h
          | ok found =>
              -- a choice is found in front or among the rest, in either case in the list
              rw [hguard, hrest] at h
              cases holds with
              | false =>
                  cases h
                  exact List.mem_cons_of_mem _ (ih hrest choice hmem)
              | true =>
                  cases h
                  rcases List.mem_cons.mp hmem with rfl | hmem
                  · exact List.mem_cons_self
                  · exact List.mem_cons_of_mem _ (ih hrest choice hmem)

/-- Selecting a choice takes a course. -/
theorem selectChoice_coursed (hL : L.Covers w) (index : Nat) :
    Coursed w L s (selectChoice index) := by
  unfold Coursed selectChoice
  have hremarks (screen : Screen) := Course.single (L := L)
    (step_remarks (s := s) (w := w) (Choice.remarks (s.context w) screen.choices))
  cases selection w s index with
  | nowhere hscreen =>
      rw [selectChoiceBy_of_nowhere hscreen]
      exact .nil s
  | malformed hscreen havailable =>
      rw [selectChoiceBy_of_malformed hscreen havailable]
      exact hremarks _
  | beyond hscreen havailable hindex =>
      rw [selectChoiceBy_of_beyond hscreen havailable hindex]
      exact hremarks _
  | @choice screen choices choice hscreen havailable hindex =>
      rw [selectChoiceBy_of_choice hscreen havailable hindex]
      have hmem := mem_of_available havailable choice (List.mem_of_getElem? hindex)
      have haction := execute_coursed (s := { s with message := "" }) hL
        (currentScreen_admitted hL hscreen hmem)
      have hfront : Course w L s [⟨.notice (.choiceSelected choice.title), s⟩,
          ⟨.change, { s with message := "" }⟩,
          ⟨.event (.messageChanged ""), { s with message := "" }⟩]
          { s with message := "" } :=
        (Course.note rfl).append (.single (.say ""))
      refine ((hremarks screen).append hfront).append ?_
      -- behind an action that failed the host is not told of the choice
      unfold Coursed execute at haction
      rcases hrun : Script.run Play.go choice.action w { s with message := "" } with
        ⟨result, s', trace⟩
      rw [hrun] at haction
      cases result with
      | ok value =>
          rw [mapError_bind_of_ok hrun]
          exact haction.append (.single (.choose choice))
      | error error =>
          rw [mapError_bind_of_error hrun]
          exact haction

/-- Setting the message takes a course. -/
theorem setMessage_coursed (text : String) :
    Coursed w L s (setMessage text : Play SessionError Unit) :=
  .single (.say text)

/-- Using a recipe takes a course. -/
theorem useRecipe_coursed (index : Nat) :
    Coursed w L s (useRecipe index : Play SessionError Bool) := by
  unfold Coursed
  cases husable : s.canUseRecipe w index with
  | false =>
      rw [useRecipe_of_unusable husable]
      exact .nil s
  | true =>
      obtain ⟨recipe, hrecipe, hheld⟩ := (Option.any_eq_true ..).mp husable
      rw [useRecipe_of_usable hrecipe hheld]
      exact (Course.single (.craft hrecipe hheld)).append
        ((Course.note rfl).append (.single (.say (w.craftedMessage recipe))))

/-- An operation on an item is a course if it is one where the item is known. -/
theorem knowsItem_coursed {item : String} {next : Bool → Play SessionError Bool}
    (hunknown : next false = pure false)
    (h : w.graph.hasItem item = true → Coursed w L s (knowsItem item >>= next)) :
    Coursed w L s (knowsItem item >>= next) := by
  cases hknown : w.graph.hasItem item with
  | false =>
      unfold Coursed
      rw [knowsItem_bind_of_unknown hunknown hknown]
      exact .note rfl
  | true => exact h hknown

/-- Adding an item takes a course. -/
theorem addItem_coursed (item : String) (amount : Amount) :
    Coursed w L s (addItem item amount : Play SessionError Bool) := by
  refine knowsItem_coursed rfl fun hknown => ?_
  change Coursed w L s (addItem item amount)
  unfold Coursed
  rw [addItem_of_known hknown]
  exact .single (.give hknown)

/-- Consuming an item takes a course. -/
theorem consumeItem_coursed (item : String) (amount : Amount) :
    Coursed w L s (consumeItem item amount : Play SessionError Bool) := by
  refine knowsItem_coursed rfl fun hknown => ?_
  change Coursed w L s (consumeItem item amount)
  unfold Coursed
  rw [consumeItem_of_known hknown]
  cases hheld : s.inventory.consume? item amount with
  | none => exact .nil s
  | some inventory => exact .single (.consume hknown hheld)

/-- Removing an item takes a course. -/
theorem removeItem_coursed (item : String) :
    Coursed w L s (removeItem item : Play SessionError Bool) := by
  refine knowsItem_coursed rfl fun hknown => ?_
  change Coursed w L s (removeItem item)
  unfold Coursed
  rw [removeItem_of_known hknown]
  cases hheld : s.inventory.remove? item with
  | none => exact .nil s
  | some found => exact .single (.drop hknown hheld)

/-- Unlocking a recipe takes a course. -/
theorem unlockRecipe_coursed (recipe : String) :
    Coursed w L s (unlockRecipe recipe : Play SessionError Bool) := by
  unfold Coursed
  cases hknown : w.graph.recipes.contains recipe with
  | false =>
      rw [unlockRecipe_run, if_neg (ne_true_of_eq_false hknown)]
      exact .note rfl
  | true =>
      rw [unlockRecipe_run, if_pos hknown]
      exact .single (.unlock hknown)

/-- Locking a recipe takes a course. -/
theorem lockRecipe_coursed (recipe : String) :
    Coursed w L s (lockRecipe recipe : Play SessionError Bool) := by
  unfold Coursed
  rw [lockRecipe_run]
  split
  · exact .single (.lock recipe)
  · exact .nil s

/-- Resolving the tags of a text changes nothing. -/
theorem prepareText_coursed (text : String) : Coursed w L s (prepareText text) := by
  unfold Coursed
  rw [prepareText, world_bind, state_bind, noteRemarks_bind, ofExcept_run]
  exact (Course.single (step_remarks _)).append (.nil s)

end Play

namespace HostCall

/-- **Whatever a call does is a course.** -/
theorem course (hL : L.Covers w) {call : HostCall} (hcall : call.AdmittedBy L) (s : State) :
    Course w L s (call.play w s).trace (call.play w s).state := by
  cases call with
  | start => exact Play.start_coursed hL
  | selectChoice index => exact Play.selectChoice_coursed hL index
  | useRecipe index => exact Play.useRecipe_coursed index
  | addItem item amount => exact Play.addItem_coursed item amount
  | consumeItem item amount => exact Play.consumeItem_coursed item amount
  | removeItem item => exact Play.removeItem_coursed item
  | countItem item => exact (Course.single (Play.step_remarks _)).append (.nil s)
  | unlockRecipe recipe => exact Play.unlockRecipe_coursed recipe
  | lockRecipe recipe => exact Play.lockRecipe_coursed recipe
  | setVariable name value => exact .single (.assign value hcall)
  | setMessage text => exact Play.setMessage_coursed text
  | clearMessage => exact Play.setMessage_coursed ""
  | finish => exact .single .finish
  | prepareText text => exact Play.prepareText_coursed text
  | dispatch command =>
      -- a command is performed at the depth of the state, wherever that is
      exact (Play.perform_tracked hL (Play.go_tracked hL s.depth) hcall s rfl).course
  | execute script => exact Play.execute_coursed hL hcall

/-- **Every call comes back to the depth at which it was made**, however it ends. -/
theorem depth_play (call : HostCall) (w : World) (s : State) :
    (call.play w s).state.depth = s.depth :=
  (call.course (Licence.all_covers w) call.admittedBy_all s).depth_eq

end HostCall

/-! ## Sessions -/

/-- The states that a host can bring a fresh session to by calls of the allowed kinds. -/
inductive State.Reachable (w : World) (allowed : HostCall → Prop) : State → Prop
  | initial : Reachable w allowed (.initial w)
  | call {s : State} (h : Reachable w allowed s) {call : HostCall} (hallowed : allowed call) :
      Reachable w allowed (call.play w s).state

/-- **The invariant principle for sessions.** What holds of a fresh session and is preserved by
every step and by going up and down holds in every reachable state. -/
theorem State.Reachable.invariant {I : State → Prop} {allowed : HostCall → Prop}
    (hL : L.Covers w) (hallowed : ∀ call, allowed call → call.AdmittedBy L)
    (hinitial : I (.initial w)) (hstep : ∀ {s trace s'}, Step w L s trace s' → I s → I s')
    (hdown : ∀ {s : State}, s.depth < w.settings.maxHops → I s → I s.down)
    (hup : ∀ {s : State}, I s → I s.up) (h : Reachable w allowed s) : I s := by
  induction h with
  | initial => exact hinitial
  | @call s _ call hcall ih =>
      exact ((HostCall.course hL (hallowed call hcall) s).steps.invariant hstep hdown hup ih).1

namespace HostCall

/-- One call after the other, with all replies. A call that fails is replied to as well, so the
sequence itself cannot fail. -/
def playAll : List HostCall → Play Empty (List (Except SessionError Reply))
  | [] => pure []
  | call :: rest => do
    let reply ← Play.attempt call.play
    let replies ← playAll rest
    return reply :: replies

/-- The calls behind the first one are played from the state that it leaves. -/
theorem playAll_cons (call : HostCall) (rest : List HostCall) (w : World) (s : State) :
    playAll (call :: rest) w s =
      ⟨(playAll rest w (call.play w s).state).result.map ((call.play w s).result :: ·),
        (playAll rest w (call.play w s).state).state,
        (call.play w s).trace ++ (playAll rest w (call.play w s).state).trace⟩ := by
  rw [playAll, Play.attempt_bind]
  rcases hrun : playAll rest w (call.play w s).state with ⟨result, s', trace⟩
  cases result with
  | error error => exact error.elim
  | ok replies =>
      rw [Play.bind_of_ok hrun, Outcome.after_after, Play.pure_run, Outcome.after_mk,
        List.append_nil]
      rfl

/-- A sequence of calls is a course. -/
theorem playAll_course (calls : List HostCall) (w : World) :
    ∀ s, Course w .all s (playAll calls w s).trace (playAll calls w s).state := by
  induction calls with
  | nil => exact fun s => .nil s
  | cons call rest ih =>
      intro s
      rw [playAll_cons]
      exact (call.course (Licence.all_covers w) call.admittedBy_all s).append (ih _)

end HostCall

end Narrative
