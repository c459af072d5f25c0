import Mathlib
import Narrative.Build
import Narrative.Proofs.Session.Arrival
import Narrative.Proofs.Session.Following
import Narrative.Proofs.Session.Habit

/-!
# The phases of a session

A session has not started, is active, or is finished. Starting makes it active, the end of the
story finishes it, at any depth of any script, and a start that fails before any screen was entered
sets it back.

* **`PhaseTold`** — the phase changes as the host is told, to finished and in no other way. It is a
  habit of scripts (`PhaseTold.habit`), and all calls but a start keep it (`HostCall.phaseTold`).
* **`State.Placed`** — the current screen is one of the graph, and once there is one there always
  is.
* **`lifecycle_of_sessions`** — the state machine.
-/

namespace Narrative

variable {w : World} {L : Licence} {s s' s'' : State} {trace trace' : Trace}

/-! ## The phase -/

/-- Whether an event is the end of the story. -/
def Event.isFinish : Event → Bool
  | .questFinished _ => true
  | .screenChanged _ | .choiceSelected _ | .messageChanged _ => false

/-- The story is finished if the host was told of its end, and else the phase is what it was. -/
def PhaseTold (s : State) (trace : Trace) (s' : State) : Prop :=
  s'.phase = if trace.events.any Event.isFinish then .finished else s.phase

namespace PhaseTold

/-- The phase is told over two traces one after the other. -/
theorem append (first : PhaseTold s trace s') (rest : PhaseTold s' trace' s'') :
    PhaseTold s (trace ++ trace') s'' := by
  unfold PhaseTold at first rest ⊢
  rw [rest, first, Trace.events_append, List.any_append]
  cases trace.events.any Event.isFinish <;> cases trace'.events.any Event.isFinish <;> rfl

theorem of_events_eq_nil (hevents : trace.events = []) (hphase : s'.phase = s.phase) :
    PhaseTold s trace s' := by
  rw [PhaseTold, hevents]
  exact hphase

/-- **Telling the phase is a habit of scripts.** Only the exit changes it, and it tells. -/
theorem habit (w : World) : Habit w PhaseTold where
  nil _ := rfl
  append := append
  note _ _ := rfl
  acts h := by cases h <;> rfl
  seeScreen _ _ := rfl
  seeRelay _ _ := rfl
  arrive _ _ _ _ := rfl
  down _ := rfl
  up _ := rfl

/-- A finished phase stays finished. -/
theorem of_finished (h : PhaseTold s trace s') (hs : s.phase = .finished) :
    s'.phase = .finished := by
  rw [h, hs]
  split <;> rfl

/-- A phase that is not finished in the end is the one from the beginning. -/
theorem of_ne_finished (h : PhaseTold s trace s') (hs' : s'.phase ≠ .finished) :
    s'.phase = s.phase := by
  unfold PhaseTold at h
  split at h
  · exact absurd h hs'
  · exact h

end PhaseTold

/-! ## Calls -/

/-- An operation that tells the phase and stays at the current screen. -/
def Play.Stays {ε α : Type} (w : World) (s : State) (play : Play ε α) : Prop :=
  (play w s).state.current = s.current ∧ PhaseTold s (play w s).trace (play w s).state

namespace Play

variable {ε : Type}

/-- An operation on an item stays if it does where the item is known. -/
theorem knowsItem_stays {item : String} {next : Bool → Play ε Bool}
    (hunknown : next false = pure false)
    (h : w.graph.hasItem item = true → Stays w s (knowsItem item >>= next)) :
    Stays w s (knowsItem item >>= next) := by
  cases hknown : w.graph.hasItem item with
  | false =>
      unfold Stays
      rw [knowsItem_bind_of_unknown hunknown hknown]
      exact ⟨rfl, rfl⟩
  | true => exact h hknown

theorem addItem_stays (item : String) (amount : Amount) :
    Stays w s (addItem item amount : Play ε Bool) := by
  refine knowsItem_stays rfl fun hknown => ?_
  change Stays w s (addItem item amount)
  unfold Stays
  rw [addItem_of_known hknown]
  exact ⟨rfl, rfl⟩

theorem consumeItem_stays (item : String) (amount : Amount) :
    Stays w s (consumeItem item amount : Play ε Bool) := by
  refine knowsItem_stays rfl fun hknown => ?_
  change Stays w s (consumeItem item amount)
  unfold Stays
  rw [consumeItem_of_known hknown]
  cases s.inventory.consume? item amount <;> exact ⟨rfl, rfl⟩

theorem removeItem_stays (item : String) : Stays w s (removeItem item : Play ε Bool) := by
  refine knowsItem_stays rfl fun hknown => ?_
  change Stays w s (removeItem item)
  unfold Stays
  rw [removeItem_of_known hknown]
  cases s.inventory.remove? item <;> exact ⟨rfl, rfl⟩

theorem unlockRecipe_stays (recipe : String) :
    Stays w s (unlockRecipe recipe : Play ε Bool) := by
  unfold Stays
  rw [unlockRecipe_run]
  split <;> exact ⟨rfl, rfl⟩

theorem lockRecipe_stays (recipe : String) : Stays w s (lockRecipe recipe : Play ε Bool) := by
  unfold Stays
  rw [lockRecipe_run]
  split <;> exact ⟨rfl, rfl⟩

theorem useRecipe_stays (index : Nat) : Stays w s (useRecipe index : Play ε Bool) := by
  unfold Stays
  cases husable : s.canUseRecipe w index with
  | false =>
      rw [useRecipe_of_unusable husable]
      exact ⟨rfl, rfl⟩
  | true =>
      obtain ⟨recipe, hrecipe, hheld⟩ := (Option.any_eq_true ..).mp husable
      rw [useRecipe_of_usable hrecipe hheld]
      exact ⟨rfl, rfl⟩

theorem prepareText_stays (text : String) : Stays w s (prepareText text) := by
  unfold Stays
  rw [prepareText, world_bind, state_bind, noteRemarks_bind, ofExcept_run, Outcome.after_mk,
    List.append_nil]
  exact ⟨rfl, .of_events_eq_nil (Trace.events_noted _ s) rfl⟩

theorem countItem_stays (item : String) : Stays w s (countItem item : Play ε Amount) := by
  unfold Stays
  rw [countItem, world_bind, state_bind, noteRemarks_bind, pure_run, Outcome.after_mk,
    List.append_nil]
  exact ⟨rfl, .of_events_eq_nil (Trace.events_noted _ s) rfl⟩

/-- Whatever a choice does, the phase is told. -/
theorem selectChoice_phaseTold (index : Nat) :
    PhaseTold s (selectChoice index w s).trace (selectChoice index w s).state := by
  unfold selectChoice
  have hremarks (screen : Screen) : PhaseTold s
      (remarkTrace w s (Choice.remarks (s.context w) screen.choices)) s :=
    .of_events_eq_nil (Trace.events_noted _ s) rfl
  cases selection w s index with
  | nowhere hscreen =>
      rw [selectChoiceBy_of_nowhere hscreen]
      rfl
  | malformed hscreen havailable =>
      rw [selectChoiceBy_of_malformed hscreen havailable]
      exact hremarks _
  | beyond hscreen havailable hindex =>
      rw [selectChoiceBy_of_beyond hscreen havailable hindex]
      exact hremarks _
  | @choice screen choices choice hscreen havailable hindex =>
      rw [selectChoiceBy_of_choice hscreen havailable hindex]
      -- the choice is noted and the message cleared before the action runs
      have hfront : PhaseTold s [⟨.notice (.choiceSelected choice.title), s⟩,
          ⟨.change, { s with message := "" }⟩,
          ⟨.event (.messageChanged ""), { s with message := "" }⟩] { s with message := "" } := rfl
      have hhabit := PhaseTold.habit w
      have haction := run_obeys hhabit.toScriptHabit (go_obeys hhabit) choice.action
        { s with message := "" }
      refine ((hremarks screen).append hfront).append ?_
      rcases hrun : Script.run Play.go choice.action w { s with message := "" } with
        ⟨result, s', trace⟩
      rw [hrun] at haction
      cases result with
      | ok value =>
          rw [mapError_bind_of_ok hrun]
          exact haction.append rfl
      | error error =>
          rw [mapError_bind_of_error hrun]
          exact haction

end Play

namespace HostCall

/-- A call that leads nowhere stays at the current screen. -/
theorem stays_of_isLocal {call : HostCall} (h : call.IsLocal) (w : World) (s : State) :
    Play.Stays w s call.play := by
  cases call with
  | start | selectChoice _ | dispatch _ | execute _ => exact h.elim
  | setVariable | setMessage | clearMessage | finish => exact ⟨rfl, rfl⟩
  | useRecipe index => exact Play.useRecipe_stays index
  | addItem item amount => exact Play.addItem_stays item amount
  | consumeItem item amount => exact Play.consumeItem_stays item amount
  | removeItem item => exact Play.removeItem_stays item
  | countItem item => exact Play.countItem_stays item
  | unlockRecipe recipe => exact Play.unlockRecipe_stays recipe
  | lockRecipe recipe => exact Play.lockRecipe_stays recipe
  | prepareText text => exact Play.prepareText_stays text

/-- **All calls but a start tell the phase.** -/
theorem phaseTold {call : HostCall} (h : call ≠ .start) (w : World) (s : State) :
    PhaseTold s (call.play w s).trace (call.play w s).state := by
  have hscript := (PhaseTold.habit w).toScriptHabit
  have hgo := Play.go_obeys (PhaseTold.habit w)
  by_cases hlocal : call.IsLocal
  · exact (stays_of_isLocal hlocal w s).2
  · cases call with
    | start => exact absurd rfl h
    | selectChoice index => exact Play.selectChoice_phaseTold index
    | dispatch command => exact Play.perform_obeys hscript hgo command s
    | execute script => exact Play.run_obeys hscript hgo script s
    | _ => exact absurd trivial hlocal

/-- Without a current screen, a call that is no start and brings no commands along stays there. -/
theorem current_eq_none {call : HostCall} (hstart : call ≠ .start) (hfree : call.IsCommandFree)
    (h : s.current = none) : (call.play w s).state.current = none := by
  by_cases hlocal : call.IsLocal
  · rw [(stays_of_isLocal hlocal w s).1, h]
  · cases call with
    | start => exact absurd rfl hstart
    | selectChoice index =>
        -- there is nothing to choose from
        have hnowhere : s.currentScreen? w = none := by rw [State.currentScreen?, h]; rfl
        show (Play.selectChoice index w s).state.current = none
        rw [Play.selectChoice, Play.selectChoiceBy_of_nowhere hnowhere, h]
    | dispatch command => exact hfree.elim
    | execute script => exact hfree.elim
    | _ => exact absurd trivial hlocal

end HostCall

/-! ## The current screen -/

/-- The current position, if there is one, is that of a screen. -/
def State.Placed (w : World) (s : State) : Prop :=
  s.current.isSome = true → (s.currentScreen? w).isSome = true

/-- Where there is no current screen there is no current position. -/
theorem State.Placed.currentScreen?_eq_none_iff (h : s.Placed w) :
    s.currentScreen? w = none ↔ s.current = none := by
  constructor
  · intro hscreen
    by_contra hcurrent
    have hsome := h (Option.isSome_iff_ne_none.mpr hcurrent)
    rw [hscreen] at hsome
    nomatch hsome
  · intro hcurrent
    rw [State.currentScreen?, hcurrent]
    rfl

theorem State.isSome_current_of_currentScreen? (h : (s.currentScreen? w).isSome = true) :
    s.current.isSome = true := by
  cases hcurrent : s.current with
  | some index => rfl
  | none =>
      rw [State.currentScreen?, hcurrent] at h
      cases h

/-- A step moves the session to a screen or leaves it where it is. -/
theorem Step.current_cases (h : Step w L s trace s') :
    s'.current = s.current ∨
      ∃ index, s'.current = some index ∧ (w.graph.screen? index).isSome = true := by
  cases h with
  | arrive hscreen => exact .inr ⟨_, rfl, by rw [hscreen]; rfl⟩
  | _ => exact .inl rfl

namespace Steps

/-- **Once there is a current screen, there always is one.** -/
theorem isSome_current (h : Steps w L s trace s') (hs : s.current.isSome = true) :
    s'.current.isSome = true := by
  refine (h.invariant (I := fun state => state.current.isSome = true) ?_ (fun _ h => h)
    (fun h => h) hs).1
  intro s trace s' hstep hs
  rcases hstep.current_cases with hsame | ⟨index, hindex, -⟩
  · rwa [hsame]
  · rw [hindex]
    rfl

/-- Steps keep the current screen, if there is one, in the graph. -/
theorem placed (h : Steps w L s trace s') (hs : s.Placed w) : s'.Placed w := by
  refine (h.invariant (I := State.Placed w) ?_ (fun _ h => h) (fun h => h) hs).1
  intro s trace s' hstep hs
  unfold State.Placed State.currentScreen? at hs ⊢
  rcases hstep.current_cases with hsame | ⟨index, hindex, hscreen⟩
  · rwa [hsame]
  · rw [hindex]
    exact fun _ => hscreen

end Steps

theorem HostCall.steps (call : HostCall) (w : World) (s : State) :
    Steps w .all s (call.play w s).trace (call.play w s).state :=
  (call.course (Licence.all_covers w) call.admittedBy_all s).steps

/-- The current screen of a reachable state is one of the graph. -/
theorem State.Reachable.placed {allowed : HostCall → Prop} (h : State.Reachable w allowed s) :
    s.Placed w := by
  induction h with
  | initial => exact fun h => nomatch h
  | @call s _ call _ ih => exact (call.steps w s).placed ih

/-! ## Starting -/

namespace Play

/-- A start that goes well ends at the first screen, without a message, and finished if the host
was told so in the meantime. -/
theorem start_of_ok (h : (start w s).result = .ok ()) :
    ∃ index, w.graph.screenIndex? w.graph.start = some index ∧
      (start w s).state.current = some index ∧
      (start w s).state.currentScreen? w = w.graph.screen? index ∧
      (w.graph.screen? index).isSome = true ∧ (start w s).state.message = "" ∧
      (start w s).state.phase =
        if (start w s).trace.events.any Event.isFinish then .finished else .active := by
  unfold start at h ⊢
  cases hindex : w.graph.screenIndex? w.graph.start with
  | none =>
      rw [startBy_of_missing hindex] at h
      nomatch h
  | some index =>
      have htold := go_obeys (PhaseTold.habit w) (.screen index) { s with phase := .active }
      rcases hrun : Play.go (.screen index) w { s with phase := .active } with ⟨result, s', trace⟩
      rw [hrun] at htold
      cases result with
      | error error =>
          rw [startBy_of_error hindex hrun] at h
          nomatch h
      | ok value =>
          -- the message is cleared behind the visit, which touches neither the screen nor the phase
          obtain ⟨hcurrent, screen, hscreen⟩ :=
            current_of_go_ok (w := w) (s := { s with phase := .active }) (by rw [hrun])
          rw [hrun] at hcurrent
          rw [startBy_of_ok hindex hrun]
          have hcleared : PhaseTold s' [⟨.change, { s' with message := "" }⟩,
              ⟨.event (.messageChanged ""), { s' with message := "" }⟩]
              { s' with message := "" } := rfl
          refine ⟨index, rfl, hcurrent, ?_, by rw [hscreen]; rfl, rfl, htold.append hcleared⟩
          show s'.current.bind w.graph.screen? = _
          rw [hcurrent, Option.bind_some]

/-- A start that fails ends as not started exactly where there is no current screen, unless there
was no first screen to enter; then nothing has changed. -/
theorem start_of_error {error : SessionError} (h : (start w s).result = .error error) :
    (error = .missingStartScreen w.graph.start ∧ (start w s).state = s ∧
      (start w s).trace.events = []) ∨
    ((∃ found, error = .action found) ∧
      ((start w s).state.phase = .notStarted ↔ (start w s).state.current = none)) := by
  unfold start at h ⊢
  cases hindex : w.graph.screenIndex? w.graph.start with
  | none =>
      rw [startBy_of_missing hindex] at h ⊢
      cases h
      exact .inl ⟨rfl, rfl, rfl⟩
  | some index =>
      have htold := go_obeys (PhaseTold.habit w) (.screen index) { s with phase := .active }
      rcases hrun : Play.go (.screen index) w { s with phase := .active } with ⟨result, s', trace⟩
      rw [hrun] at htold
      cases result with
      | ok value =>
          rw [startBy_of_ok hindex hrun] at h
          nomatch h
      | error found =>
          rw [startBy_of_error hindex hrun] at h ⊢
          cases h
          refine .inr ⟨⟨found, rfl⟩, ?_⟩
          -- the entry itself leaves the session active or finished, so only the missing screen
          -- sets it back
          have hstarted : s'.phase ≠ .notStarted := by
            rw [htold]
            split <;> nofun
          show (if s'.current.isNone then Phase.notStarted else s'.phase) = .notStarted ↔ _
          cases hcurrent : s'.current with
          | none => simp
          | some current => simpa using hstarted

end Play

/-! ## The state machine -/

namespace State.Reachable

variable {allowed : HostCall → Prop}

/-- An active session has a current screen. -/
theorem isSome_current (h : State.Reachable w allowed s) (hs : s.phase = .active) :
    s.current.isSome = true := by
  induction h with
  | initial => nomatch hs
  | @call s hreach call hallowed ih =>
      by_cases hstart : call = .start
      · subst hstart
        change (Play.start w s).state.phase = .active at hs
        show (Play.start w s).state.current.isSome = true
        cases hresult : (Play.start w s).result with
        | ok value =>
            -- it has arrived at the first screen
            obtain ⟨index, -, hcurrent, -⟩ := Play.start_of_ok hresult
            rw [hcurrent]
            rfl
        | error error =>
            rcases Play.start_of_error hresult with ⟨-, hsame, -⟩ | ⟨-, hphase⟩
            · rw [hsame] at hs ⊢
              exact ih hs
            · -- without a screen it would have been set back
              refine Option.isSome_iff_ne_none.mpr fun hnone => ?_
              rw [hphase.mpr hnone] at hs
              nomatch hs
      · -- any other call finds the session active
        have hbefore := (call.phaseTold hstart w s).of_ne_finished (by rw [hs]; nofun)
        exact (call.steps w s).isSome_current (ih (hbefore.symm.trans hs))

/-- A session that has not started has no current screen, if the host brings no commands along. -/
theorem current_eq_none (h : State.Reachable w HostCall.IsCommandFree s)
    (hs : s.phase = .notStarted) : s.current = none := by
  induction h with
  | initial => rfl
  | @call s hreach call hfree ih =>
      by_cases hstart : call = .start
      · subst hstart
        change (Play.start w s).state.phase = .notStarted at hs
        show (Play.start w s).state.current = none
        cases hresult : (Play.start w s).result with
        | ok value =>
            -- it is active or finished by then
            obtain ⟨-, -, -, -, -, -, hphase⟩ := Play.start_of_ok hresult
            rw [hphase] at hs
            split at hs <;> nomatch hs
        | error error =>
            rcases Play.start_of_error hresult with ⟨-, hsame, -⟩ | ⟨-, hphase⟩
            · rw [hsame] at hs ⊢
              exact ih hs
            · exact hphase.mp hs
      · have hbefore := (call.phaseTold hstart w s).of_ne_finished (by rw [hs]; nofun)
        exact call.current_eq_none hstart hfree (ih (hbefore.symm.trans hs))

end State.Reachable

/-- **The state machine of a session.** An active session has a current screen, and no call takes
the current screen away. A session that has not started has none, as long as the host brings no
commands along. A start that goes well ends at the first screen, without a message, and finished
exactly if the host was told so; one that fails ends as not started exactly without a current
screen, unless there is no first screen and nothing happens. Only a start makes a finished session
anything else. -/
theorem lifecycle_of_sessions (w : World) (s : State)
    (h : State.Reachable w (fun _ => True) s) :
    (s.phase = .active → (s.currentScreen? w).isSome = true) ∧
    (∀ call : HostCall, (s.currentScreen? w).isSome = true →
      ((call.play w s).state.currentScreen? w).isSome = true) ∧
    (State.Reachable w HostCall.IsCommandFree s → s.phase = .notStarted →
      s.currentScreen? w = none) ∧
    ((Play.start w s).result = .ok () →
      ∃ index, w.graph.screenIndex? w.graph.start = some index ∧
        (Play.start w s).state.current = some index ∧
        (Play.start w s).state.currentScreen? w = w.graph.screen? index ∧
        (w.graph.screen? index).isSome = true ∧ (Play.start w s).state.message = "" ∧
        (Play.start w s).state.phase =
          if (Play.start w s).trace.events.any Event.isFinish then .finished else .active) ∧
    (∀ error, (Play.start w s).result = .error error → (∀ name, error ≠ .missingStartScreen name) →
      ((Play.start w s).state.phase = .notStarted ↔
        (Play.start w s).state.currentScreen? w = none)) ∧
    (∀ name, (Play.start w s).result = .error (.missingStartScreen name) →
      (Play.start w s).state = s ∧ (Play.start w s).trace.events = []) ∧
    ∀ call : HostCall, call ≠ .start → s.phase = .finished →
      (call.play w s).state.phase = .finished := by
  refine ⟨fun hactive => h.placed (h.isSome_current hactive), fun call hscreen => ?_,
    fun hfree hphase => ?_, Play.start_of_ok, fun error herror hother => ?_,
    fun name hmissing => ?_, fun call hcall hfinished => ?_⟩
  · -- a screen is never left without another one, and the other one is in the graph
    have hcurrent := (call.steps w s).isSome_current (s.isSome_current_of_currentScreen? hscreen)
    exact (call.steps w s).placed h.placed hcurrent
  · exact h.placed.currentScreen?_eq_none_iff.mpr (hfree.current_eq_none hphase)
  · have hplaced : (Play.start w s).state.Placed w := (HostCall.start.steps w s).placed h.placed
    rcases Play.start_of_error herror with ⟨hmissing, -⟩ | ⟨-, hphase⟩
    · exact absurd hmissing (hother _)
    · rw [hphase, hplaced.currentScreen?_eq_none_iff]
  · rcases Play.start_of_error hmissing with ⟨-, hsame, hsilent⟩ | ⟨⟨found, hfound⟩, -⟩
    · exact ⟨hsame, hsilent⟩
    · nomatch hfound
  · exact (call.phaseTold hcall w s).of_finished hfinished

/-- A story that ends in its first screen. -/
def World.porch : World where
  graph := Quest.graph
    { name := "porch", start := "porch"
      screens :=
        [{ name := some "porch", scripts := { once := ["message Come in"], always := ["exit"] } }] }
  settings := {}

/-- A porch that ends the story as soon as it is entered. The phase is finished, and stays so
whatever is chosen afterwards. -/
theorem porch_lifecycle :
    State.Reachable .porch HostCall.IsCommandFree (.initial .porch) ∧
      (State.initial .porch).currentScreen? .porch = none ∧
      (Play.start .porch (.initial .porch)).result = .ok () ∧
      (Play.start .porch (.initial .porch)).state.message = "" ∧
      (Play.start .porch (.initial .porch)).state.phase = .finished ∧
      ((HostCall.selectChoice 0).play .porch
        (HostCall.start.play .porch (.initial .porch)).state).state.phase = .finished := by
  have hfree : State.Reachable .porch HostCall.IsCommandFree (.initial .porch) := .initial
  have hok : (Play.start .porch (.initial .porch)).result = .ok () := by cbv
  have htold : (Play.start .porch (.initial .porch)).trace.events.any Event.isFinish = true := by
    cbv
  obtain ⟨-, -, hnotStarted, hstarted, -⟩ := lifecycle_of_sessions .porch (.initial .porch) .initial
  obtain ⟨index, -, -, -, -, hmessage, hphase⟩ := hstarted hok
  rw [htold, if_pos rfl] at hphase
  -- the statement is used twice: at the initial state, and at the one that starting leaves
  obtain ⟨-, -, -, -, -, -, hfinished⟩ := lifecycle_of_sessions .porch
    (HostCall.start.play .porch (.initial .porch)).state (.call .initial trivial)
  have hother : HostCall.selectChoice 0 ≠ .start := by
    intro heq
    cases heq
  exact ⟨hfree, hnotStarted hfree rfl, hok, hmessage, hphase, hfinished _ hother hphase⟩

end Narrative
