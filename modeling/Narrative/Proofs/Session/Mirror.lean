import Mathlib
import Narrative.Build
import Narrative.Proofs.Session.Call
import Narrative.Proofs.Session.Moment
import Narrative.Session.Subscription

/-!
# What a listener knows

A host can ask the session for its screen and its message, or it can listen and remember what it
was told last. Whoever listens from the beginning knows the same as whoever asks, whenever there is
something to hear and between any two calls.

* **`Trace.Mirrors`** — what was heard agrees with the state. `Mirrors.step` says that every step
  keeps it so, one case for each kind of step.
* **`Trace.TellsFinish`** — the end of the story is told with every change that finishes it, and
  with nothing else.
* **`events_mirror_state`** — both hold of every sequence of calls.
-/

namespace Narrative

/-! ## Listening -/

/-- The screen that an event tells of. -/
def Event.screen? : Event → Option Screen
  | .screenChanged screen => some screen
  | .choiceSelected _ | .messageChanged _ | .questFinished _ => none

/-- The message that an event tells of. -/
def Event.message? : Event → Option String
  | .messageChanged text => some text
  | .screenChanged _ | .choiceSelected _ | .questFinished _ => none

/-- The subscriptions of one listener to every kind of event, made before anything happens. -/
def Subscriptions.toAll : Subscriptions Unit :=
  [EventKind.screenChanged, .choiceSelected, .messageChanged, .questFinished].foldl
    (fun subs kind => (subs.subscribe kind ()).2) {}

/-- Every event is delivered once. -/
theorem Subscriptions.deliver_toAll (events : List Event) :
    toAll.deliver events = events.map ((), ·) := by
  have honce : ∀ event, toAll.listeners event = [()] := by
    intro event
    cases event <;> rfl
  induction events with
  | nil => rfl
  | cons event rest ih =>
      show (toAll.listeners event).map (·, event) ++ toAll.deliver rest = _
      rw [honce, ih]
      rfl

/-- The state with the story finished. -/
def State.ended (s : State) : State := { s with phase := .finished }

namespace Trace

variable {w : World} {L : Licence} {s s' s₁ : State} {front rest trace : Trace}

def heard (trace : Trace) : List Event := (Subscriptions.toAll.deliver trace.events).map Prod.snd

/-- The screen that the listener was told of last. -/
def lastScreen? (trace : Trace) : Option Screen := (trace.heard.filterMap Event.screen?).getLast?

/-- The message that the listener was told of last. -/
def lastMessage? (trace : Trace) : Option String :=
  (trace.heard.filterMap Event.message?).getLast?

/-- The position at which the session was when the listener was told of a screen last. -/
def lastPlace? (trace : Trace) : Option Nat :=
  (trace.filterMap fun entry =>
    match entry.occurrence with
    | .event (.screenChanged _) => entry.state.current
    | _ => none).getLast?

/-- What was heard of a trace are its events. -/
@[simp] theorem heard_eq (trace : Trace) : trace.heard = trace.events := by
  rw [heard, Subscriptions.deliver_toAll, List.map_map]
  exact List.map_id _

/-- The last screen told is that of the later trace, if it tells of one. -/
theorem lastScreen?_append (first second : Trace) :
    lastScreen? (first ++ second) = second.lastScreen?.or first.lastScreen? := by
  simp [lastScreen?]

/-- The last message told is that of the later trace, if it tells of one. -/
theorem lastMessage?_append (first second : Trace) :
    lastMessage? (first ++ second) = second.lastMessage?.or first.lastMessage? := by
  simp [lastMessage?]

theorem lastPlace?_append (first second : Trace) :
    lastPlace? (first ++ second) = second.lastPlace?.or first.lastPlace? := by
  simp [lastPlace?]

/-! ## Hearing and asking -/

/-- What was heard agrees with the state: the screen that was told last is the current one, at the
position where the session was then, and the message that was told last is the pending one. -/
structure Mirrors (w : World) (trace : Trace) (s : State) : Prop where
  screen : s.currentScreen? w = trace.lastScreen?
  place : s.current = trace.lastPlace?
  message : s.message = trace.lastMessage?.getD ""

namespace Mirrors

/-- A fresh session has told nothing, and there is nothing to tell. -/
theorem initial (w : World) : Mirrors w [] (.initial w) := ⟨rfl, rfl, rfl⟩

/-- What happens next keeps the agreement if it changes the state as it tells. -/
theorem append (h : front.Mirrors w s)
    (hscreen : s'.currentScreen? w = trace.lastScreen?.or (s.currentScreen? w))
    (hplace : s'.current = trace.lastPlace?.or s.current)
    (hmessage : s'.message = trace.lastMessage?.getD s.message) :
    (front ++ trace).Mirrors w s' where
  screen := by rw [hscreen, h.screen, lastScreen?_append]
  place := by rw [hplace, h.place, lastPlace?_append]
  message := by
    rw [hmessage, h.message, lastMessage?_append]
    cases trace.lastMessage? <;> rfl

/-- Nothing is heard of notices. -/
theorem notes (h : front.Mirrors w s) (notices : List Notice) :
    (front ++ noted notices s).Mirrors w s := by
  refine h.append ?_ ?_ ?_
  · rw [lastScreen?, heard_eq, events_noted]
    rfl
  · rw [lastPlace?, filterMap_noted fun _ => rfl]
    rfl
  · rw [lastMessage?, heard_eq, events_noted]
    rfl

/-- **Every step changes the screen and the message as it tells.** -/
theorem step (h : front.Mirrors w s) (hstep : Step w L s trace s') :
    (front ++ trace).Mirrors w s' := by
  cases hstep with
  | notes notices hskip => exact h.notes notices
  | arrive hscreen =>
      refine h.append ?_ rfl rfl
      exact hscreen
  | say text => exact h.append rfl rfl rfl
  | finish | give | consume | drop | craft | unlock | lock | assign | seeScreen | seeRelay
  | activate | settle | choose => exact h.append rfl rfl rfl

/-- **A run tells what it does.** -/
theorem steps (hsteps : Steps w L s trace s') :
    ∀ {front : Trace}, front.Mirrors w s → (front ++ trace).Mirrors w s' := by
  induction hsteps with
  | nil s =>
      intro front h
      rwa [List.append_nil]
  | step head _ ih =>
      intro front h
      rw [← List.append_assoc]
      exact ih (h.step head)
  | down _ _ ih =>
      intro front h
      rw [← List.singleton_append, ← List.append_assoc]
      exact ih (h.append rfl rfl rfl)
  | up _ _ ih =>
      intro front h
      rw [← List.singleton_append, ← List.append_assoc]
      exact ih (h.append rfl rfl rfl)
  | skip _ _ _ ih =>
      -- the note on what was skipped is no event
      intro front h
      rw [← List.singleton_append, ← List.append_assoc]
      exact ih (h.append rfl rfl rfl)

end Mirrors

/-! ## The end of the story -/

/-- The end of the story is told with every change that finishes it, and with nothing else. -/
structure TellsFinish (w : World) (s : State) (trace : Trace) : Prop where
  /-- Where the end is told, the story was finished right before. -/
  told : ∀ {front rest : Trace} {name t},
    trace = front ++ ⟨.event (.questFinished name), t⟩ :: rest →
    name = w.graph.name ∧ ∃ before : Trace,
      front = before ++ [⟨.change, t⟩, ⟨.notice (.finished w.graph.name), t⟩] ∧
      t = (before.stateFrom s).ended
  /-- Where the story gets finished, the end is told right behind. -/
  set : ∀ {front rest : Trace} {entry}, trace = front ++ entry :: rest →
    (front.stateFrom s).phase ≠ .finished → entry.state.phase = .finished →
    entry = ⟨.change, (front.stateFrom s).ended⟩ ∧ ∃ behind,
      rest = ⟨.notice (.finished w.graph.name), entry.state⟩ ::
        ⟨.event (.questFinished w.graph.name), entry.state⟩ :: behind

end Trace

variable {w : World} {L : Licence} {s s' t : State} {trace inner : Trace} {name : String}

/-- What a step has done that tells of the end. -/
theorem Step.of_questFinished (h : Step w L s (inner ++ [⟨.event (.questFinished name), t⟩]) s') :
    name = w.graph.name ∧ inner = [⟨.change, s'⟩, ⟨.notice (.finished w.graph.name), s'⟩] ∧
      s' = s.ended := by
  generalize htrace : inner ++ [⟨.event (.questFinished name), t⟩] = trace at h
  -- only one kind of step has this event for its last entry
  have hlast := congrArg List.getLast? htrace
  rw [List.getLast?_concat] at hlast
  cases h
  case finish =>
    have hsplit : inner ++ [⟨.event (.questFinished name), t⟩] =
        [⟨.change, s.ended⟩, ⟨.notice (.finished w.graph.name), s.ended⟩] ++
          [⟨.event (.questFinished w.graph.name), s.ended⟩] := htrace
    obtain ⟨hinner, htold⟩ := List.append_inj' hsplit rfl
    cases htold
    exact ⟨rfl, hinner, rfl⟩
  case notes notices hskip =>
    obtain ⟨notice, -, hnotice⟩ := List.mem_map.mp (List.mem_of_getLast? hlast.symm)
    nomatch hnotice
  all_goals nomatch hlast

/-- What a step has done behind which the story is finished. -/
theorem Step.of_phase_finished (h : Step w L s trace s') (hbefore : s.phase ≠ .finished)
    (hbehind : s'.phase = .finished) :
    s' = s.ended ∧
      trace = [⟨.change, s'⟩, ⟨.notice (.finished w.graph.name), s'⟩,
        ⟨.event (.questFinished w.graph.name), s'⟩] := by
  cases h
  case finish => exact ⟨rfl, rfl⟩
  case activate => nomatch hbehind
  case settle =>
    -- the phase is set back or left alone
    dsimp only at hbehind
    split at hbehind
    · nomatch hbehind
    · exact absurd hbehind hbefore
  all_goals exact absurd hbehind hbefore

/-- **A run tells of the end when it comes.** -/
theorem Steps.tellsFinish (h : Steps w L s trace s') : Trace.TellsFinish w s trace where
  told {front rest name t} hcut := by
    subst hcut
    obtain ⟨before, inner, s₁, rfl, past, head, -⟩ := h.of_event rfl
    obtain ⟨hname, rfl, hstate⟩ := head.of_questFinished
    refine ⟨hname, before, rfl, ?_⟩
    rw [past.stateFrom_eq]
    exact hstate
  set {front rest entry} hcut hbefore hbehind := by
    cases h.moment hcut with
    | @step s₁ s₂ before inner after behind hfront hrest past head future =>
        rw [hfront, Trace.stateFrom_append, past.stateFrom_eq] at hbefore ⊢
        -- only the first entry of a step can change the phase
        have hstate := head.state_of_mem (List.mem_append_right inner List.mem_cons_self)
        cases inner with
        | nil =>
            rw [hstate] at hbehind
            obtain ⟨hset, htrace⟩ := head.of_phase_finished hbefore hbehind
            obtain ⟨rfl, rfl⟩ := List.cons.inj htrace
            exact ⟨congrArg _ hset, behind, hrest⟩
        | cons first inner =>
            -- this one is not the first, and what was in front of it is in the same state
            have hwithin : Trace.stateFrom s₁ (first :: inner) = s₂ :=
              Trace.stateFrom_of_forall (List.cons_ne_nil _ _) fun other hother =>
                head.state_of_mem (List.mem_append_left _ hother)
            rw [hwithin, ← hstate] at hbefore
            exact absurd hbehind hbefore
    | down past hentry future =>
        -- the depth and skipped commands have nothing to do with the phase
        rw [past.stateFrom_eq] at hbefore
        rw [hentry] at hbehind
        exact absurd hbehind hbefore
    | up past hentry future =>
        rw [past.stateFrom_eq] at hbefore
        rw [hentry] at hbehind
        exact absurd hbehind hbefore
    | skip past hentry future =>
        rw [past.stateFrom_eq] at hbefore
        rw [hentry] at hbehind
        exact absurd hbehind hbefore

/-- **Events mirror the state.** Whatever a host does with a fresh session, what was heard agrees
with the state after every call and whenever something is heard, and the end of the story is told
exactly where the story is finished, be it finished already. -/
theorem events_mirror_state (w : World) (calls : List HostCall) :
    (HostCall.playAll calls w (.initial w)).trace.Mirrors w
        (HostCall.playAll calls w (.initial w)).state ∧
    (∀ (front rest : Trace) (entry : TraceEntry) (event : Event),
      (HostCall.playAll calls w (.initial w)).trace = front ++ entry :: rest →
      entry.occurrence = .event event → Trace.Mirrors w (front ++ [entry]) entry.state) ∧
    Trace.TellsFinish w (.initial w) (HostCall.playAll calls w (.initial w)).trace ∧
    ∀ s, (Play.finish : Play SessionError Unit) w s =
      ⟨.ok (), s.ended, [⟨.change, s.ended⟩, ⟨.notice (.finished w.graph.name), s.ended⟩,
        ⟨.event (.questFinished w.graph.name), s.ended⟩]⟩ := by
  have hsteps := (HostCall.playAll_course calls w (.initial w)).steps
  have hnothing := Trace.Mirrors.initial w
  refine ⟨?_, fun front rest entry event hcut hevent => ?_, hsteps.tellsFinish, fun s => rfl⟩
  · exact hnothing.steps hsteps
  · -- the run up to what is heard is a run, so it keeps the agreement too
    rw [hcut] at hsteps
    obtain ⟨-, -, -, -, -, -, hthere⟩ := hsteps.of_event hevent
    exact hnothing.steps hthere

/-- A story that is over where it begins. -/
def Quest.epilogue : Quest where
  name := "epilogue"
  start := "end"
  screens := [{ name := some "end", scripts := { always := ["message Farewell", "exit"] } }]

/-- The end of a story is heard behind everything else, and the state is finished then. -/
theorem epilogue_events_mirror_state :
    ∃ front entry,
      (HostCall.playAll [.start, .finish] ⟨Quest.epilogue.graph, {}⟩
        (.initial ⟨Quest.epilogue.graph, {}⟩)).trace = front ++ entry :: [] ∧
      entry.occurrence = .event (.questFinished "epilogue") ∧
      Trace.Mirrors ⟨Quest.epilogue.graph, {}⟩ (front ++ [entry]) entry.state := by
  have hlast : (HostCall.playAll [.start, .finish] ⟨Quest.epilogue.graph, {}⟩
      (.initial ⟨Quest.epilogue.graph, {}⟩)).trace.getLast?.map TraceEntry.occurrence =
      some (.event (.questFinished "epilogue")) := by cbv
  obtain ⟨entry, hentry, hevent⟩ := Option.map_eq_some_iff.mp hlast
  obtain ⟨front, hfront⟩ := List.getLast?_eq_some_iff.mp hentry
  have hmirrors := events_mirror_state ⟨Quest.epilogue.graph, {}⟩ [.start, .finish]
  exact ⟨front, entry, hfront, hevent, hmirrors.2.1 front [] entry _ hfront hevent⟩

end Narrative
