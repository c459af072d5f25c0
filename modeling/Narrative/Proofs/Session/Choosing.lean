import Mathlib
import Narrative.Proofs.Condition
import Narrative.Proofs.Session.Habit
import Narrative.Proofs.Session.Host
import Narrative.Proofs.Session.Skipping

/-!
# Choosing, from end to end

A host selects a choice by its position among those that are open. Which choice that is, is settled
before anything happens: the action of the choice runs on a state that its own guard is not asked
about again, and it may lead to other screens with other choices.

* **`Choice.available_eq_error_iff`** — the open choices cannot be told where a guard is malformed.
* **`SilentOnChoices.habit`** — no script tells the host of a choice, whatever it runs through.
* **`choosing_end_to_end`** — what comes of selecting, in all cases.
-/

namespace Narrative

variable {w : World} {s : State} {ctx : Context} {index : Nat} {error : ExprError}

/-! ## Guards that are malformed -/

/-- A condition that has an answer can be read. -/
theorem Condition.readable_of_evaluate {condition : Condition} {holds : Bool}
    (h : condition.evaluate ctx = .ok holds) : condition.Readable := by
  by_contra hunreadable
  obtain ⟨error, herror⟩ := Condition.exists_evaluate_error_iff.mpr hunreadable
  rw [h] at herror
  nomatch herror

namespace Choice

/-- The first malformed text in the guards of the choices has this error. -/
inductive FirstMalformed : List Choice → ExprError → Prop
  | here {choice : Choice} {others : List Choice} {front rest : Condition} {source : String}
      {error : ExprError} (hcondition : choice.condition = front ++ source :: rest)
      (hfront : front.Readable) (hsource : Expr.parse source = .error error) :
      FirstMalformed (choice :: others) error
  | later {choice : Choice} {others : List Choice} {error : ExprError}
      (hreadable : choice.condition.Readable) (hothers : FirstMalformed others error) :
      FirstMalformed (choice :: others) error

/-- In front of the first malformed text all guards can be read. -/
theorem firstMalformed_cons_iff {choice : Choice} {others : List Choice}
    (hreadable : choice.condition.Readable) :
    FirstMalformed (choice :: others) error ↔ FirstMalformed others error := by
  constructor
  · intro h
    cases h with
    | @here _ _ front rest source _ hcondition _ hsource =>
        -- a guard that reads in full has no source that does not
        have hmem : source ∈ choice.condition := by
          rw [hcondition]
          exact List.mem_append_right front List.mem_cons_self
        obtain ⟨e, he⟩ := hreadable source hmem
        rw [hsource] at he
        nomatch he
    | later _ hothers => exact hothers
  · exact .later hreadable

/-- There is a first malformed guard exactly if some guard cannot be read. -/
theorem exists_firstMalformed_iff {choices : List Choice} :
    (∃ error, FirstMalformed choices error) ↔
      ∃ choice ∈ choices, ¬ choice.condition.Readable := by
  induction choices with
  | nil => exact ⟨nofun, nofun⟩
  | cons choice others ih =>
      rw [List.exists_mem_cons_iff, ← ih]
      by_cases hreadable : choice.condition.Readable
      · rw [or_iff_right (not_not_intro hreadable)]
        simp only [firstMalformed_cons_iff hreadable]
      · refine iff_of_true ?_ (.inl hreadable)
        -- which source fails is the same in every context, so any of them will do to find it
        have hfails : ∃ error, choice.condition.evaluate .standalone = .error error :=
          Condition.exists_evaluate_error_iff.mpr hreadable
        obtain ⟨error, herror⟩ := hfails
        obtain ⟨front, source, rest, hcondition, hfront, hsource⟩ :=
          Condition.evaluate_eq_error_iff.mp herror
        exact ⟨error, .here hcondition hfront hsource⟩

/-- **Listing the open choices fails at the first malformed text of their guards**, in the order of
the choices, and in no other way. -/
theorem available_eq_error_iff {choices : List Choice} :
    available ctx choices = .error error ↔ FirstMalformed choices error := by
  induction choices with
  | nil => exact iff_of_false (fun h => by cases h) (fun h => by cases h)
  | cons choice others ih =>
      rw [available]
      cases hguard : choice.condition.evaluate ctx with
      | error found =>
          constructor
          · intro h
            cases h
            obtain ⟨front, source, rest, hcondition, hfront, hsource⟩ :=
              Condition.evaluate_eq_error_iff.mp hguard
            exact .here hcondition hfront hsource
          · intro h
            cases h with
            | here hcondition hfront hsource =>
                have hfails : choice.condition.evaluate ctx = .error error :=
                  Condition.evaluate_eq_error_iff.mpr ⟨_, _, _, hcondition, hfront, hsource⟩
                rw [hguard] at hfails
                exact congrArg Except.error (Except.error.inj hfails)
            | later hreadable _ =>
                exact absurd hreadable (Condition.exists_evaluate_error_iff.mp ⟨found, hguard⟩)
      | ok holds =>
          -- a guard that can be read is passed over, whether it holds or not
          have hreadable := Condition.readable_of_evaluate hguard
          have hrest : (Except.ok holds >>= fun holds => available ctx others >>= fun found =>
              pure (if holds then choice :: found else found)) = .error error ↔
                available ctx others = .error error := by
            cases available ctx others with
            | error found => exact Iff.rfl
            | ok found => exact iff_of_false (fun h => by cases h) (fun h => by cases h)
          rw [hrest, ih, firstMalformed_cons_iff hreadable]

end Choice

/-! ## Scripts do not choose -/

/-- Whether an event is that of a choice. -/
def Event.isChoice : Event → Bool
  | .choiceSelected _ => true
  | .screenChanged _ | .messageChanged _ | .questFinished _ => false

/-- The host is not told of any choice. -/
def SilentOnChoices (_ : State) (trace : Trace) (_ : State) : Prop :=
  ∀ event ∈ trace.events, event.isChoice = false

/-- **Not telling of choices is a habit of scripts.** -/
theorem SilentOnChoices.habit (w : World) : Habit w SilentOnChoices where
  nil _ := nofun
  append first rest := by
    intro event hmem
    rw [Trace.events_append, List.mem_append] at hmem
    exact hmem.elim (first event) (rest event)
  note _ _ := nofun
  -- a command tells of nothing but messages and the finish, an arrival of nothing but the screen
  acts h := by
    cases h with
    | message text => exact List.forall_mem_singleton.mpr rfl
    | exit => exact List.forall_mem_singleton.mpr rfl
    | _ => exact nofun
  seeScreen _ _ := nofun
  seeRelay _ _ := nofun
  arrive _ _ _ _ := List.forall_mem_singleton.mpr rfl
  down _ := nofun
  up _ := nofun

/-- No script tells that a choice was selected. -/
theorem Play.execute_silent (script : Script) (w : World) (s : State) :
    ∀ event ∈ (execute script w s).trace.events, event.isChoice = false :=
  run_obeys (SilentOnChoices.habit w).toScriptHabit (go_obeys (SilentOnChoices.habit w)) script s

/-! ## Selecting -/

/-- The operation has ended without changing the state or telling the host anything. -/
structure Idle {ε α : Type} (s : State) (result : Except ε α) (outcome : Outcome ε α) : Prop where
  result : outcome.result = result
  state : outcome.state = s
  events : outcome.trace.events = []

/-- What selecting an open choice comes to, where `run` is the execution of its action. -/
structure Chosen (choice : Choice) (run : Outcome ActionError Unit)
    (outcome : Outcome SessionError Unit) : Prop where
  result : outcome.result = run.result.mapError .action
  state : outcome.state = run.state
  events : outcome.trace.events = .messageChanged "" :: run.trace.events ++
    if run.result.isOk then [.choiceSelected choice] else []
  fatal : ∀ error, run.result = .error error → error.isFatal = true
  silent : ∀ event ∈ run.trace.events, event.isChoice = false

/-- A choice is told once if its action comes to an end, and else not at all. -/
theorem Chosen.countP_isChoice {choice : Choice} {run : Outcome ActionError Unit}
    {outcome : Outcome SessionError Unit} (h : Chosen choice run outcome) :
    outcome.trace.events.countP Event.isChoice = if run.result.isOk then 1 else 0 := by
  have hnone : run.trace.events.countP Event.isChoice = 0 :=
    List.countP_eq_zero.mpr fun event hmem => ne_true_of_eq_false (h.silent event hmem)
  rw [h.events, List.countP_append, List.countP_cons_of_neg (by decide), hnone]
  cases run.result.isOk <;> rfl

namespace Play

/-- Without a current screen nothing happens. -/
theorem selectChoice_of_nowhere (hscreen : s.currentScreen? w = none) :
    Idle s (.ok ()) (selectChoice index w s) := by
  rw [selectChoice, selectChoiceBy_of_nowhere hscreen]
  exact ⟨rfl, rfl, rfl⟩

section

variable {screen : Screen} (hscreen : s.currentScreen? w = some screen)
include hscreen

/-- A malformed guard is an error, and nothing else happens. -/
theorem selectChoice_of_malformed (h : Choice.FirstMalformed screen.choices error) :
    Idle s (.error (.expr error)) (selectChoice index w s) := by
  rw [selectChoice, selectChoiceBy_of_malformed hscreen (Choice.available_eq_error_iff.mpr h)]
  exact ⟨rfl, rfl, Trace.events_noted _ _⟩

variable {choices : List Choice} (h : Choice.available (s.context w) screen.choices = .ok choices)
include h

/-- Nothing comes of a position behind the open choices. -/
theorem selectChoice_of_beyond (hindex : choices[index]? = none) :
    Idle s (.ok ()) (selectChoice index w s) := by
  rw [selectChoice, selectChoiceBy_of_beyond hscreen h hindex]
  exact ⟨rfl, rfl, Trace.events_noted _ _⟩

/-- **An open choice is selected**: the message is cleared, the action is executed, and the host is
told of the choice if that went well. -/
theorem selectChoice_chosen {choice : Choice} (hchoice : choices[index]? = some choice) :
    Chosen choice (execute choice.action w { s with message := "" }) (selectChoice index w s) := by
  have hplay : selectChoice index w s = _ := selectChoiceBy_of_choice hscreen h hchoice
  rw [mapError_bind_emit] at hplay
  have hremarks : (remarkTrace w s (Choice.remarks (s.context w) screen.choices)).events = [] :=
    Trace.events_noted _ _
  rw [hplay]
  constructor
  case fatal => exact run_failsFatally Play.go choice.action _
  case silent => exact execute_silent choice.action w _
  case state => rfl
  case result =>
    rw [Outcome.after_result, execute]
    cases (Script.run Play.go choice.action w { s with message := "" }).result <;> rfl
  -- the message is cleared, the action runs, and the choice is told if the action comes to its end
  case events =>
    rw [Outcome.after_trace, Trace.events_append, Trace.events_append, Trace.events_append,
      hremarks, execute]
    cases (Script.run Play.go choice.action w { s with message := "" }).result <;> rfl

end

/-- **A call tells the host of one choice at most.** -/
theorem countP_isChoice_selectChoice (index : Nat) (w : World) (s : State) :
    (selectChoice index w s).trace.events.countP Event.isChoice ≤ 1 := by
  have hidle {result : Except SessionError Unit} (h : Idle s result (selectChoice index w s)) :
      (selectChoice index w s).trace.events.countP Event.isChoice ≤ 1 := by
    rw [h.events]
    exact Nat.zero_le 1
  cases selection w s index with
  | nowhere hscreen => exact hidle (selectChoice_of_nowhere hscreen)
  | malformed hscreen h =>
      exact hidle (selectChoice_of_malformed hscreen (Choice.available_eq_error_iff.mp h))
  | beyond hscreen h hindex => exact hidle (selectChoice_of_beyond hscreen h hindex)
  | choice hscreen h hchoice =>
      -- one event at the end if the script went well, and none if it did not
      rw [(selectChoice_chosen hscreen h hchoice).countP_isChoice]
      split <;> decide

end Play

/-- **Choosing, from end to end.** A malformed guard of the current screen makes every selection
fail with the error of the first malformed text, and nothing happens. Without a current screen, and
at a position behind the open choices, nothing happens either. Everywhere else the choice is the one
that is open at the position before the call: the host is told that the message is cleared, then of
all that the action does, and then of the choice, unless the action fails fatally; and nothing in
between tells it of another choice. -/
theorem choosing_end_to_end (w : World) (s : State) (index : Nat) :
    (∀ screen, s.currentScreen? w = some screen →
      ((∃ choice ∈ screen.choices, ¬ choice.condition.Readable) →
        ∃ error, Choice.FirstMalformed screen.choices error) ∧
      ∀ error, Choice.FirstMalformed screen.choices error →
        Idle s (.error (.expr error)) (Play.selectChoice index w s)) ∧
    (s.currentScreen? w = none → Idle s (.ok ()) (Play.selectChoice index w s)) ∧
    (∀ screen, s.currentScreen? w = some screen →
      (∀ choice ∈ screen.choices, choice.condition.Readable) →
      ∃ choices, s.availableChoices w = .ok choices ∧
        (choices.length ≤ index → Idle s (.ok ()) (Play.selectChoice index w s)) ∧
        ∀ choice, choices[index]? = some choice →
          Chosen choice (Play.execute choice.action w { s with message := "" })
            (Play.selectChoice index w s)) ∧
    (Play.selectChoice index w s).trace.events.countP Event.isChoice ≤ 1 := by
  refine ⟨fun screen hscreen => ⟨Choice.exists_firstMalformed_iff.mpr,
    fun error h => Play.selectChoice_of_malformed hscreen h⟩, Play.selectChoice_of_nowhere,
    fun screen hscreen hreadable => ?_, Play.countP_isChoice_selectChoice index w s⟩
  -- readable guards never fail, so there is a list of choices to take the number in
  obtain ⟨choices, hchoices⟩ := Choice.available_of_readable hreadable (s.context w)
  refine ⟨choices, ?_, fun hindex => ?_, fun choice hchoice => ?_⟩
  · rw [State.availableChoices, hscreen]
    exact hchoices
  · exact Play.selectChoice_of_beyond hscreen hchoices (List.getElem?_eq_none hindex)
  · exact Play.selectChoice_chosen hscreen hchoices hchoice

/-- A room where nothing can be chosen because of a slip. -/
def Screen.hall : Screen where
  name := some "hall"
  choices := [{ title := "Look", condition := ["("], action := [] }]

def Choice.enter : Choice where
  title := "Enter"
  action := ["message Creak", "jump hall"]

/-- A story where the second choice of the first screen is the first one that is open. -/
def Quest.landing : Quest where
  name := "landing"
  start := "door"
  screens :=
    [{ name := some "door"
       choices := [{ title := "Ring", condition := ["var(bell)"], action := ["exit"] }, .enter] },
      .hall]

/-- On the first screen the one choice that is open clears the message, says something and leads to
the second screen, where a guard is malformed. -/
theorem landing_choosing_end_to_end :
    (Play.selectChoice 0 ⟨Quest.landing.graph, {}⟩ { current := some 0 }).trace.events =
        [.messageChanged "", .messageChanged "Creak", .screenChanged .hall,
          .choiceSelected .enter] ∧
      (Play.selectChoice 0 ⟨Quest.landing.graph, {}⟩ { current := some 1 }).result =
        .error (.expr (.malformed "(")) := by
  let w : World := ⟨Quest.landing.graph, {}⟩
  have hslip : Expr.parse "(" = .error (.malformed "(") := by cbv
  have hbell : ∃ e, Expr.parse "var(bell)" = .ok e := ⟨.access .var "bell", by cbv⟩
  obtain ⟨-, -, hopen, -⟩ := choosing_end_to_end w { current := some 0 } 0
  obtain ⟨hmalformed, -⟩ := choosing_end_to_end w { current := some 1 } 0
  constructor
  · obtain ⟨choices, hchoices, -, hchosen⟩ := hopen _ rfl
      (List.forall_mem_cons.mpr ⟨List.forall_mem_singleton.mpr hbell,
        List.forall_mem_singleton.mpr (List.forall_mem_nil _)⟩)
    have hfirst : State.availableChoices w { current := some 0 } = .ok [.enter] := by cbv
    rw [hfirst] at hchoices
    cases hchoices
    rw [(hchosen .enter rfl).events]
    cbv
  · have hsplit : ["("] = [] ++ "(" :: [] := rfl
    have hfirst : Choice.FirstMalformed Screen.hall.choices (.malformed "(") :=
      .here hsplit (List.forall_mem_nil _) hslip
    exact ((hmalformed .hall rfl).2 _ hfirst).result

end Narrative
