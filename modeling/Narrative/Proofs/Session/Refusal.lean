import Mathlib
import Narrative.Proofs.Expr.Runtime
import Narrative.Proofs.Registration
import Narrative.Proofs.Session.Skipping
import Narrative.Proofs.Warning

/-!
# What the warnings about commands foretell

The checks of a graph and the performing of its commands look things up on their own. Here the two
are held against each other, verb by verb: a command with a warning fails in every session and
leaves nothing behind, and one without a warning does not fail for any of the reasons that the
checks look for, wherever it leads.

* **`Graph.Refuses.performSource`** — what a refused source comes to.
* **`Play.isForeseeable_of_accepted`** — what is left for the others to fail with.
* **`warnings_foretell_failures`** — the warnings are right about all commands of a graph.
-/

namespace Narrative

variable {w : World} {s : State} {source : String} {problem : ScriptProblem} {error : ActionError}
  {go : Destination → Play ActionError Unit}

/-- The errors that the checks of a graph look for. A malformed expression of an assignment is
another one, which shares its kind with errors that come up at runtime only. -/
def ActionError.isForeseeable : ActionError → Bool
  | .command _ | .unknownScreen _ | .unknownRelay _ | .unknownItem _ | .unknownRecipe _ => true
  | _ => false

/-- No fatal error is among these. -/
theorem ActionError.isForeseeable_of_isFatal (h : error.isFatal = true) :
    error.isForeseeable = false := by
  cases error <;> first | rfl | nomatch h

/-! ## Refused commands -/

/-- A malformed expression has no value to assign. -/
theorem Play.assignedValue_of_malformed {expression : String} {found : ExprError}
    (h : Expr.parse expression = .error found) (old : Value) (assignment : Assignment) :
    Play.assignedValue old assignment expression = .error found := by
  rw [Play.assignedValue, h]
  rfl

namespace Graph.Refuses

/-- **A refused source fails at once**, in every state, and nothing has happened then. -/
theorem performSource (h : w.graph.Refuses source problem error) :
    Play.performSource go source w s = ⟨.error error, s, []⟩ := by
  -- all but an unreadable source are commands that were read and then fail by themselves
  have hfails {command : Command} (hparse : Command.parse source = .ok command)
      (h : command.Fails w s error) : Play.performSource go source w s = ⟨.error error, s, []⟩ :=
    (Play.performSource_of_ok hparse).trans (Play.perform_of_fails h)
  cases h with
  | unreadable h => exact Play.performSource_of_error h
  | jump h hunknown => exact hfails h (.screen hunknown)
  | relay h hunknown => exact hfails h (.relay hunknown)
  | give h hunknown => exact hfails h (.give hunknown)
  | consume h hunknown => exact hfails h (.consume hunknown)
  | unlock h hunknown => exact hfails h (.unlock hunknown)
  | lock h hunknown => exact hfails h (.lock hunknown)
  | set h hexpression => exact hfails h (.set (Play.assignedValue_of_malformed hexpression _ _))

/-- A script skips a refused command, unless the error is fatal and ends it. -/
theorem execute (h : w.graph.Refuses source problem error) :
    (Play.execute [source] w s).result = (if error.isFatal then .error error else .ok ()) ∧
      (Play.execute [source] w s).state = s ∧ (Play.execute [source] w s).trace.events = [] := by
  have hrun : Play.performSource Play.go source w s = ⟨.error error, s, []⟩ := h.performSource
  rw [Play.execute, Script.run_cons]
  cases hfatal : error.isFatal with
  | true =>
      rw [Play.bind_of_error (Play.heed_of_fatal hrun hfatal)]
      exact ⟨rfl, rfl, rfl⟩
  | false =>
      rw [Play.bind_of_ok (Play.heed_of_skip hrun hfatal)]
      exact ⟨rfl, rfl, rfl⟩

/-- There is one problem and one error for a refused source. -/
theorem unique {problem' : ScriptProblem} {error' : ActionError}
    (h : w.graph.Refuses source problem error) (h' : w.graph.Refuses source problem' error') :
    problem = problem' ∧ error = error' := by
  have hproblem := h.problem_eq.symm.trans h'.problem_eq
  have hrun : Play.performSource Play.go source w (.initial w) = ⟨.error error, .initial w, []⟩ :=
    h.performSource
  rw [h'.performSource] at hrun
  cases hproblem
  cases hrun
  exact ⟨rfl, rfl⟩

end Graph.Refuses

/-! ## The other commands -/

namespace Play

/-- Entering a place fails fatally, or the place does not exist. -/
theorem go_error_missing {destination : Destination}
    (h : (Play.go destination w s).result = .error error) :
    error.isFatal = true ∨ ¬ destination.ExistsIn w.graph ∧ error = destination.missing := by
  by_cases hexists : destination.ExistsIn w.graph
  · exact .inl (go_failsFatally hexists s error h)
  · by_cases hroom : s.depth < w.settings.maxHops
    · rw [go_of_room hroom, deeper_run, visit_of_missing hexists] at h
      exact .inr ⟨hexists, (Except.error.inj h).symm⟩
    · rw [go_of_full (Nat.le_of_not_lt hroom)] at h
      cases h
      exact .inl rfl

/-- A place that a command leads to is not missing for a reason that could be foreseen: a relay was
looked up before, and a screen is one of a position. -/
theorem isForeseeable_of_leads {command : Command} {destination : Destination}
    (hleads : command.Leads w s destination)
    (h : (Play.go destination w s).result = .error error) : error.isForeseeable = false := by
  rcases go_error_missing h with hfatal | ⟨hmissing, rfl⟩
  · exact ActionError.isForeseeable_of_isFatal hfatal
  · cases hleads with
    | jump _ => rfl
    | relay hknown => exact absurd hknown hmissing
    | next _ _ => rfl

section

variable (haccepted : ∀ problem error, ¬ w.graph.Refuses source problem error)
include haccepted

/-- **A source that is not refused fails with nothing that could be foreseen.** -/
theorem isForeseeable_of_accepted
    (h : (performSource Play.go source w s).result = .error error) :
    error.isForeseeable = false := by
  cases hparse : Command.parse source with
  | error found => exact absurd (.unreadable hparse) (haccepted _ _)
  | ok command =>
      rw [performSource_of_ok hparse] at h
      have hcases := perform_performed Play.go w s command
      generalize perform Play.go command w s = outcome at h hcases
      cases hcases with
      | fails hfails =>
          cases h
          -- each look-up that fails would have been refused
          cases hfails with
          | screen h => exact absurd (.jump hparse h) (haccepted _ _)
          | relay h => exact absurd (.relay hparse h) (haccepted _ _)
          | give h => exact absurd (.give hparse h) (haccepted _ _)
          | consume h => exact absurd (.consume hparse h) (haccepted _ _)
          | unlock h => exact absurd (.unlock hparse h) (haccepted _ _)
          | lock h => exact absurd (.lock hparse h) (haccepted _ _)
          | set h => rfl
          | nowhere h => rfl
          | beyond hcurrent h => rfl
      | leads deed hleads => exact isForeseeable_of_leads hleads h
      | acts hacts => nomatch h

/-- An assignment that is not refused fails at runtime only. -/
theorem isRuntime_of_accepted {name expression : String} {assignment : Assignment}
    (hparse : Command.parse source = .ok (.set name assignment expression))
    (h : (performSource Play.go source w s).result = .error error) :
    ∃ found, error = .expr found ∧ found.isRuntime = true := by
  rw [performSource_of_ok hparse] at h
  have hcases := perform_performed Play.go w s (.set name assignment expression)
  generalize perform Play.go (.set name assignment expression) w s = outcome at h hcases
  cases hcases with
  | fails hfails =>
      -- the source was not refused, so its expression can be read, and what fails is the evaluation
      cases h
      cases hfails with
      | @set _ _ _ found hvalue =>
          cases hexpression : Expr.parse expression with
          | error malformed => exact absurd (.set hparse hexpression) (haccepted _ _)
          | ok e => exact ⟨found, rfl, assignedValue_error hexpression hvalue⟩
  | leads deed hleads => nomatch hleads
  | acts hacts => nomatch h

end

end Play

/-- **The warnings about commands are right, and they are all there.** The checks look at every
script of the screens, the choices, the relays and the forks, and have one warning for each command
that the graph refuses and none for the others. In a graph that was filled by registering no place
is looked at twice, so what is said about the commands at a place is one warning for each refusal
there. A refused command fails in every state of every
session, with the error that goes with its warning; it changes nothing and tells the host nothing,
and a script goes on behind it unless the error is fatal. A command that is not refused never fails
with an error that the checks look for, and if it is an assignment, its expression is well
formed. -/
theorem warnings_foretell_failures (graph : Graph) (settings : Settings) :
    (∀ place condition script, ⟨place, condition, script⟩ ∈ graph.sites ↔
      graph.Places place condition script) ∧
    graph.Reported graph.sites graph.lint ∧
    (graph.Filled → (graph.sites.map (·.place)).Nodup ∧
      ∀ place condition script, graph.Places place condition script →
        graph.Reports place script (graph.lint.filter (·.isOfCommandAt place))) ∧
    (∀ source problem error, graph.Refuses source problem error →
      (∀ problem' error', graph.Refuses source problem' error' →
        problem = problem' ∧ error = error') ∧
      ∀ s : State,
        Play.performSource Play.go source ⟨graph, settings⟩ s = ⟨.error error, s, []⟩ ∧
        (Play.execute [source] ⟨graph, settings⟩ s).result =
          (if error.isFatal then .error error else .ok ()) ∧
        (Play.execute [source] ⟨graph, settings⟩ s).state = s ∧
        (Play.execute [source] ⟨graph, settings⟩ s).trace.events = []) ∧
    ∀ source, (∀ problem error, ¬ graph.Refuses source problem error) →
      ∀ (s : State) (error : ActionError),
        (Play.performSource Play.go source ⟨graph, settings⟩ s).result = .error error →
        error.isForeseeable = false ∧
        ∀ name assignment expression,
          Command.parse source = .ok (.set name assignment expression) →
          ∃ found, error = .expr found ∧ found.isRuntime = true := by
  refine ⟨fun _ _ _ => Graph.mem_sites_iff, graph.reported_lint,
    fun hfilled => ⟨Graph.places_nodup hfilled, fun _ _ _ => Graph.reports_at_place hfilled⟩,
    fun source problem error h => ⟨fun _ _ h' => ?_, fun s => ⟨?_, ?_⟩⟩,
    fun source haccepted s error herror => ⟨?_, fun name assignment expression hparse => ?_⟩⟩
  · exact Graph.Refuses.unique (w := ⟨graph, settings⟩) h h'
  · exact Graph.Refuses.performSource (w := ⟨graph, settings⟩) h
  · exact Graph.Refuses.execute (w := ⟨graph, settings⟩) h
  · exact Play.isForeseeable_of_accepted (w := ⟨graph, settings⟩) haccepted herror
  · exact Play.isRuntime_of_accepted (w := ⟨graph, settings⟩) haccepted hparse herror

/-- A story whose only choice tries things that are not there before it comes back. -/
def Quest.thicket : Quest where
  name := "thicket"
  start := "path"
  screens :=
    [{ name := some "path"
       choices :=
         [{ title := "Push on"
            action := ["dance", "jump clearing", "set way = (", "jump path"] }] }]

/-- A thicket whose one choice holds an unknown verb, an unknown screen, a malformed expression and
a command that is fine. -/
theorem thicket_warnings_foretell_failures :
    (Play.performSource Play.go "jump clearing" ⟨Quest.thicket.graph, {}⟩
        (.initial ⟨Quest.thicket.graph, {}⟩)).result = .error (.unknownScreen "clearing") ∧
      (Play.execute ["set way = ("] ⟨Quest.thicket.graph, {}⟩
        (.initial ⟨Quest.thicket.graph, {}⟩)).result = .error (.expr (.malformed "(")) ∧
      (∀ s error, (Play.performSource Play.go "jump path" ⟨Quest.thicket.graph, {}⟩ s).result =
        .error error → error.isForeseeable = false) ∧
      Quest.thicket.graph.Reports (.choice 0 "path" 0 "Push on")
        ["dance", "jump clearing", "set way = (", "jump path"]
        (Quest.thicket.graph.lint.filter (·.isOfCommandAt (.choice 0 "path" 0 "Push on"))) := by
  obtain ⟨-, -, hplace, hrefused, haccepted⟩ := warnings_foretell_failures Quest.thicket.graph {}
  have hjump : Quest.thicket.graph.Refuses "jump clearing"
      (.unknownTarget "jump clearing" .screen "clearing") (.unknownScreen "clearing") :=
    .jump (by cbv) (by cbv)
  have hparse : Command.parse "set way = (" = .ok (.set "way" .assign "(") := by cbv
  have hset : Quest.thicket.graph.Refuses "set way = ("
      (.badExpression "set way = (" (.malformed "(")) (.expr (.malformed "(")) :=
    .set hparse (by cbv)
  have hback : Quest.thicket.graph.commandProblem? "jump path" = none := by cbv
  -- the choice is the first one of the first screen
  have hstands : Quest.thicket.graph.Places (.choice 0 "path" 0 "Push on") []
      ["dance", "jump clearing", "set way = (", "jump path"] :=
    @Graph.Places.choice _ 0 0 Quest.thicket.screens[0] _ rfl rfl
  refine ⟨?_, ((hrefused _ _ _ hset).2 _).2.1, fun s error herror => ?_,
    (hplace Quest.thicket.graph_filled).2 _ _ _ hstands⟩
  · rw [((hrefused _ _ _ hjump).2 _).1]
  · refine (haccepted "jump path" (fun problem error h => ?_) s error herror).1
    rw [h.problem_eq] at hback
    cases hback

end Narrative
