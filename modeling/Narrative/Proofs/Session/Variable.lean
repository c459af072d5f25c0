import Mathlib
import Narrative.Proofs.Session.Clean
import Narrative.Proofs.Warning

/-!
# Variables that nothing sets

The checks of a graph collect the variables that have a default and those that some script sets.
What a session stores comes about in another way, by performing scripts. As long as the host sets
no variables itself, neither directly nor by commands of its own, the session cannot leave the
collection: whatever it reads elsewhere has no value, between the calls and in the middle of them.

* **`Step.valuesKnown`** — a step sets known variables only.
* **`State.Visited.invariant`** — what steps preserve holds wherever a session comes by.
* **`unknown_variables_stay_null`** — so warnings about variables are right in every play.
-/

namespace Narrative

variable {w : World} {s s' : State} {trace : Trace}

/-- Whether a call neither sets a variable nor brings commands along that could. -/
def HostCall.SetsNothing : HostCall → Prop
  | .setVariable _ _ | .dispatch _ | .execute _ => False
  | _ => True

/-! ## Wherever a session comes by -/

/-- The states of a fresh session between the calls of its host and in the middle of them. -/
inductive State.Visited (w : World) (allowed : HostCall → Prop) : State → Prop
  | between {s : State} (h : State.Reachable w allowed s) : Visited w allowed s
  | within {s state : State} {call : HostCall} (h : State.Reachable w allowed s)
      (hallowed : allowed call) (hmem : state ∈ (call.play w s).trace.states) :
      Visited w allowed state

/-- What holds of a fresh session and is preserved by every step and by going up and down holds
wherever it comes by. -/
theorem State.Visited.invariant {L : Licence} {I : State → Prop} {allowed : HostCall → Prop}
    (hL : L.Covers w) (hallowed : ∀ call, allowed call → call.AdmittedBy L)
    (hinitial : I (.initial w)) (hstep : ∀ {s trace s'}, Step w L s trace s' → I s → I s')
    (hdown : ∀ {s : State}, s.depth < w.settings.maxHops → I s → I s.down)
    (hup : ∀ {s : State}, I s → I s.up) (h : State.Visited w allowed s) : I s := by
  have hreachable {s : State} (h : State.Reachable w allowed s) : I s :=
    h.invariant hL hallowed hinitial hstep hdown hup
  cases h with
  | between h => exact hreachable h
  | @within before _ call h hcall hmem =>
      have hsteps := (call.course hL (hallowed call hcall) before).steps
      exact (hsteps.invariant hstep hdown hup (hreachable h)).2 s hmem

/-! ## The variables of a session -/

theorem Registry.contains_insert {α : Type} {r : Registry α} {name other : String} {value : α} :
    (r.insert name value).contains other = true ↔ other = name ∨ r.contains other = true := by
  rw [contains, get?_insert, contains]
  by_cases h : other = name <;> simp [h]

/-- Every variable that has a value is known. -/
def State.ValuesKnown (graph : Graph) (s : State) : Prop :=
  ∀ name, s.values.contains name = true → name ∈ graph.knownVariables

/-- A variable that is not known reads as null. -/
theorem State.ValuesKnown.var_eq_null (h : s.ValuesKnown w.graph) {name : String}
    (hunknown : name ∉ w.graph.knownVariables) : (s.context w).var name = .ok .null := by
  have hnone : s.values.get? name = none :=
    Option.not_isSome_iff_eq_none.mp fun hsome => hunknown (h name hsome)
  show Except.ok ((s.values.get? name).getD .null) = _
  rw [hnone]
  rfl

/-- A fresh session has values for the defaults only. -/
theorem State.valuesKnown_initial (w : World) : (State.initial w).ValuesKnown w.graph :=
  fun _ h => Graph.mem_knownVariables_iff.mpr (.inl h)

/-- The licence for the scripts of the graph, with the variables that they set. -/
def Licence.setting (graph : Graph) : Licence :=
  { Licence.own graph with
    target := fun name => name ∈ graph.knownVariables
    place := fun _ => True
    assigned := by
      rintro name assignment expression ⟨site, hsite, source, hsource, hparse⟩
      exact Graph.mem_knownVariables_iff.mpr (.inr ⟨_, _, _, Graph.mem_sites_iff.mp hsite,
        source, hsource, assignment, expression, hparse⟩) }

/-- The assignments in scripts of the graph set known variables. -/
theorem Licence.setting_covers (w : World) : (Licence.setting w.graph).Covers w :=
  covers_of_own (fun _ h => h) (fun _ _ => trivial) fun _ => trivial

theorem HostCall.SetsNothing.admittedBy_setting {call : HostCall} (h : call.SetsNothing)
    (graph : Graph) : call.AdmittedBy (.setting graph) := by
  cases call with
  | setVariable name value => exact h.elim
  | dispatch command => exact h.elim
  | execute script => exact h.elim
  | _ => trivial

/-- **A step sets known variables only**: the others leave the values alone. -/
theorem Step.valuesKnown (h : Step w (.setting w.graph) s trace s')
    (hknown : s.ValuesKnown w.graph) : s'.ValuesKnown w.graph := by
  cases h with
  | assign value htarget =>
      intro other hother
      rcases Registry.contains_insert.mp hother with rfl | hold
      · exact htarget
      · exact hknown other hold
  | _ => exact hknown

/-- **No play of the host leaves the known variables.** -/
theorem State.Visited.valuesKnown (h : State.Visited w HostCall.SetsNothing s) :
    s.ValuesKnown w.graph :=
  h.invariant (Licence.setting_covers w) (fun _ hcall => hcall.admittedBy_setting w.graph)
    (State.valuesKnown_initial w) Step.valuesKnown (fun _ hknown => hknown) fun hknown => hknown

/-- **Variables that nothing sets stay without a value.** In every play of a host that sets no
variables and brings no commands along, the variables with a value have a default or are set by
some command of some script. So what the checks warn about reads as null wherever the session comes
by; and they warn about every reading of such a variable, at any depth of any guard. -/
theorem unknown_variables_stay_null (graph : Graph) (settings : Settings) :
    (∀ name, name ∈ graph.knownVariables ↔ graph.defaults.contains name = true ∨
      ∃ place condition script, graph.Places place condition script ∧
        ∃ source ∈ script, ∃ assignment expression,
          Command.parse source = .ok (.set name assignment expression)) ∧
    (∀ s, State.Visited ⟨graph, settings⟩ HostCall.SetsNothing s →
      ∀ name, s.values.contains name = true → name ∈ graph.knownVariables) ∧
    (∀ place source name, .script place (.undefinedVariable source name) ∈ graph.lint →
      name ∉ graph.knownVariables ∧
      (∃ condition script, graph.Places place condition script ∧ source ∈ condition ∧
        ∃ e, Expr.parse source = .ok e ∧ 0 < e.varCount name) ∧
      ∀ s, State.Visited ⟨graph, settings⟩ HostCall.SetsNothing s →
        (s.context ⟨graph, settings⟩).var name = .ok .null) ∧
    ∀ place condition script, graph.Places place condition script →
      ∀ source ∈ condition, ∀ e, Expr.parse source = .ok e →
      ∀ name, name ∉ graph.knownVariables →
        e.varCount name ≤ graph.lint.count (.script place (.undefinedVariable source name)) := by
  refine ⟨fun _ => Graph.mem_knownVariables_iff, fun s hs => hs.valuesKnown,
    fun place source name hwarning => ?_,
    fun _ _ _ hplaces _ hsource _ hparse _ hunknown =>
      Graph.varCount_le_count_lint hplaces hsource hparse hunknown⟩
  obtain ⟨hunknown, hreads⟩ := Graph.undefinedVariable_mem_lint hwarning
  refine ⟨hunknown, hreads, fun s hs => ?_⟩
  -- the warning is about the graph alone, the null about every state that is visited
  have hknown : s.ValuesKnown graph := hs.valuesKnown
  exact State.ValuesKnown.var_eq_null (w := ⟨graph, settings⟩) hknown hunknown

/-- A story whose only guard reads a variable that is set nowhere, and one that its own choice
sets. -/
def Quest.hollow : Quest where
  name := "hollow"
  start := "mouth"
  screens :=
    [{ name := some "mouth"
       choices :=
         [{ title := "Call"
            condition := ["var(voice) || !var(echo)"]
            action := ["set voice = true"] }] }]

/-- A hollow whose one choice asks for an echo that nothing ever sets. -/
theorem hollow_echo_stays_null :
    .script (.choice 0 "mouth" 0 "Call") (.undefinedVariable "var(voice) || !var(echo)" "echo") ∈
        Quest.hollow.graph.lint ∧
      (((HostCall.selectChoice 0).play ⟨Quest.hollow.graph, {}⟩
        (HostCall.start.play ⟨Quest.hollow.graph, {}⟩
          (.initial ⟨Quest.hollow.graph, {}⟩)).state).state.context
            ⟨Quest.hollow.graph, {}⟩).var "echo" = .ok .null := by
  have hlint : Quest.hollow.graph.lint = [.script (.choice 0 "mouth" 0 "Call")
      (.undefinedVariable "var(voice) || !var(echo)" "echo")] := by cbv
  -- the one warning names the variable, and two calls later it is as unset as before
  have hwarning := hlint ▸ List.mem_singleton_self _
  obtain ⟨-, -, hnull, -⟩ := unknown_variables_stay_null Quest.hollow.graph {}
  have hstarted : State.Reachable ⟨Quest.hollow.graph, {}⟩ HostCall.SetsNothing
      (HostCall.start.play ⟨Quest.hollow.graph, {}⟩
        (.initial ⟨Quest.hollow.graph, {}⟩)).state := .call .initial trivial
  exact ⟨hwarning, (hnull _ _ _ hwarning).2.2 _ (.between (.call hstarted trivial))⟩

end Narrative
