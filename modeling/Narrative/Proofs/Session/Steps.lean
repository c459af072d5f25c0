import Narrative.Proofs.Session.Trail

/-!
# Runs, state by state

`Steps` forgets how a trail was nested and keeps the sequence of what happened: steps, changes of
the depth, and skipped commands. An invariant of all runs is then what the single steps and the
changes of the depth preserve.

* **`Trail.steps`** — a trail is such a sequence. The depth goes up only below the hop limit and
  comes down only from above zero.
* **`Steps.invariant`** — what every step preserves holds at the end and at every state on the way.
* **`Steps.reason_of_skipped`** — every skipped command has one of the reasons of `Failure`.
-/

namespace Narrative

variable {w : World} {L : Licence} {s s' s'' : State} {trace trace' : Trace}

/-- Every error in a trail, the final one as well as those of the skipped commands, is one of the
failures. -/
theorem Trail.failure_of_error {outcome : Outcome ActionError Unit} (h : Trail w L s outcome) :
    ∀ error, outcome.result = .error error → ∃ t, Failure w L t error := by
  induction h with
  | done s => intro error herror; nomatch herror
  | @fails s _ h =>
      intro error herror
      cases herror
      exact ⟨s, h⟩
  | step h => intro error herror; nomatch herror
  | seq _ _ _ ih => exact ih
  | skip _ _ _ _ => intro error herror; nomatch herror
  | entry _ _ ih => exact ih

/-- What happens from one state to another, in order. -/
inductive Steps (w : World) (L : Licence) : State → Trace → State → Prop
  | nil (s : State) : Steps w L s [] s
  | step {s s' s'' : State} {trace trace' : Trace} (head : Step w L s trace s')
      (rest : Steps w L s' trace' s'') : Steps w L s (trace ++ trace') s''
  | down {s s' : State} {trace : Trace} (hroom : s.depth < w.settings.maxHops)
      (rest : Steps w L s.down trace s') : Steps w L s (⟨.change, s.down⟩ :: trace) s'
  | up {s s' : State} {trace : Trace} (hdeep : 0 < s.depth) (rest : Steps w L s.up trace s') :
      Steps w L s (⟨.change, s.up⟩ :: trace) s'
  | skip {s s' : State} {trace : Trace} {source : String} {error : ActionError}
      (hreason : ∃ t, Failure w L t error) (hfatal : error.isFatal = false)
      (rest : Steps w L s trace s') : Steps w L s (.skipped source error s :: trace) s'

namespace Steps

/-- Steps go on where others ended. -/
theorem append (first : Steps w L s trace s') (rest : Steps w L s' trace' s'') :
    Steps w L s (trace ++ trace') s'' := by
  induction first with
  | nil s => exact rest
  | step head _ ih => rw [List.append_assoc]; exact .step head (ih rest)
  | down hroom _ ih => exact .down hroom (ih rest)
  | up hdeep _ ih => exact .up hdeep (ih rest)
  | skip hreason hfatal _ ih => exact .skip hreason hfatal (ih rest)

theorem single (h : Step w L s trace s') : Steps w L s trace s' := by
  rw [← List.append_nil trace]
  exact .step h (.nil s')

end Steps

/-- **A trail is a sequence of steps.** -/
theorem Trail.steps {outcome : Outcome ActionError Unit} (h : Trail w L s outcome) :
    Steps w L s outcome.trace outcome.state := by
  induction h with
  | done s => exact .nil s
  | @fails s _ _ => exact .nil s
  | step h => exact .single h
  | seq _ _ ihfirst ihrest => exact ihfirst.append ihrest
  | @skip s s' _ _ _ first hfatal _ ih =>
      exact ih.append (.skip (first.failure_of_error _ rfl) hfatal (.nil s'))
  | @entry s outcome hroom inner ih =>
      -- the trail inside came back to the depth of the way in, so there is a way out
      have hdeep : 0 < outcome.state.depth := by
        rw [inner.depth_eq, State.depth_down]
        exact Nat.succ_pos s.depth
      exact .down hroom (ih.append (.up hdeep (.nil _)))

namespace Steps

/-- **The invariant principle.** What holds at the start and is preserved by every step and by
going up and down holds at the end and at every state on the way. -/
theorem invariant {I : State → Prop}
    (hstep : ∀ {s trace s'}, Step w L s trace s' → I s → I s')
    (hdown : ∀ {s : State}, s.depth < w.settings.maxHops → I s → I s.down)
    (hup : ∀ {s : State}, I s → I s.up) (h : Steps w L s trace s') (hs : I s) :
    I s' ∧ ∀ state ∈ trace.states, I state := by
  induction h with
  | nil s => exact ⟨hs, fun _ hmem => nomatch hmem⟩
  | step head _ ih =>
      have hnext := hstep head hs
      obtain ⟨hlast, hstates⟩ := ih hnext
      refine ⟨hlast, fun state hmem => ?_⟩
      rw [Trace.states, List.map_append, List.mem_append] at hmem
      rcases hmem with hmem | hmem
      · -- the states within a step are the one that it ends in
        obtain ⟨entry, hentry, rfl⟩ := List.mem_map.mp hmem
        rw [head.state_of_mem hentry]
        exact hnext
      · exact hstates state hmem
  | down hroom _ ih =>
      obtain ⟨hlast, hstates⟩ := ih (hdown hroom hs)
      exact ⟨hlast, List.forall_mem_cons.mpr ⟨hdown hroom hs, hstates⟩⟩
  | up _ _ ih =>
      obtain ⟨hlast, hstates⟩ := ih (hup hs)
      exact ⟨hlast, List.forall_mem_cons.mpr ⟨hup hs, hstates⟩⟩
  | skip _ _ _ ih =>
      -- a note on what was skipped repeats the state
      obtain ⟨hlast, hstates⟩ := ih hs
      exact ⟨hlast, List.forall_mem_cons.mpr ⟨hs, hstates⟩⟩

/-- The depth stays within the hop limit. -/
theorem depth_le (h : Steps w L s trace s') (hs : s.depth ≤ w.settings.maxHops) :
    s'.depth ≤ w.settings.maxHops ∧ ∀ state ∈ trace.states, state.depth ≤ w.settings.maxHops :=
  h.invariant (I := fun state => state.depth ≤ w.settings.maxHops)
    (fun hstep hle => hstep.depth_eq ▸ hle) (fun hroom _ => hroom)
    (fun hle => Nat.le_trans (Nat.sub_le _ _) hle) hs

end Steps

/-- No step tells of a skipped command. -/
theorem Step.skipped_not_mem (h : Step w L s trace s') (source : String) (error : ActionError) :
    Notice.skippedCommand source error ∉ trace.notices := by
  intro hmem
  obtain ⟨state, hentry⟩ := Trace.mem_notices.mp hmem
  cases h
  -- the notices of a step are of another kind
  case notes notices h =>
    obtain ⟨notice, hnotice, heq⟩ := List.mem_map.mp hentry
    cases heq
    nomatch h _ hnotice
  all_goals simp at hentry

/-- Every skipped command has a reason, and the reason is not fatal. -/
theorem Steps.reason_of_skipped (h : Steps w L s trace s') {source : String}
    {error : ActionError} (hmem : Notice.skippedCommand source error ∈ trace.notices) :
    (∃ t, Failure w L t error) ∧ error.isFatal = false := by
  induction h with
  | nil s => nomatch hmem
  | step head _ ih =>
      -- no single step skips a command, so the notice stems from a skip of its own
      rw [Trace.notices_append, List.mem_append] at hmem
      exact hmem.elim (fun hhead => absurd hhead (head.skipped_not_mem source error)) ih
  | down _ _ ih => exact ih hmem
  | up _ _ ih => exact ih hmem
  | skip hreason hfatal _ ih =>
      rcases List.mem_cons.mp hmem with heq | hmem
      · cases heq
        exact ⟨hreason, hfatal⟩
      · exact ih hmem

end Narrative
