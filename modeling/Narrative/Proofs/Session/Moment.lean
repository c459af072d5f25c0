import Narrative.Proofs.Session.Steps

/-!
# Moments of a run

A trace can be cut at any of its entries. The `Moment` of an entry says what the entry is part of:
a step, a change of the depth, or a skipped command, with the run up to there in front and the rest
of the run behind.

* **`Steps.moment`** — every entry of a run has its moment.
* **`Steps.of_event`** — what the host is told is told at the end of a step, so the run up to there
  is a run of its own.
* **`Steps.stateFrom_eq`** — a run is always in the state that something happened in last.
-/

namespace Narrative

variable {w : World} {L : Licence} {s s' s₁ : State} {front rest trace : Trace} {entry : TraceEntry}

/-- What the entry is part of that has this trace in front of it and that one behind it. -/
inductive Moment (w : World) (L : Licence) (s : State) (front : Trace) (entry : TraceEntry)
    (rest : Trace) (s' : State) : Prop
  | step {s₁ s₂ : State} {before inner after behind : Trace} (hfront : front = before ++ inner)
      (hrest : rest = after ++ behind) (past : Steps w L s before s₁)
      (head : Step w L s₁ (inner ++ entry :: after) s₂) (future : Steps w L s₂ behind s')
  | down {s₁ : State} (past : Steps w L s front s₁) (hentry : entry = ⟨.change, s₁.down⟩)
      (future : Steps w L s₁.down rest s')
  | up {s₁ : State} (past : Steps w L s front s₁) (hentry : entry = ⟨.change, s₁.up⟩)
      (future : Steps w L s₁.up rest s')
  | skip {s₁ : State} {source : String} {error : ActionError} (past : Steps w L s front s₁)
      (hentry : entry = .skipped source error s₁) (future : Steps w L s₁ rest s')

/-- What comes before a run comes before all its moments. -/
theorem Moment.prepend {first : Trace} (hfirst : Steps w L s first s₁)
    (h : Moment w L s₁ front entry rest s') : Moment w L s (first ++ front) entry rest s' := by
  cases h with
  | step hfront hrest past head future =>
      exact .step (by rw [hfront, List.append_assoc]) hrest (hfirst.append past) head future
  | down past hentry future => exact .down (hfirst.append past) hentry future
  | up past hentry future => exact .up (hfirst.append past) hentry future
  | skip past hentry future => exact .skip (hfirst.append past) hentry future

/-- Where an entry is a run of its own, a cut is at this entry or behind it. -/
theorem Moment.of_cons {first : TraceEntry} (hfirst : Steps w L s [first] s₁)
    (hhere : Moment w L s [] first trace s')
    (hbehind : ∀ {front entry rest}, trace = front ++ entry :: rest →
      Moment w L s₁ front entry rest s') :
    ∀ {front entry rest}, first :: trace = front ++ entry :: rest →
      Moment w L s front entry rest s' := by
  intro front entry rest hcut
  -- the cut lies in front of the first entry, or behind it
  cases front with
  | nil =>
      obtain ⟨rfl, rfl⟩ := List.cons.inj hcut
      exact hhere
  | cons other front =>
      obtain ⟨rfl, hcut'⟩ := List.cons.inj hcut
      exact (hbehind hcut').prepend hfirst

namespace Steps

/-- **Every entry of a run has its moment.** Induction on the run: the cut is in its first step or
behind it. -/
theorem moment (h : Steps w L s trace s') :
    ∀ {front entry rest}, trace = front ++ entry :: rest → Moment w L s front entry rest s' := by
  induction h with
  | nil s =>
      intro front entry rest hcut
      simp at hcut
  | @step s s₁ s' head_trace trace' head rest ih =>
      intro front entry behind hcut
      -- the cut is behind the first step, or within it
      rcases List.append_eq_append_iff.mp hcut with ⟨front', rfl, hcut'⟩ | ⟨inner, hhead, hcut'⟩
      · exact (ih hcut').prepend (.single head)
      · cases inner with
        | nil =>
            -- it is just behind the first step, which is all in front of it
            rw [List.append_nil] at hhead
            rw [List.nil_append] at hcut'
            subst hhead
            have hnext : Moment w L s₁ [] entry behind s' := ih hcut'.symm
            have hmoment := hnext.prepend (.single head)
            rwa [List.append_nil] at hmoment
        | cons first after =>
            obtain ⟨rfl, rfl⟩ := List.cons.inj hcut'
            subst hhead
            exact .step (List.nil_append _).symm rfl (.nil s) head rest
  | down hroom rest ih => exact Moment.of_cons (.down hroom (.nil _)) (.down (.nil _) rfl rest) ih
  | up hdeep rest ih => exact Moment.of_cons (.up hdeep (.nil _)) (.up (.nil _) rfl rest) ih
  | skip hreason hfatal rest ih =>
      exact Moment.of_cons (.skip hreason hfatal (.nil _)) (.skip (.nil _) rfl rest) ih

end Steps

/-! ## What the host is told -/

/-- A step tells the host last, if it does at all. -/
theorem Step.after_eq_nil {inner after : Trace} {event : Event}
    (h : Step w L s (inner ++ entry :: after) s') (hevent : entry.occurrence = .event event) :
    after = [] := by
  -- in front of the last entry of a step there are changes and notices only
  have hlast : ∀ trace : Trace, Step w L s trace s' →
      ∀ other ∈ trace.dropLast, ∀ event, other.occurrence ≠ .event event := by
    intro trace hstep other hother event
    cases hstep
    case notes notices hskip =>
      obtain ⟨notice, -, rfl⟩ := List.mem_map.mp (List.dropLast_subset _ hother)
      nofun
    all_goals
      simp only [List.dropLast, List.mem_cons, List.not_mem_nil, or_false] at hother
      try (rcases hother with rfl | rfl <;> nofun)
  cases after with
  | nil => rfl
  | cons other behind =>
      refine absurd hevent (hlast _ h entry ?_ event)
      rw [List.dropLast_append_of_ne_nil (List.cons_ne_nil _ _)]
      exact List.mem_append_right _ List.mem_cons_self

/-- **What the host is told is told at the end of a step**, so the run up to there is a run. -/
theorem Steps.of_event {event : Event} (h : Steps w L s (front ++ entry :: rest) s')
    (hevent : entry.occurrence = .event event) :
    ∃ before inner s₁, front = before ++ inner ∧ Steps w L s before s₁ ∧
      Step w L s₁ (inner ++ [entry]) entry.state ∧ Steps w L s (front ++ [entry]) entry.state := by
  cases h.moment rfl with
  | @step s₁ s₂ before inner after behind hfront hrest past head future =>
      -- an event is the last entry of its step, so nothing of the step is left behind it
      obtain rfl := head.after_eq_nil hevent
      have hstate := head.state_of_mem (List.mem_append_right inner List.mem_cons_self)
      rw [← hstate] at head
      refine ⟨before, inner, s₁, hfront, past, head, ?_⟩
      rw [hfront, List.append_assoc]
      exact past.append (.single head)
  | down past hentry future => rw [hentry] at hevent; nomatch hevent
  | up past hentry future => rw [hentry] at hevent; nomatch hevent
  | skip past hentry future => rw [hentry] at hevent; nomatch hevent

/-! ## Where a run is -/

/-- The state that a trace leads to: the last one that something happened in. -/
def Trace.stateFrom (s : State) (trace : Trace) : State :=
  (trace.getLast?.map TraceEntry.state).getD s

theorem Trace.stateFrom_append (s : State) (first second : Trace) :
    (first ++ second).stateFrom s = second.stateFrom (first.stateFrom s) := by
  rw [stateFrom, stateFrom, stateFrom, List.getLast?_append]
  cases second.getLast? <;> rfl

theorem Trace.stateFrom_cons (s : State) (entry : TraceEntry) (rest : Trace) :
    stateFrom s (entry :: rest) = rest.stateFrom entry.state :=
  stateFrom_append s [entry] rest

theorem Trace.stateFrom_of_forall (hne : trace ≠ []) (h : ∀ entry ∈ trace, entry.state = s') :
    trace.stateFrom s = s' := by
  rw [stateFrom, List.getLast?_eq_some_getLast hne]
  exact h _ (List.getLast_mem hne)

theorem Step.stateFrom_eq (h : Step w L s trace s') : trace.stateFrom s = s' := by
  by_cases hne : trace = []
  · -- a step without a trace is one that writes no notices
    cases h
    case notes notices hskip =>
      rw [hne]
      rfl
    all_goals nomatch hne
  · exact Trace.stateFrom_of_forall hne fun entry => h.state_of_mem

/-- **A run is always where its trace was last.** -/
theorem Steps.stateFrom_eq (h : Steps w L s trace s') : trace.stateFrom s = s' := by
  induction h with
  | nil s => rfl
  | step head _ ih => rw [Trace.stateFrom_append, head.stateFrom_eq, ih]
  | down _ _ ih => rw [Trace.stateFrom_cons, ih]
  | up _ _ ih => rw [Trace.stateFrom_cons, ih]
  | skip _ _ _ ih =>
      rw [Trace.stateFrom_cons]
      exact ih

end Narrative
