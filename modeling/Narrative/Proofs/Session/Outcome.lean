import Narrative.Session.Host

/-!
# Outcomes of plays

A play is run by rewriting: each primitive in front of a continuation has one equation, and
`Outcome.after` collects the trace on the way. With these equations `simp` turns an operation on
a session into the cases that its definition distinguishes.
-/

namespace Narrative

variable {ε ε' α β : Type}

namespace Outcome

/-- The outcome with a trace in front of its own. -/
def after (outcome : Outcome ε α) (trace : Trace) : Outcome ε α :=
  { outcome with trace := trace ++ outcome.trace }

@[simp] theorem after_result (outcome : Outcome ε α) (trace : Trace) :
    (outcome.after trace).result = outcome.result := rfl

@[simp] theorem after_state (outcome : Outcome ε α) (trace : Trace) :
    (outcome.after trace).state = outcome.state := rfl

@[simp] theorem after_trace (outcome : Outcome ε α) (trace : Trace) :
    (outcome.after trace).trace = trace ++ outcome.trace := rfl

theorem after_mk (result : Except ε α) (state : State) (trace front : Trace) :
    (⟨result, state, trace⟩ : Outcome ε α).after front = ⟨result, state, front ++ trace⟩ := rfl

@[simp] theorem after_nil (outcome : Outcome ε α) : outcome.after [] = outcome := rfl

/-- What came before is put in front of what came in between. -/
@[simp] theorem after_after (outcome : Outcome ε α) (inner outer : Trace) :
    (outcome.after inner).after outer = outcome.after (outer ++ inner) := by
  simp [after, List.append_assoc]

end Outcome

namespace Trace

@[simp] theorem events_nil : events [] = [] := rfl

@[simp] theorem events_cons_change (s : State) (rest : Trace) :
    events (⟨.change, s⟩ :: rest) = events rest := rfl

@[simp] theorem events_cons_event (event : Event) (s : State) (rest : Trace) :
    events (⟨.event event, s⟩ :: rest) = event :: events rest := rfl

@[simp] theorem events_cons_notice (notice : Notice) (s : State) (rest : Trace) :
    events (⟨.notice notice, s⟩ :: rest) = events rest := rfl

@[simp] theorem events_append (first second : Trace) :
    events (first ++ second) = events first ++ events second := by
  simp [events]

@[simp] theorem notices_append (first second : Trace) :
    notices (first ++ second) = notices first ++ notices second := by
  simp [notices]

@[simp] theorem states_append (first second : Trace) :
    states (first ++ second) = states first ++ states second :=
  List.map_append

/-- A notice of a trace is an entry of it. -/
theorem mem_notices {notice : Notice} {trace : Trace} :
    notice ∈ trace.notices ↔ ∃ state, (⟨.notice notice, state⟩ : TraceEntry) ∈ trace := by
  simp only [notices, List.mem_filterMap]
  constructor
  · rintro ⟨⟨occurrence, state⟩, hmem, hsome⟩
    cases occurrence with
    | change => simp at hsome
    | event event => simp at hsome
    | notice found =>
        cases hsome
        exact ⟨state, hmem⟩
  · rintro ⟨state, hmem⟩
    exact ⟨_, hmem, rfl⟩

/-- The trace of writing to the log. -/
def noted (notices : List Notice) (s : State) : Trace :=
  notices.map fun notice => ⟨.notice notice, s⟩

theorem filterMap_noted {read : TraceEntry → Option α} {notices : List Notice} {s : State}
    (h : ∀ notice, read ⟨.notice notice, s⟩ = none) : (noted notices s).filterMap read = [] := by
  rw [noted, List.filterMap_map]
  exact List.filterMap_eq_nil_iff.mpr fun notice _ => h notice

/-- Notes are no events. -/
theorem events_noted (notices : List Notice) (s : State) : (noted notices s).events = [] :=
  filterMap_noted fun _ => rfl

end Trace

namespace Play

/-! ## Running one primitive after the other -/

variable (w : World) (s : State)

@[simp] theorem pure_run (value : α) : (pure value : Play ε α) w s = ⟨.ok value, s, []⟩ := rfl

@[simp] theorem fail_run (error : ε) : (fail error : Play ε α) w s = ⟨.error error, s, []⟩ := rfl

@[simp] theorem note_run (notice : Notice) :
    (note notice : Play ε Unit) w s = ⟨.ok (), s, [⟨.notice notice, s⟩]⟩ := rfl

@[simp] theorem emit_run (event : Event) :
    (emit event : Play ε Unit) w s = ⟨.ok (), s, [⟨.event event, s⟩]⟩ := rfl

@[simp] theorem update_run (change : State → State) :
    (update change : Play ε Unit) w s = ⟨.ok (), change s, [⟨.change, change s⟩]⟩ := rfl

@[simp] theorem ofExcept_run (result : Except ε α) : ofExcept result w s = ⟨result, s, []⟩ := by
  cases result <;> rfl

@[simp] theorem world_bind (next : World → Play ε α) : (world >>= next) w s = next w w s := rfl

@[simp] theorem state_bind (next : State → Play ε α) : (state >>= next) w s = next s w s := rfl

@[simp] theorem note_bind (notice : Notice) (next : Unit → Play ε α) :
    (note notice >>= next) w s = (next () w s).after [⟨.notice notice, s⟩] := rfl

@[simp] theorem emit_bind (event : Event) (next : Unit → Play ε α) :
    (emit event >>= next) w s = (next () w s).after [⟨.event event, s⟩] := rfl

@[simp] theorem update_bind (change : State → State) (next : Unit → Play ε α) :
    (update change >>= next) w s =
      (next () w (change s)).after [⟨.change, change s⟩] := rfl

@[simp] theorem attempt_bind (play : Play ε' β) (next : Except ε' β → Play ε α) :
    (attempt play >>= next) w s =
      (next (play w s).result w (play w s).state).after (play w s).trace := rfl

/-- The notices that a list of remarks puts into the log. -/
def remarkTrace (remarks : List Remark) : Trace :=
  (remarks.filterMap (noticeOf? w)).map fun notice => ⟨.notice notice, s⟩

@[simp] theorem noteRemarks_bind (remarks : List Remark) (next : Unit → Play ε α) :
    (noteRemarks remarks >>= next) w s = (next () w s).after (remarkTrace w s remarks) := rfl

variable {w s}

/-- What follows an operation that went well goes on from where it ended. -/
theorem bind_of_ok {first : Play ε β} {next : β → Play ε α} {value : β} {s' : State}
    {trace : Trace} (h : first w s = ⟨.ok value, s', trace⟩) :
    (first >>= next) w s = (next value w s').after trace := by
  show Play.bind first next w s = _
  rw [Play.bind, h]
  rfl

/-- What follows an operation that failed is not run. -/
theorem bind_of_error {first : Play ε β} {next : β → Play ε α} {error : ε} {s' : State}
    {trace : Trace} (h : first w s = ⟨.error error, s', trace⟩) :
    (first >>= next) w s = ⟨.error error, s', trace⟩ := by
  show Play.bind first next w s = _
  rw [Play.bind, h]

/-- A play that comes to a value goes on from there, whatever its errors are turned into. -/
theorem mapError_bind_of_ok {f : ε' → ε} {first : Play ε' β} {next : β → Play ε α} {value : β}
    {s' : State} {trace : Trace} (h : first w s = ⟨.ok value, s', trace⟩) :
    (mapError f first >>= next) w s = (next value w s').after trace :=
  bind_of_ok (by rw [mapError, h]; rfl)

/-- A play that fails ends there, with its error turned into another. -/
theorem mapError_bind_of_error {f : ε' → ε} {first : Play ε' β} {next : β → Play ε α} {error : ε'}
    {s' : State} {trace : Trace} (h : first w s = ⟨.error error, s', trace⟩) :
    (mapError f first >>= next) w s = ⟨.error (f error), s', trace⟩ :=
  bind_of_error (by rw [mapError, h]; rfl)

/-- A host is told of an event behind an operation if that went well. -/
theorem mapError_bind_emit (f : ε' → ε) (first : Play ε' β) (event : Event) (w : World)
    (s : State) :
    (mapError f first >>= fun _ => emit event) w s =
      ⟨((first w s).result.mapError f).map fun _ => (), (first w s).state,
        (first w s).trace ++
          if (first w s).result.isOk then [⟨.event event, (first w s).state⟩] else []⟩ := by
  rcases hrun : first w s with ⟨result, state, trace⟩
  cases result with
  | ok value =>
      rw [mapError_bind_of_ok hrun]
      rfl
  | error error =>
      rw [mapError_bind_of_error hrun]
      -- no event where there was an error
      exact congrArg _ (List.append_nil trace).symm

/-- Two sequences come to the same if their first parts do, and what follows does wherever the
first part leads. -/
theorem bind_congr {first first' : Play ε β} {next next' : β → Play ε α}
    (hfirst : first w s = first' w s)
    (hnext : ∀ value, next value w (first' w s).state = next' value w (first' w s).state) :
    (first >>= next) w s = (first' >>= next') w s := by
  rcases h : first' w s with ⟨result, s', trace⟩
  rw [h] at hfirst hnext
  cases result with
  | ok value => rw [bind_of_ok hfirst, bind_of_ok h, hnext value]
  | error error => rw [bind_of_error hfirst, bind_of_error h]

/-- Three plays in a row may be grouped either way. -/
theorem bind_assoc_run {γ : Type} (first : Play ε α) (second : α → Play ε β)
    (third : β → Play ε γ) :
    ((first >>= second) >>= third) w s = (first >>= fun value => second value >>= third) w s := by
  rcases hfirst : first w s with ⟨result, s', trace⟩
  -- the first of the three parts that fails ends the run on both sides
  cases result with
  | error error =>
      rw [bind_of_error hfirst, bind_of_error (bind_of_error hfirst)]
  | ok value =>
      rcases hsecond : second value w s' with ⟨result', s'', trace'⟩
      have hboth : (first >>= second) w s = ⟨result', s'', trace ++ trace'⟩ := by
        rw [bind_of_ok hfirst, hsecond, Outcome.after_mk]
      rw [bind_of_ok hfirst]
      cases result' with
      | error error => rw [bind_of_error hboth, bind_of_error hsecond, Outcome.after_mk]
      | ok value' => rw [bind_of_ok hboth, bind_of_ok hsecond, Outcome.after_after]

end Play

/-! ## Scripts -/

/-- The entry that a skipped command leaves in the trace. -/
def TraceEntry.skipped (source : String) (error : ActionError) (s : State) : TraceEntry :=
  ⟨.notice (.skippedCommand source error), s⟩

namespace Play

variable {go : Destination → Play ActionError Unit} {w : World} {s s' : State} {trace : Trace}
  {source : String} {error : ActionError}

/-- Performs a command of a script: one that fails harmlessly is noted and counts as done. -/
def heed (go : Destination → Play ActionError Unit) (source : String) : Play ActionError Unit := do
  match ← attempt (performSource go source) with
  | .ok _ => pure ()
  | .error error => if error.isFatal then fail error else note (.skippedCommand source error)

/-- A command that is performed is heeded. -/
theorem heed_of_ok (h : performSource go source w s = ⟨.ok (), s', trace⟩) :
    heed go source w s = ⟨.ok (), s', trace⟩ := by
  rw [heed, attempt_bind, h]
  simp [Outcome.after_mk]

/-- A failure that is not fatal is noted, and the script goes on. -/
theorem heed_of_skip (h : performSource go source w s = ⟨.error error, s', trace⟩)
    (hfatal : error.isFatal = false) :
    heed go source w s = ⟨.ok (), s', trace ++ [.skipped source error s']⟩ := by
  rw [heed, attempt_bind, h]
  simp [hfatal, Outcome.after_mk, TraceEntry.skipped]

/-- A fatal failure comes out of the command. -/
theorem heed_of_fatal (h : performSource go source w s = ⟨.error error, s', trace⟩)
    (hfatal : error.isFatal = true) : heed go source w s = ⟨.error error, s', trace⟩ := by
  rw [heed, attempt_bind, h]
  simp [hfatal, Outcome.after_mk]

/-- What a command of a script comes to: it is done, it is skipped, or it ends the script. -/
inductive Heeding (go : Destination → Play ActionError Unit) (source : String) (w : World)
    (s : State) : Prop
  | done {s' : State} {trace : Trace} (h : performSource go source w s = ⟨.ok (), s', trace⟩)
  | skip {s' : State} {trace : Trace} {error : ActionError}
      (h : performSource go source w s = ⟨.error error, s', trace⟩)
      (hfatal : error.isFatal = false)
  | fatal {s' : State} {trace : Trace} {error : ActionError}
      (h : performSource go source w s = ⟨.error error, s', trace⟩)
      (hfatal : error.isFatal = true)

/-- Heeding a source ends in one of three ways. -/
theorem heeding (go : Destination → Play ActionError Unit) (source : String) (w : World)
    (s : State) : Heeding go source w s := by
  rcases h : performSource go source w s with ⟨result, s', trace⟩
  cases result with
  | ok value => exact .done h
  | error error =>
      cases hfatal : error.isFatal with
      | false => exact .skip h hfatal
      | true => exact .fatal h hfatal

end Play

namespace Script

variable {w : World} {s : State}

/-- A script heeds its first command and goes on with the others. -/
theorem run_cons (go : Destination → Play ActionError Unit) (source : String) (rest : Script) :
    Script.run go (source :: rest) w s =
      (Play.heed go source >>= fun _ => Script.run go rest) w s := by
  rw [Script.run, Play.attempt_bind]
  cases Play.heeding go source w s with
  | done h => rw [h, Play.bind_of_ok (Play.heed_of_ok h)]
  | skip h hfatal =>
      rw [h, Play.bind_of_ok (Play.heed_of_skip h hfatal)]
      simp [hfatal, TraceEntry.skipped]
  | fatal h hfatal =>
      rw [h, Play.bind_of_error (Play.heed_of_fatal h hfatal)]
      simp [hfatal, Outcome.after_mk]

/-- A script in two parts runs the second part behind the first. -/
theorem run_append (go : Destination → Play ActionError Unit) (first rest : Script) :
    ∀ s, Script.run go (first ++ rest) w s =
      (Script.run go first >>= fun _ => Script.run go rest) w s := by
  induction first with
  | nil => intro s; rfl
  | cons source first ih =>
      -- the second part moves behind the rest of the first one, and that behind its first command
      intro s
      rw [List.cons_append, run_cons]
      calc (Play.heed go source >>= fun _ => Script.run go (first ++ rest)) w s
          = (Play.heed go source >>= fun _ =>
              Script.run go first >>= fun _ => Script.run go rest) w s :=
            Play.bind_congr rfl fun _ => ih _
        _ = ((Play.heed go source >>= fun _ => Script.run go first) >>= fun _ =>
              Script.run go rest) w s := (Play.bind_assoc_run _ _ _).symm
        _ = (Script.run go (source :: first) >>= fun _ => Script.run go rest) w s :=
            Play.bind_congr (run_cons go source first).symm fun _ => rfl

end Script

end Narrative
