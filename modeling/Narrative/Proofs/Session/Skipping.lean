import Mathlib
import Narrative.Proofs.Session.Navigation

/-!
# Skipped commands leave no trace

A script skips the commands that fail harmlessly. This module says why that is sound: a harmless
failure comes before anything has happened.

* **`run_failsFatally`** — a script never fails but fatally, whatever its commands lead to. So a
  place that exists is entered and left without a harmless failure (`visit_failsFatally`), and
  none can leak out of a nested entry.
* **`performSource_harmless`** — a command that fails harmlessly has left the state as it was, and
  the host was told nothing.
* **`Script.unskipped`** — the commands of a script that are not skipped; running them alone
  comes to the same.
-/

namespace Narrative

variable {w : World} {s : State} {α β : Type}

namespace Play

/-! ## Where only fatal failures come out -/

/-- The operation fails in no other way than fatally. -/
def FailsFatally (w : World) (play : Play ActionError α) : Prop :=
  ∀ s error, (play w s).result = .error error → error.isFatal = true

/-- Plays in a row fail fatally if each of them does. -/
theorem FailsFatally.bind {first : Play ActionError α} {next : α → Play ActionError β}
    (hfirst : FailsFatally w first) (hnext : ∀ value, FailsFatally w (next value)) :
    FailsFatally w (first >>= next) := by
  intro s error h
  rcases hrun : first w s with ⟨result, s', trace⟩
  cases result with
  | ok value =>
      rw [bind_of_ok hrun] at h
      exact hnext value s' error h
  | error found =>
      rw [bind_of_error hrun] at h
      cases h
      exact hfirst s error (by rw [hrun])

variable (go : Destination → Play ActionError Unit)

/-- What a script heeds fails fatally or not at all, since other failures are skipped. -/
theorem heed_failsFatally (source : String) : FailsFatally w (heed go source) := by
  intro s error h
  cases heeding go source w s with
  | done hrun => rw [heed_of_ok hrun] at h; nomatch h
  | skip hrun hfatal => rw [heed_of_skip hrun hfatal] at h; nomatch h
  | fatal hrun hfatal =>
      rw [heed_of_fatal hrun hfatal] at h
      cases h
      exact hfatal

/-- A script passes on fatal failures only. -/
theorem run_failsFatally (script : Script) : FailsFatally w (Script.run go script) := by
  induction script with
  | nil => intro s error h; nomatch h
  | cons source rest ih =>
      -- the failure is that of the first command or that of the rest
      intro s error h
      rw [Script.run_cons] at h
      exact (heed_failsFatally go source).bind (fun _ => ih) s error h

/-- The scripts of a stage fail fatally or not at all. -/
theorem staged_failsFatally (seen : Bool) (mark : State → State) (scripts : StageScripts) :
    FailsFatally w (staged go seen mark scripts) := by
  intro s error h
  cases seen with
  | true => exact run_failsFatally go _ s error h
  | false =>
      rw [staged_of_new] at h
      exact (run_failsFatally go _).bind (fun _ => run_failsFatally go _) _ error h

theorem takeFork_failsFatally (relay : Relay) (name : String) :
    FailsFatally w (takeFork go relay name) := by
  intro s error h
  rw [takeFork_run] at h
  cases hfork : relay.selectFork (s.context w) with
  | error found => rw [hfork] at h; cases h; rfl
  | ok found =>
      rw [hfork] at h
      cases found with
      | none => nomatch h
      | some index => exact run_failsFatally go _ s error h

/-- A place that exists is visited without a harmless failure. -/
theorem visit_failsFatally {destination : Destination} (h : destination.ExistsIn w.graph) :
    FailsFatally w (visit go destination) := by
  intro s error herror
  cases destination with
  | screen index =>
      obtain ⟨screen, hscreen⟩ := Graph.exists_screen? h
      rw [visit, visitScreen_of_some hscreen] at herror
      have hstage : FailsFatally w (stageScreen go index screen) := fun s error h =>
        staged_failsFatally go _ _ _ s error (stageScreen_run index screen ▸ h)
      refine hstage.bind (fun _ => ?_) s error herror
      -- behind the scripts nothing can fail any more
      intro s error h
      cases h
  | relay name =>
      obtain ⟨relay, hrelay⟩ := Graph.exists_relay? h
      rw [visit, visitRelay_of_some hrelay] at herror
      have hstage : FailsFatally w (stageRelay go relay name) := fun s error h =>
        staged_failsFatally go _ _ _ s error (stageRelay_run relay name ▸ h)
      exact hstage.bind (fun _ => takeFork_failsFatally go relay name) s error herror

/-- A place that exists is entered without a harmless failure. -/
theorem go_failsFatally {destination : Destination} (hexists : destination.ExistsIn w.graph) :
    FailsFatally w (Play.go destination) := by
  intro s error h
  by_cases hroom : s.depth < w.settings.maxHops
  · rw [go_of_room hroom, deeper_run] at h
    exact visit_failsFatally _ hexists _ error h
  · rw [go_of_full (Nat.le_of_not_lt hroom)] at h
    cases h
    rfl

/-- Entering a place fails fatally, or the place does not exist and nothing is left of the
attempt. -/
theorem go_error_cases {destination : Destination} {error : ActionError}
    (h : (Play.go destination w s).result = .error error) :
    error.isFatal = true ∨ (Play.go destination w s).state = s ∧
      (Play.go destination w s).trace.events = [] := by
  by_cases hexists : destination.ExistsIn w.graph
  · exact .inl (go_failsFatally hexists s error h)
  · by_cases hroom : s.depth < w.settings.maxHops
    · -- the visit does nothing, and the depth goes down and up again
      rw [go_of_room hroom, deeper_run, visit_of_missing hexists]
      exact .inr ⟨rfl, rfl⟩
    · rw [go_of_full (Nat.le_of_not_lt hroom)] at h
      cases h
      exact .inl rfl

/-! ## Harmless failures -/

/-- A command that fails harmlessly has changed nothing and told the host nothing. -/
theorem dispatch_harmless {command : Command} {error : ActionError}
    (h : (dispatch command w s).result = .error error) (hfatal : error.isFatal = false) :
    (dispatch command w s).state = s ∧ (dispatch command w s).trace.events = [] := by
  have hcases : Command.Performed Play.go w s command (dispatch command w s) :=
    perform_performed Play.go w s command
  generalize dispatch command w s = outcome at h hcases ⊢
  cases hcases with
  | fails => exact ⟨rfl, rfl⟩
  | leads deed hleads =>
      -- an entry fails before it begins, or else its error is fatal
      rcases go_error_cases h with hfatal' | ⟨hstate, hevents⟩
      · rw [hfatal] at hfatal'
        nomatch hfatal'
      · exact ⟨hstate, hevents⟩
  | acts => nomatch h

/-- The same for the source of a command, which may also be no command. -/
theorem performSource_harmless {source : String} {error : ActionError}
    (h : (performSource Play.go source w s).result = .error error)
    (hfatal : error.isFatal = false) :
    (performSource Play.go source w s).state = s ∧
      (performSource Play.go source w s).trace.events = [] := by
  cases hparse : Command.parse source with
  | error found =>
      rw [performSource_of_error hparse]
      exact ⟨rfl, rfl⟩
  | ok command =>
      rw [performSource_of_ok hparse] at h ⊢
      exact dispatch_harmless h hfatal

end Play

namespace Script

/-! ## Scripts without the commands that they skip -/

/-- The commands of a script that are not skipped when it is performed from a state. Behind a
command that fails fatally nothing is performed, and so nothing is skipped. -/
def unskipped (w : World) (s : State) : Script → Script
  | [] => []
  | source :: rest =>
    match Play.performSource Play.go source w s with
    | ⟨.ok _, s', _⟩ => source :: unskipped w s' rest
    | ⟨.error error, s', _⟩ =>
      if error.isFatal then source :: rest else unskipped w s' rest

variable {source : String} {rest : Script} {error : ActionError} {s' : State} {trace : Trace}

/-- A command that is performed is kept. -/
theorem unskipped_of_ok (h : Play.performSource Play.go source w s = ⟨.ok (), s', trace⟩) :
    unskipped w s (source :: rest) = source :: unskipped w s' rest := by
  rw [unskipped, h]

/-- A command that is skipped is left out. -/
theorem unskipped_of_skip (h : Play.performSource Play.go source w s = ⟨.error error, s', trace⟩)
    (hfatal : error.isFatal = false) :
    unskipped w s (source :: rest) = unskipped w s' rest := by
  rw [unskipped, h]
  simp [hfatal]

/-- Where a script is cut off, the rest is kept as it stands. -/
theorem unskipped_of_fatal (h : Play.performSource Play.go source w s = ⟨.error error, s', trace⟩)
    (hfatal : error.isFatal = true) : unskipped w s (source :: rest) = source :: rest := by
  rw [unskipped, h]
  simp [hfatal]

/-- Nothing is added and the order is kept. -/
theorem unskipped_sublist (script : Script) : ∀ s, (unskipped w s script).Sublist script := by
  induction script with
  | nil => exact fun _ => .slnil
  | cons source rest ih =>
      intro s
      cases Play.heeding Play.go source w s with
      | done h => rw [unskipped_of_ok h]; exact (ih _).cons_cons source
      | skip h hfatal => rw [unskipped_of_skip h hfatal]; exact (ih _).cons source
      | fatal h hfatal =>
          have hkept : unskipped w s (source :: rest) = source :: rest :=
            unskipped_of_fatal h hfatal
          exact hkept.symm ▸ .refl _

/-- What is left has nothing more to skip. -/
theorem unskipped_unskipped (script : Script) :
    ∀ s, unskipped w s (unskipped w s script) = unskipped w s script := by
  induction script with
  | nil => exact fun _ => rfl
  | cons source rest ih =>
      intro s
      cases Play.heeding Play.go source w s with
      | done h => rw [unskipped_of_ok h, unskipped_of_ok h, ih]
      | skip h hfatal =>
          -- the rest is left from the state behind the skipped command, which is this one
          have hstate := (Play.performSource_harmless (by rw [h]) hfatal).1
          rw [h] at hstate
          rw [unskipped_of_skip h hfatal, ← hstate]
          exact ih _
      | fatal h hfatal => rw [unskipped_of_fatal h hfatal, unskipped_of_fatal h hfatal]

/-- Two outcomes that a host cannot tell apart: they differ in notices and passing changes of the
state at most. -/
structure SameForHost (first second : Outcome ActionError Unit) : Prop where
  result : first.result = second.result
  state : first.state = second.state
  events : first.trace.events = second.trace.events

/-- Two runs that are the same for the host as a third are the same for it. -/
theorem SameForHost.trans {first second third : Outcome ActionError Unit}
    (h : SameForHost first second) (h' : SameForHost second third) : SameForHost first third :=
  ⟨h.result.trans h'.result, h.state.trans h'.state, h.events.trans h'.events⟩

/-- A host hears nothing of notices in front. -/
theorem SameForHost.of_quiet (outcome : Outcome ActionError Unit) {front : Trace}
    (h : front.events = []) : SameForHost (outcome.after front) outcome :=
  ⟨rfl, rfl, by simp [h]⟩

theorem SameForHost.after {first second : Outcome ActionError Unit} {front front' : Trace}
    (h : SameForHost first second) (hfront : front.events = front'.events) :
    SameForHost (first.after front) (second.after front') where
  result := h.result
  state := h.state
  events := by simp [h.events, hfront]

/-- The commands that are not skipped come to the same as the whole script. -/
theorem run_unskipped (script : Script) :
    ∀ s, SameForHost (Play.execute (unskipped w s script) w s) (Play.execute script w s) := by
  induction script with
  | nil => exact fun _ => ⟨rfl, rfl, rfl⟩
  | cons source rest ih =>
      intro s
      cases Play.heeding Play.go source w s with
      | done h =>
          rw [unskipped_of_ok h, Play.execute, Play.execute, run_cons, run_cons,
            Play.bind_of_ok (Play.heed_of_ok h), Play.bind_of_ok (Play.heed_of_ok h)]
          exact (ih _).after rfl
      | @skip s' trace error h hfatal =>
          -- the skipped command left the state as it was, so the rest starts there in both runs
          have hharmless := Play.performSource_harmless (by rw [h]) hfatal
          rw [h] at hharmless
          obtain ⟨hstate, hevents⟩ := hharmless
          dsimp only at hstate hevents
          subst hstate
          rw [unskipped_of_skip h hfatal]
          show SameForHost _ (Script.run Play.go (source :: rest) w _)
          rw [run_cons, Play.bind_of_ok (Play.heed_of_skip h hfatal)]
          have hnone : Trace.events [] =
              (trace ++ [TraceEntry.skipped source error s']).events := by
            rw [Trace.events_append, hevents]
            rfl
          exact (ih s').after hnone
      | fatal h hfatal => rw [unskipped_of_fatal h hfatal]; exact ⟨rfl, rfl, rfl⟩

/-- **Behind a fatal failure nothing happens.** What went before stays done, and the outcome does
not depend on the rest. -/
theorem execute_of_fatal {front : Script} (hfront : (Play.execute front w s).result = .ok ())
    (herror : (Play.performSource Play.go source w (Play.execute front w s).state).result =
      .error error) (hfatal : error.isFatal = true) :
    Play.execute (front ++ source :: rest) w s =
      (Play.performSource Play.go source w (Play.execute front w s).state).after
        (Play.execute front w s).trace := by
  simp only [Play.execute] at hfront herror ⊢
  rcases hrun : Script.run Play.go front w s with ⟨result, s', trace⟩
  rw [hrun] at hfront herror
  cases hfront
  rcases hsource : Play.performSource Play.go source w s' with ⟨result, s'', trace'⟩
  rw [hsource] at herror
  cases herror
  -- the fatal error is not heeded as a skip, so `rest` never runs
  rw [run_append, Play.bind_of_ok hrun, run_cons,
    Play.bind_of_error (Play.heed_of_fatal hsource hfatal)]

/-- A script that fails has a first command at which it does. -/
theorem exists_fatal_of_error (script : Script) :
    ∀ s, (Play.execute script w s).result = .error error →
      ∃ front source rest, script = front ++ source :: rest ∧
        (Play.execute front w s).result = .ok () ∧
        (Play.performSource Play.go source w (Play.execute front w s).state).result =
          .error error := by
  induction script with
  | nil => intro s h; nomatch h
  | cons source rest ih =>
      intro s h
      -- a command that is heeded joins the front part; one that fails fatally ends it
      have hheeded : ∀ {s' trace}, Play.heed Play.go source w s = ⟨.ok (), s', trace⟩ →
          ∃ front source' rest', source :: rest = front ++ source' :: rest' ∧
            (Play.execute front w s).result = .ok () ∧
            (Play.performSource Play.go source' w (Play.execute front w s).state).result =
              .error error := by
        intro s' trace hheed
        rw [Play.execute, run_cons, Play.bind_of_ok hheed] at h
        obtain ⟨front, source', rest', hsplit, hok, herror⟩ := ih s' h
        have hfront : Play.execute (source :: front) w s =
            (Play.execute front w s').after trace := by
          rw [Play.execute, run_cons, Play.bind_of_ok hheed]
          rfl
        refine ⟨source :: front, source', rest', by rw [hsplit, List.cons_append], ?_, ?_⟩
        · rw [hfront]; exact hok
        · rw [hfront]; exact herror
      cases Play.heeding Play.go source w s with
      | done hsource => exact hheeded (Play.heed_of_ok hsource)
      | skip hsource hfatal => exact hheeded (Play.heed_of_skip hsource hfatal)
      | fatal hsource hfatal =>
          rw [Play.execute, run_cons,
            Play.bind_of_error (Play.heed_of_fatal hsource hfatal)] at h
          refine ⟨[], source, rest, rfl, rfl, ?_⟩
          show (Play.performSource Play.go source w s).result = _
          rw [hsource]
          exact h

/-- **Skipped commands leave no trace.** A command that fails harmlessly, be it given as a source
or as a command, has left the whole state as it was and told the host nothing. So a script fails
in no other way than fatally, comes to the same as its commands that are not skipped, and ends at
the first fatal failure with what was done before. -/
theorem skipped_commands_leave_no_trace (w : World) (s : State) :
    (∀ source error, (Play.performSource Play.go source w s).result = .error error →
      error.isFatal = false →
      (Play.performSource Play.go source w s).state = s ∧
        (Play.performSource Play.go source w s).trace.events = []) ∧
    (∀ command error, (Play.dispatch command w s).result = .error error →
      error.isFatal = false →
      (Play.dispatch command w s).state = s ∧ (Play.dispatch command w s).trace.events = []) ∧
    (∀ script error, (Play.execute script w s).result = .error error → error.isFatal = true) ∧
    (∀ script,
      SameForHost (Play.execute (unskipped w s script) w s) (Play.execute script w s) ∧
        (unskipped w s script).Sublist script ∧
        unskipped w s (unskipped w s script) = unskipped w s script) ∧
    (∀ front source rest error, (Play.execute front w s).result = .ok () →
      (Play.performSource Play.go source w (Play.execute front w s).state).result =
        .error error →
      error.isFatal = true →
      Play.execute (front ++ source :: rest) w s =
        (Play.performSource Play.go source w (Play.execute front w s).state).after
          (Play.execute front w s).trace) ∧
    (∀ script error, (Play.execute script w s).result = .error error →
      ∃ front source rest, script = front ++ source :: rest ∧
        (Play.execute front w s).result = .ok () ∧
        (Play.performSource Play.go source w (Play.execute front w s).state).result =
          .error error) :=
  ⟨fun _ _ h hfatal => Play.performSource_harmless h hfatal,
    fun _ _ h hfatal => Play.dispatch_harmless h hfatal,
    fun script error h => Play.run_failsFatally Play.go script s error h,
    fun script => ⟨run_unskipped script s, unskipped_sublist script s,
      unskipped_unskipped script s⟩,
    fun _ _ _ _ hfront herror hfatal => execute_of_fatal hfront herror hfatal,
    fun script _ h => exists_fatal_of_error script s h⟩

end Script

/-- A story without screens, items and recipes. -/
def World.void : World where
  graph := { name := "void", title := "Void", start := "nowhere" }

/-- A jump to nowhere, skipped in front of a message. -/
theorem skipped_jump_leaves_no_trace :
    (Play.performSource Play.go "jump nowhere" .void (.initial .void)).result =
        .error (.unknownScreen "nowhere") ∧
      (Play.performSource Play.go "jump nowhere" .void (.initial .void)).state =
        .initial .void ∧
      (Play.execute ["message hi"] .void (.initial .void)).trace.events =
        (Play.execute ["jump nowhere", "message hi"] .void (.initial .void)).trace.events := by
  have hresult : (Play.performSource Play.go "jump nowhere" .void (.initial .void)).result =
      .error (.unknownScreen "nowhere") := by cbv
  -- only the message is left of the script
  have hkept : Script.unskipped .void (.initial .void) ["jump nowhere", "message hi"] =
      ["message hi"] := by cbv
  obtain ⟨hharmless, -, -, hscript, -⟩ :=
    Script.skipped_commands_leave_no_trace .void (.initial .void)
  have hsame := (hscript ["jump nowhere", "message hi"]).1
  rw [hkept] at hsame
  exact ⟨hresult, (hharmless "jump nowhere" _ hresult rfl).1, hsame.events⟩

end Narrative
