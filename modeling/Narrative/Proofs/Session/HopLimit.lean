import Mathlib
import Narrative.Proofs.Session.Following

/-!
# The hop limit is only a guard

The same world with another hop limit is a twin of it for every state, and its places are the very
same ones. So a play under the higher limit is the play under the lower one, or goes on where that
one was cut off.
-/

namespace Narrative

/-- The world with another hop limit. -/
def World.withLimit (w : World) (limit : Nat) : World :=
  { w with settings := { w.settings with maxHops := limit } }

theorem World.withLimit_twin (w : World) (limit limit' : Nat) (s : State) :
    (w.withLimit limit).Twin (w.withLimit limit') s where
  frame := rfl
  screens := rfl
  relays _ := rfl
  newScreens _ _ := rfl
  newRelays _ _ := rfl

variable {w w' : World} {ε α : Type} {cut : ε → Prop}

/-- Worlds over one graph tell of one screen at one position. -/
theorem Event.Twin.eq (hgraph : w'.graph = w.graph) {event event' : Event}
    (h : event.Twin w w' event') : event' = event := by
  cases h with
  | same event => rfl
  | screenChanged h h' =>
      rw [hgraph, h] at h'
      rw [Option.some.inj h']

theorem Event.eq_of_forall₂_twin (hgraph : w'.graph = w.graph) {events events' : List Event}
    (h : List.Forall₂ (Event.Twin w w') events events') : events' = events := by
  induction h with
  | nil => rfl
  | cons hevent _ ih => rw [hevent.eq hgraph, ih]

theorem Trace.Twin.eq (hgraph : w'.graph = w.graph) {trace trace' : Trace}
    (h : Trace.Twin w w' trace trace') : trace' = trace := by
  induction h with
  | nil => rfl
  | cons hentry _ ih =>
      cases hentry with
      | same entry => rw [ih]
      | event hevent => rw [hevent.eq hgraph, ih]

/-- In worlds over one graph an outcome is followed by itself, unless it was cut off. -/
theorem Outcome.Followed.eq_or_cut (hgraph : w'.graph = w.graph) {first second : Outcome ε α}
    (h : first.Followed cut w w' second) :
    second = first ∨ ∃ error, first.result = .error error ∧ cut error ∧
      first.trace.events <+: second.trace.events := by
  cases h with
  | same hresult hstate htrace =>
      -- the two worlds have the same graph, so what was twin is equal
      have htrace := htrace.eq hgraph
      obtain ⟨result, state, trace⟩ := second
      dsimp only at hresult hstate htrace
      rw [hresult, hstate, htrace]
      exact .inl rfl
  | cutOff hlimit herror hcut hfront hshorter =>
      rw [Event.eq_of_forall₂_twin hgraph hfront] at hshorter
      exact .inr ⟨_, herror, hcut, hshorter⟩

/-- **The hop limit is only a guard.** A call that the lower limit does not cut off comes to the
same under the higher one, with the same trace; and if it is cut off, the host has been told a
first part of what it is told under the higher limit. -/
theorem hop_limit_only_guards (w : World) (s : State) {limit limit' : Nat}
    (hlimit : limit ≤ limit') (call : HostCall) :
    ((∀ hops, (call.play (w.withLimit limit) s).result ≠
        .error (.action (.navigationLoop hops))) →
      call.play (w.withLimit limit') s = call.play (w.withLimit limit) s) ∧
    ∀ hops, (call.play (w.withLimit limit) s).result = .error (.action (.navigationLoop hops)) →
      (call.play (w.withLimit limit) s).trace.events <+:
        (call.play (w.withLimit limit') s).trace.events := by
  have hfollows : Play.Follows SessionError.IsLoop (w.withLimit limit) (w.withLimit limit') s
      call.play call.play :=
    call.play_follows hlimit s
  have hgraph : (w.withLimit limit').graph = (w.withLimit limit).graph := rfl
  have hcases := (hfollows.followed (w.withLimit_twin limit limit' s)).eq_or_cut hgraph
  refine ⟨fun hnoLoop => ?_, fun hops hloop => ?_⟩
  · rcases hcases with hsame | ⟨error, herror, ⟨hops, rfl⟩, -⟩
    · exact hsame
    · -- a play that was cut off says so
      exact absurd herror (hnoLoop hops)
  · rcases hcases with hsame | ⟨error, -, -, hshorter⟩
    · -- both limits forbid the same entry
      have hevents := congrArg (·.trace.events) hsame
      exact hevents ▸ List.prefix_rfl
    · exact hshorter

/-- A story with a screen that leads back to itself and tells of it, and with a quiet one. -/
def World.echo : World where
  graph :=
    { name := "echo"
      title := "Echo"
      start := "cave"
      screens :=
        [{ name := some "cave", scripts := { always := ["message hello", "jump cave"] } },
          { name := some "valley" }]
      screenNames := .ofList [("cave", 0), ("valley", 1)] }

/-- A screen that leads back to itself is cut off by either limit, the lower one earlier. Where the
limit is not reached, it makes no difference. -/
theorem hop_limit_guards_echo :
    1 ≤ 3 ∧
      (HostCall.start.play (World.echo.withLimit 1) (.initial .echo)).result =
        .error (.action (.navigationLoop 1)) ∧
      (HostCall.start.play (World.echo.withLimit 1) (.initial .echo)).trace.events =
        [.messageChanged "hello"] ∧
      [.messageChanged "hello"] <+:
        (HostCall.start.play (World.echo.withLimit 3) (.initial .echo)).trace.events ∧
      ((HostCall.dispatch (.jump "valley")).play (World.echo.withLimit 1)
        (.initial .echo)).result = .ok .done ∧
      (HostCall.dispatch (.jump "valley")).play (World.echo.withLimit 3) (.initial .echo) =
        (HostCall.dispatch (.jump "valley")).play (World.echo.withLimit 1) (.initial .echo) := by
  have hloop : (HostCall.start.play (World.echo.withLimit 1) (.initial .echo)).result =
      .error (.action (.navigationLoop 1)) := by cbv
  have hevents : (HostCall.start.play (World.echo.withLimit 1) (.initial .echo)).trace.events =
      [.messageChanged "hello"] := by cbv
  have hdone : ((HostCall.dispatch (.jump "valley")).play (World.echo.withLimit 1)
      (.initial .echo)).result = .ok .done := by cbv
  have hlimit : 1 ≤ 3 := by decide
  refine ⟨hlimit, hloop, hevents, ?_, hdone, ?_⟩
  · rw [← hevents]
    exact (hop_limit_only_guards .echo (.initial .echo) hlimit .start).2 1 hloop
  · refine (hop_limit_only_guards .echo (.initial .echo) hlimit _).1 fun hops hcut => ?_
    rw [hdone] at hcut
    cases hcut

end Narrative
