import Narrative.Proofs.Session.Navigation

/-!
# Arriving

An entry of a screen that goes well ends with the screen as the current one. The entries within it
are over by then, so it is the outermost entry that decides where the player ends up.
-/

namespace Narrative.Play

variable {go : Destination → Play ActionError Unit} {w : World} {s : State} {index : Nat}

/-- Arriving sets the current screen, and logs it before the event is told. -/
theorem arrive_run (screen : Screen) :
    arrive index screen w s =
      ⟨.ok (), { s with current := some index },
        [⟨.change, { s with current := some index }⟩,
          ⟨.notice (.screenChanged screen.label), { s with current := some index }⟩,
          ⟨.event (.screenChanged screen), { s with current := some index }⟩]⟩ := rfl

/-- A visit that goes well has found the screen and made it the current one. -/
theorem visitScreen_of_ok (h : (visitScreen go index w s).result = .ok ()) :
    (visitScreen go index w s).state.current = some index ∧
      ∃ screen, w.graph.screen? index = some screen := by
  by_cases hexists : (Destination.screen index).ExistsIn w.graph
  · obtain ⟨screen, hscreen⟩ := Graph.exists_screen? hexists
    rw [visitScreen_of_some hscreen] at h ⊢
    rcases hstage : stageScreen go index screen w s with ⟨result, s', trace⟩
    cases result with
    | error error =>
        -- scripts that fail end the visit before the screen becomes current
        rw [bind_of_error hstage] at h
        nomatch h
    | ok value =>
        rw [bind_of_ok hstage, arrive_run]
        exact ⟨rfl, screen, hscreen⟩
  · have hmissing : visitScreen go index w s = ⟨.error (.outOfRange index), s, []⟩ :=
      visit_of_missing hexists
    rw [hmissing] at h
    nomatch h

/-- **An entry that goes well arrives.** -/
theorem current_of_go_ok (h : (Play.go (.screen index) w s).result = .ok ()) :
    (Play.go (.screen index) w s).state.current = some index ∧
      ∃ screen, w.graph.screen? index = some screen := by
  by_cases hroom : s.depth < w.settings.maxHops
  · rw [go_of_room hroom, deeper_run] at h ⊢
    -- going back up leaves the current screen alone
    exact visitScreen_of_ok h
  · rw [go_of_full (Nat.le_of_not_lt hroom)] at h
    nomatch h

/-- So the current screen is the one at the position that was entered. -/
theorem currentScreen_of_go_ok (h : (Play.go (.screen index) w s).result = .ok ()) :
    (Play.go (.screen index) w s).state.currentScreen? w = w.graph.screen? index := by
  rw [State.currentScreen?, (current_of_go_ok h).1, Option.bind_some]

end Narrative.Play
