import Mathlib
import Narrative.Proofs.Session.Agreement

/-!
# Navigation ends and unwinds

Screens and relays lead on to one another through their scripts, possibly in a circle. Entering a
place is therefore a recursion whose only measure is the depth: `descend` is one entry with the
entries inside it left open, and `unfolded` nests so many of them.

* **`go_eq_descend`** — entering a place solves the recursion equation.
* **`unfolded_eq_go`** — once it is unfolded more often than the hop limit leaves room for, the
  recursion does not depend on what stands innermost: it has ended before.
* **`navigation_ends_and_unwinds`** — the same for every call of a host, together with the bound on
  the depth and the return to the depth of the call.
-/

namespace Narrative

variable {w : World} {s : State}

namespace Play

/-- One entry of a place, with `go` for the entries inside it: the hop check, the way down, the
visit, and the way up. -/
def descend (go : Destination → Play ActionError Unit) (destination : Destination) :
    Play ActionError Unit := fun w s =>
  if w.settings.maxHops ≤ s.depth then refuseEntry w s
  else deeper (visit go destination) w s

/-- So many entries inside one another, with `innermost` in place of all further ones. -/
def unfolded (innermost : Destination → Play ActionError Unit) :
    Nat → Destination → Play ActionError Unit
  | 0 => innermost
  | n + 1 => descend (unfolded innermost n)

/-- At the limit no place is entered. -/
theorem descend_of_full {go : Destination → Play ActionError Unit} {destination : Destination}
    (h : w.settings.maxHops ≤ s.depth) : descend go destination w s = refuseEntry w s :=
  if_pos h

/-- Below the limit a place is visited one level deeper. -/
theorem descend_of_room {go : Destination → Play ActionError Unit} {destination : Destination}
    (h : s.depth < w.settings.maxHops) :
    descend go destination w s = deeper (visit go destination) w s :=
  if_neg (Nat.not_le.mpr h)

/-- An entry depends on the ways to other places one level deeper only. -/
theorem descend_agree {first : Destination → Play ActionError Unit}
    (hagree : AgreeAt w .all (s.depth + 1) first Play.go) (destination : Destination) :
    descend first destination w s = descend Play.go destination w s := by
  have hL := Licence.all_covers w
  have hvisit : visit first destination w s.down = visit Play.go destination w s.down :=
    visit_agree hL (go_tracked hL _) hagree rfl
  unfold descend
  rw [deeper_run, deeper_run, hvisit]

/-- **Entering a place solves the recursion equation.** -/
theorem go_eq_descend (destination : Destination) (w : World) (s : State) :
    Play.go destination w s = descend Play.go destination w s := by
  by_cases hroom : s.depth < w.settings.maxHops
  · -- the room that is left one level deeper is what `go` finds there
    have hagree : AgreeAt w .all (s.depth + 1) (enter (w.settings.maxHops - (s.depth + 1)))
        Play.go := by
      intro other _ s' hs'
      rw [Play.go, hs']
    rw [go_of_room hroom, ← descend_agree hagree, descend_of_room hroom]
  · have hfull := Nat.le_of_not_lt hroom
    rw [go_of_full hfull, descend_of_full hfull]

/-- **The recursion ends.** Unfolded more often than the hop limit leaves room for, it is what it is
whatever stands innermost. -/
theorem unfolded_eq_go (innermost : Destination → Play ActionError Unit) (n : Nat) :
    ∀ destination s, w.settings.maxHops - s.depth < n →
      unfolded innermost n destination w s = Play.go destination w s := by
  induction n with
  | zero => exact fun _ _ h => absurd h (Nat.not_lt_zero _)
  | succ n ih =>
      intro destination s h
      rw [go_eq_descend]
      show descend (unfolded innermost n) destination w s = _
      by_cases hroom : s.depth < w.settings.maxHops
      · -- one unfolding is used up for one entry that there is room for
        exact descend_agree (fun other _ s' hs' => ih other s' (by omega)) destination
      · -- where there is no room nothing inside is asked
        have hfull := Nat.le_of_not_lt hroom
        rw [descend_of_full hfull, descend_of_full hfull]

/-- A visit comes back to the depth at which it was made, so the way up behind it leads to where
the way down began. -/
theorem depth_visit (destination : Destination) (w : World) (s : State) :
    (visit Play.go destination w s).state.depth = s.depth :=
  have hL := Licence.all_covers w
  (visit_tracked hL (go_tracked hL s.depth) trivial s rfl).depth_eq

/-- Whatever an entry comes to, it leaves the depth as it was. -/
theorem depth_go (destination : Destination) (w : World) (s : State) :
    (Play.go destination w s).state.depth = s.depth :=
  (go_trail (Licence.all_covers w) trivial s).depth_eq

/-- Behind a script a place is entered as if the script had entered none. -/
theorem go_after_execute (script : Script) (destination : Destination)
    (h : s.depth < w.settings.maxHops) :
    Play.go destination w (execute script w s).state =
      deeper (visit Play.go destination) w (execute script w s).state := by
  have hdepth : (execute script w s).state.depth = s.depth :=
    HostCall.depth_play (.execute script) w s
  rw [go_eq_descend, descend_of_room (hdepth ▸ h)]

end Play

/-- Every call can be computed by unfolding the recursion often enough. -/
theorem HostCall.playBy_unfolded (innermost : Destination → Play ActionError Unit) {n : Nat}
    (h : w.settings.maxHops - s.depth < n) (call : HostCall) :
    call.playBy (Play.unfolded innermost n) w s = call.play w s := by
  have hL := Licence.all_covers w
  exact playBy_agree hL (Play.go_tracked hL s.depth)
    (fun destination _ s' hs' => Play.unfolded_eq_go innermost n destination s' (hs' ▸ h))
    call.admittedBy_all rfl

/-- Between two calls no entry is going on. -/
theorem State.Reachable.depth_eq_zero {allowed : HostCall → Prop}
    (h : State.Reachable w allowed s) : s.depth = 0 := by
  induction h with
  | initial => rfl
  | @call s _ call _ ih => exact (call.depth_play w s).trans ih

/-- **Navigation always ends and always unwinds.** Within the hop limit every entry of a place and
every call of a host has ended after finitely many nested entries; all states on the way stay
within the limit, going up from above zero only; and however it ends, it ends at the depth at
which it began. So a script does not use up hops by entering places one after the other, and
between the calls of a host the depth is zero. -/
theorem navigation_ends_and_unwinds (w : World) (s : State)
    (hs : s.depth ≤ w.settings.maxHops) :
    (∀ innermost n, w.settings.maxHops - s.depth < n →
      (∀ destination, Play.unfolded innermost n destination w s = Play.go destination w s) ∧
        ∀ call : HostCall, call.playBy (Play.unfolded innermost n) w s = call.play w s) ∧
    (∀ destination, Play.go destination w s = Play.descend Play.go destination w s) ∧
    (∀ destination,
      (Play.go destination w s).state.depth = s.depth ∧
        (∀ state ∈ (Play.go destination w s).trace.states,
          state.depth ≤ w.settings.maxHops) ∧
        Steps w .all s (Play.go destination w s).trace (Play.go destination w s).state ∧
        (Play.visit Play.go destination w s.down).state.depth = s.depth + 1) ∧
    (∀ call : HostCall,
      (call.play w s).state.depth = s.depth ∧
        (∀ state ∈ (call.play w s).trace.states, state.depth ≤ w.settings.maxHops) ∧
        Steps w .all s (call.play w s).trace (call.play w s).state) ∧
    (∀ script destination, s.depth < w.settings.maxHops →
      Play.go destination w (Play.execute script w s).state =
        Play.deeper (Play.visit Play.go destination) w (Play.execute script w s).state) ∧
    ∀ allowed state, State.Reachable w allowed state → state.depth = 0 := by
  have hL := Licence.all_covers w
  refine ⟨fun innermost n h => ⟨fun destination => Play.unfolded_eq_go innermost n destination s h,
      HostCall.playBy_unfolded innermost h⟩,
    fun destination => Play.go_eq_descend destination w s,
    fun destination => ?_, fun call => ?_,
    fun script destination h => Play.go_after_execute script destination h,
    fun _ _ h => h.depth_eq_zero⟩
  · -- an entry is a trail
    have htrail : Trail w .all s (Play.go destination w s) := Play.go_trail hL trivial s
    have hsteps := htrail.steps
    exact ⟨Play.depth_go destination w s, (hsteps.depth_le hs).2, hsteps,
      Play.depth_visit destination w s.down⟩
  · -- a call is a course of such trails and of steps between them
    have hsteps := (call.course hL call.admittedBy_all s).steps
    exact ⟨call.depth_play w s, (hsteps.depth_le hs).2, hsteps⟩

/-- A story whose only screen leads to itself, with room for two entries. -/
def World.circle : World where
  graph :=
    { name := "circle"
      title := "Circle"
      start := "a"
      screens := [{ name := some "a", scripts := { always := ["jump a"] } }]
      screenNames := .ofList [("a", 0)] }
  settings := { maxHops := 2 }

/-- Two screens that lead to each other are given up at the limit, and the depth is zero again. -/
theorem navigation_unwinds_in_circle :
    (State.initial .circle).depth ≤ 2 ∧
      (HostCall.start.play .circle (.initial .circle)).result =
        .error (.action (.navigationLoop 2)) ∧
      (HostCall.start.play .circle (.initial .circle)).state.depth = 0 ∧
      ∀ state ∈ (HostCall.start.play .circle (.initial .circle)).trace.states, state.depth ≤ 2 := by
  have hs : (State.initial .circle).depth ≤ 2 := by decide
  have hresult : (HostCall.start.play .circle (.initial .circle)).result =
      .error (.action (.navigationLoop 2)) := by cbv
  obtain ⟨-, -, -, hcalls, -⟩ := navigation_ends_and_unwinds .circle (.initial .circle) hs
  exact ⟨hs, hresult, (hcalls .start).1, (hcalls .start).2.1⟩

end Narrative
