import Narrative.Proofs.Session.Command

/-!
# Entering places, equation by equation

The operations of navigation by the cases that their definitions distinguish: a place is seen or
new, exists or does not, and the hop limit leaves room for one more entry or does not.
-/

namespace Narrative

/-- Whether a destination is a place of the graph. -/
def Destination.ExistsIn (graph : Graph) : Destination → Prop
  | .screen index => index < graph.screens.length
  | .relay name => graph.relays.contains name = true

instance (graph : Graph) (destination : Destination) : Decidable (destination.ExistsIn graph) := by
  cases destination <;> unfold Destination.ExistsIn <;> infer_instance

/-- The error of entering a place that does not exist. -/
def Destination.missing : Destination → ActionError
  | .screen index => .outOfRange index
  | .relay name => .unknownRelay name

theorem Graph.screen?_eq_none {graph : Graph} {index : Nat}
    (h : ¬ (Destination.screen index).ExistsIn graph) : graph.screen? index = none :=
  List.getElem?_eq_none (Nat.le_of_not_lt h)

theorem Graph.relay?_eq_none {graph : Graph} {name : String}
    (h : ¬ (Destination.relay name).ExistsIn graph) : graph.relay? name = none := by
  simpa [Destination.ExistsIn, Registry.contains, Graph.relay?] using h

/-- A position that leads somewhere has a screen. -/
theorem Graph.exists_screen? {graph : Graph} {index : Nat}
    (h : (Destination.screen index).ExistsIn graph) : ∃ screen, graph.screen? index = some screen :=
  ⟨_, List.getElem?_eq_getElem h⟩

/-- A name that leads somewhere has a relay. -/
theorem Graph.exists_relay? {graph : Graph} {name : String}
    (h : (Destination.relay name).ExistsIn graph) : ∃ relay, graph.relay? name = some relay :=
  Option.isSome_iff_exists.mp h

namespace State

/-- One entry deeper. -/
def down (s : State) : State := { s with depth := s.depth + 1 }

/-- One entry higher. -/
def up (s : State) : State := { s with depth := s.depth - 1 }

@[simp] theorem depth_down (s : State) : s.down.depth = s.depth + 1 := rfl

@[simp] theorem depth_up (s : State) : s.up.depth = s.depth - 1 := rfl

/-- With a screen marked as entered. -/
def seeScreen (s : State) (index : Nat) : State := { s with seenScreens := index :: s.seenScreens }

/-- With a relay marked as entered. -/
def seeRelay (s : State) (name : String) : State := { s with seenRelays := name :: s.seenRelays }

/-- With a screen marked as entered, unless it is so already. -/
def markedScreen (s : State) (index : Nat) : State :=
  if index ∈ s.seenScreens then s else s.seeScreen index

/-- With a relay marked as entered, unless it is so already. -/
def markedRelay (s : State) (name : String) : State :=
  if name ∈ s.seenRelays then s else s.seeRelay name

end State

/-- What runs on a visit of a place, as one script. -/
def StageScripts.due (scripts : StageScripts) (seen : Bool) : Script :=
  if seen then scripts.always else scripts.once ++ scripts.always

namespace Play

variable {go : Destination → Play ActionError Unit} {w : World} {s : State}

/-! ## The scripts of a place -/

/-- Runs the scripts of a place; one that is new is marked first, and runs `once` as well. -/
def staged (go : Destination → Play ActionError Unit) (seen : Bool) (mark : State → State)
    (scripts : StageScripts) : Play ActionError Unit :=
  if seen then Script.run go scripts.always
  else
    update mark >>= fun _ => Script.run go scripts.once >>= fun _ => Script.run go scripts.always

/-- A screen is staged as its scripts are, marked as seen by its position. -/
theorem stageScreen_run (index : Nat) (screen : Screen) :
    stageScreen go index screen w s =
      staged go (decide (index ∈ s.seenScreens)) (·.seeScreen index) screen.scripts w s := by
  rw [stageScreen, state_bind, staged]
  by_cases hseen : index ∈ s.seenScreens
  · rw [if_pos hseen, if_pos (decide_eq_true hseen)]
  · rw [if_neg hseen, if_neg (by simpa using hseen)]
    rfl

/-- A relay is staged as its scripts are, marked as seen by its name. -/
theorem stageRelay_run (relay : Relay) (name : String) :
    stageRelay go relay name w s =
      staged go (decide (name ∈ s.seenRelays)) (·.seeRelay name) relay.scripts w s := by
  rw [stageRelay, state_bind, staged]
  by_cases hseen : name ∈ s.seenRelays
  · rw [if_pos hseen, if_pos (decide_eq_true hseen)]
  · rw [if_neg hseen, if_neg (by simpa using hseen)]
    rfl

/-- A place that was not seen is marked first, so what its scripts run into finds it seen. -/
theorem staged_of_new (mark : State → State) (scripts : StageScripts) :
    staged go false mark scripts w s =
      ((Script.run go scripts.once >>= fun _ => Script.run go scripts.always) w (mark s)).after
        [⟨.change, mark s⟩] := rfl

/-- The scripts of a place come to one script from the marked state, but for the record of marking
it. -/
theorem staged_due (go : Destination → Play ActionError Unit) (w : World) (s : State) (seen : Bool)
    (mark : State → State) (scripts : StageScripts) :
    ∃ front : Trace, front.events = [] ∧ staged go seen mark scripts w s =
      (Script.run go (scripts.due seen) w (if seen then s else mark s)).after front := by
  cases seen with
  | true => exact ⟨[], rfl, rfl⟩
  | false =>
      refine ⟨[⟨.change, mark s⟩], rfl, ?_⟩
      rw [staged_of_new, StageScripts.due, if_neg Bool.false_ne_true, if_neg Bool.false_ne_true,
        Script.run_append]

/-- The scripts of a screen, as one script from the state with the screen marked. -/
theorem stageScreen_due (go : Destination → Play ActionError Unit) (w : World) (s : State)
    (index : Nat) (screen : Screen) :
    ∃ mark : Trace, mark.events = [] ∧ stageScreen go index screen w s =
      (Script.run go (screen.scripts.due (decide (index ∈ s.seenScreens))) w
        (s.markedScreen index)).after mark := by
  obtain ⟨mark, hmark, hstage⟩ := staged_due go w s (decide (index ∈ s.seenScreens))
    (·.seeScreen index) screen.scripts
  refine ⟨mark, hmark, ?_⟩
  rw [stageScreen_run, hstage, State.markedScreen]
  simp only [decide_eq_true_eq]

/-- The scripts of a relay, as one script from the state with the relay marked. -/
theorem stageRelay_due (go : Destination → Play ActionError Unit) (w : World) (s : State)
    (relay : Relay) (name : String) :
    ∃ mark : Trace, mark.events = [] ∧ stageRelay go relay name w s =
      (Script.run go (relay.scripts.due (decide (name ∈ s.seenRelays))) w
        (s.markedRelay name)).after mark := by
  obtain ⟨mark, hmark, hstage⟩ := staged_due go w s (decide (name ∈ s.seenRelays))
    (·.seeRelay name) relay.scripts
  refine ⟨mark, hmark, ?_⟩
  rw [stageRelay_run, hstage, State.markedRelay]
  simp only [decide_eq_true_eq]

/-! ## Visits -/

/-- Makes a screen current and tells the host. -/
def arrive (index : Nat) (screen : Screen) : Play ActionError Unit := do
  update fun state => { state with current := some index }
  note (.screenChanged screen.label)
  emit (.screenChanged screen)

/-- A visit to a screen runs its scripts and then arrives. -/
theorem visitScreen_of_some {index : Nat} {screen : Screen}
    (h : w.graph.screen? index = some screen) :
    visitScreen go index w s =
      (stageScreen go index screen >>= fun _ => arrive index screen) w s := by
  rw [visitScreen, world_bind, h]
  rfl

/-- A visit to a relay runs its scripts and then takes a fork. -/
theorem visitRelay_of_some {name : String} {relay : Relay} (h : w.graph.relay? name = some relay) :
    visitRelay go name w s =
      (stageRelay go relay name >>= fun _ => takeFork go relay name) w s := by
  rw [visitRelay, world_bind, h]

/-- A place that does not exist is not visited: nothing happens but the failure. -/
theorem visit_of_missing {destination : Destination} (h : ¬ destination.ExistsIn w.graph) :
    visit go destination w s = ⟨.error destination.missing, s, []⟩ := by
  cases destination with
  | screen index =>
      rw [visit, visitScreen, world_bind, Graph.screen?_eq_none h]
      rfl
  | relay name =>
      rw [visit, visitRelay, world_bind, Graph.relay?_eq_none h]
      rfl

/-- What a relay does behind its scripts, by the fork that its guards select. -/
theorem takeFork_run (relay : Relay) (name : String) :
    takeFork go relay name w s =
      (match relay.selectFork (s.context w) with
        | .error error => (⟨.error (.expr error), s, []⟩ : Outcome ActionError Unit)
        | .ok none => ⟨.ok (), s, [⟨.notice (.noForkMatched name), s⟩]⟩
        | .ok (some index) =>
          Script.run go ((relay.forks[index]?.map Fork.action).getD []) w s).after
        (remarkTrace w s (Fork.remarks (s.context w) relay.forks)) := by
  rw [takeFork, world_bind, state_bind, noteRemarks_bind]
  cases relay.selectFork (s.context w) with
  | error error => rfl
  | ok found =>
      cases found with
      | none => rfl
      | some index => rfl

/-! ## One level deeper -/

/-- An operation one level deeper has the result of the operation. What it does lies between the
two changes of the depth. -/
theorem deeper_run (play : Play ActionError Unit) :
    deeper play w s =
      ⟨(play w s.down).result, (play w s.down).state.up,
        ⟨.change, s.down⟩ :: (play w s.down).trace ++ [⟨.change, (play w s.down).state.up⟩]⟩ := by
  rw [deeper, update_bind, attempt_bind, update_bind, ofExcept_run]
  rfl

/-- Where the hop limit is reached no place is entered. -/
theorem go_of_full {destination : Destination} (h : w.settings.maxHops ≤ s.depth) :
    Play.go destination w s = refuseEntry w s := by
  rw [Play.go, Nat.sub_eq_zero_of_le h]
  rfl

/-- Where the hop limit leaves room the place is visited one level deeper. -/
theorem go_of_room {destination : Destination} (h : s.depth < w.settings.maxHops) :
    Play.go destination w s =
      deeper (visit (enter (w.settings.maxHops - (s.depth + 1))) destination) w s := by
  have hroom : w.settings.maxHops - s.depth = w.settings.maxHops - (s.depth + 1) + 1 := by omega
  rw [Play.go, hroom]
  rfl

end Play

end Narrative
