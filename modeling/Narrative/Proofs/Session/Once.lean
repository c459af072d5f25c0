import Mathlib
import Narrative.Proofs.Session.Following

/-!
# A `once` script runs once

The first visit marks a place before its scripts run, and marks stay. From then on nothing depends
on the `once` script any more: worlds that differ in such scripts only are played in alike, whatever
a host does.
-/

namespace Narrative

variable {w w' : World} {s : State}

/-! ## What twins have in common -/

/-- The event with the screen as it is apart from the script of its first visit. -/
def Event.lasting : Event → Event
  | .screenChanged screen => .screenChanged screen.lasting
  | event => event

/-- Twin events tell the same of what lasts. -/
theorem Event.Twin.lasting (htwin : w.Twin w' s) {event event' : Event}
    (h : event.Twin w w' event') : event'.lasting = event.lasting := by
  cases h with
  | same event => rfl
  | @screenChanged index screen screen' h h' =>
      have hlasting := htwin.screen?_lasting index
      rw [h, h', Option.map_some, Option.map_some, Option.some.injEq] at hlasting
      exact congrArg Event.screenChanged hlasting

/-- Twin traces tell the same of what lasts. -/
theorem Trace.Twin.lasting (htwin : w.Twin w' s) {trace trace' : Trace}
    (h : Trace.Twin w w' trace trace') :
    trace'.events.map Event.lasting = trace.events.map Event.lasting := by
  have hevents := h.events
  generalize trace.events = events, trace'.events = events' at hevents
  induction hevents with
  | nil => rfl
  | cons hevent _ ih => rw [List.map_cons, List.map_cons, hevent.lasting htwin, ih]

/-- Twin traces pass through the same states. -/
theorem Trace.Twin.states {trace trace' : Trace} (h : Trace.Twin w w' trace trace') :
    trace'.states = trace.states := by
  induction h with
  | nil => rfl
  | cons hentry _ ih =>
      rw [Trace.states, Trace.states, List.map_cons, List.map_cons]
      refine congrArg₂ List.cons ?_ ih
      cases hentry <;> rfl

/-- Two outcomes that a host cannot tell apart: the same result, the same states, and the same
events but for the `once` scripts of the screens that they carry. -/
structure Outcome.Alike {ε α : Type} (first second : Outcome ε α) : Prop where
  result : second.result = first.result
  state : second.state = first.state
  states : second.trace.states = first.trace.states
  events : second.trace.events.map Event.lasting = first.trace.events.map Event.lasting

/-- Under one hop limit nothing is cut off in one world only. -/
theorem Outcome.Followed.alike {ε α : Type} {cut : ε → Prop} {first second : Outcome ε α}
    (htwin : w.Twin w' s) (hlimit : w'.settings.maxHops = w.settings.maxHops)
    (h : first.Followed cut w w' second) : first.Alike second := by
  cases h with
  | same hresult hstate htrace => exact ⟨hresult, hstate, htrace.states, htrace.lasting htwin⟩
  | cutOff hlower => exact absurd hlimit.symm (Nat.ne_of_lt hlower)

/-- What a host sees of two sessions without asking them to do anything is the same. -/
structure Session.SameView (first second : Session) : Prop where
  screen : second.currentScreen?.map Screen.lasting = first.currentScreen?.map Screen.lasting
  text : second.screenText = first.screenText
  choices : second.availableChoices = first.availableChoices
  recipes : second.recipeLines = first.recipeLines
  usable : second.state.canUseRecipe second.world = first.state.canUseRecipe first.world
  inventory : second.inventoryText = first.inventoryText

/-- What is read off the current screen is the same in both worlds, unless it is the script of the
first visit. -/
theorem World.Twin.read_currentScreen? {α : Type} (htwin : w.Twin w' s) (t : State)
    (read : Option Screen → α)
    (hread : ∀ screen : Option Screen, read (screen.map Screen.lasting) = read screen) :
    read (t.currentScreen? w') = read (t.currentScreen? w) := by
  rw [← hread (t.currentScreen? w'), ← hread (t.currentScreen? w),
    htwin.currentScreen?_lasting]

/-- Twins show the same in every state: what is shown of a screen does not depend on the scripts
that run once. -/
theorem World.Twin.sameView (htwin : w.Twin w' s) (t : State) :
    Session.SameView ⟨w, t⟩ ⟨w', t⟩ where
  screen := htwin.currentScreen?_lasting t
  -- the text is read off the current screen, and by a function that looks at its lasting part only
  text := by
    have hview (w : World) : Session.screenText ⟨w, t⟩ =
        (t.currentScreen? w).elim (.ok "") fun screen =>
          Template.prepare (t.context w) screen.joinedText := by
      rw [Session.screenText, Session.currentScreen?]
      cases t.currentScreen? w <;> rfl
    rw [hview w', hview w, htwin.context]
    exact htwin.read_currentScreen? t (fun found => found.elim (.ok "") fun screen =>
      Template.prepare (t.context w) screen.joinedText) fun found => by cases found <;> rfl
  choices := by
    have hview (w : World) : Session.availableChoices ⟨w, t⟩ =
        (t.currentScreen? w).elim (.ok []) fun screen =>
          Choice.available (t.context w) screen.choices := by
      rw [Session.availableChoices, State.availableChoices]
      cases t.currentScreen? w <;> rfl
    rw [hview w', hview w, htwin.context]
    exact htwin.read_currentScreen? t (fun found => found.elim (.ok []) fun screen =>
      Choice.available (t.context w) screen.choices) fun found => by cases found <;> rfl
  recipes := by rw [htwin.frame]; rfl
  usable := by rw [htwin.frame]; rfl
  inventory := by rw [htwin.frame]; rfl

namespace HostCall

/-- Sequences of calls come to the same in twins under one hop limit. -/
theorem playAll_alike (hlimit : w'.settings.maxHops = w.settings.maxHops) (calls : List HostCall) :
    ∀ s, w.Twin w' s → (playAll calls w s).Alike (playAll calls w' s) := by
  induction calls with
  | nil => exact fun s _ => ⟨rfl, rfl, rfl, rfl⟩
  | cons call rest ih =>
      intro s htwin
      have hfollows := call.play_follows (Nat.le_of_eq hlimit.symm) s
      have hcall := (hfollows.followed htwin).alike htwin hlimit
      -- the worlds are still twins where the first call ends
      have hrest := ih (call.play w s).state (htwin.mono (hfollows.seen htwin))
      rw [playAll_cons, playAll_cons, hcall.result, hcall.state]
      have hreplies := congrArg (Except.map ((call.play w s).result :: ·)) hrest.result
      refine ⟨hreplies, hrest.state, ?_, ?_⟩
      · show (_ ++ _ : Trace).states = (_ ++ _ : Trace).states
        rw [Trace.states_append, Trace.states_append, hcall.states, hrest.states]
      · show (_ ++ _ : Trace).events.map _ = (_ ++ _ : Trace).events.map _
        rw [Trace.events_append, Trace.events_append, List.map_append, List.map_append,
          hcall.events, hrest.events]

end HostCall

/-! ## The result -/

/-- **A `once` script runs once.** Marks are never taken back, whatever a host calls, and every
entry of a place that the hop limit lets pass leaves the place marked, also one that fails. A new
place is marked before its `once` script runs, and a marked one runs its `always` script only. So
the `once` scripts of marked places are dead: a world with other ones is played in alike. -/
theorem once_scripts_run_once (w : World) (s : State) :
    (∀ calls, (s :: (HostCall.playAll calls w s).trace.states).Pairwise State.SeenWithin ∧
      s.SeenWithin (HostCall.playAll calls w s).state) ∧
    (∀ destination : Destination, destination.ExistsIn w.graph → s.depth < w.settings.maxHops →
      destination.SeenIn (Play.go destination w s).state) ∧
    (∀ go index screen, Play.stageScreen go index screen w s =
      if index ∈ s.seenScreens then Script.run go screen.scripts.always w s
      else
        ((Script.run go screen.scripts.once >>= fun _ => Script.run go screen.scripts.always) w
          (s.seeScreen index)).after [⟨.change, s.seeScreen index⟩]) ∧
    (∀ go relay name, Play.stageRelay go relay name w s =
      if name ∈ s.seenRelays then Script.run go relay.scripts.always w s
      else
        ((Script.run go relay.scripts.once >>= fun _ => Script.run go relay.scripts.always) w
          (s.seeRelay name)).after [⟨.change, s.seeRelay name⟩]) ∧
    ∀ w', w.Twin w' s → w'.settings.maxHops = w.settings.maxHops →
      (∀ calls, (HostCall.playAll calls w s).Alike (HostCall.playAll calls w' s) ∧
        Session.SameView ⟨w, (HostCall.playAll calls w s).state⟩
          ⟨w', (HostCall.playAll calls w' s).state⟩) ∧
      ∀ destination, (Play.go destination w s).Alike (Play.go destination w' s) := by
  refine ⟨fun calls => ?_, fun destination hexists hroom => Play.go_seen hexists hroom,
    fun go index screen => ?_, fun go relay name => ?_,
    fun w' htwin hlimit => ⟨fun calls => ?_, fun destination => ?_⟩⟩
  · -- marks are only ever added, in every step of a run
    obtain ⟨hpairs, hlast⟩ := (HostCall.playAll_course calls w s).steps.seen
    exact ⟨hpairs, hlast s List.mem_cons_self⟩
  · rw [Play.stageScreen_run]
    by_cases hseen : index ∈ s.seenScreens
    · rw [decide_eq_true hseen, if_pos hseen]
      rfl
    · rw [decide_eq_false hseen, if_neg hseen, Play.staged_of_new]
  · rw [Play.stageRelay_run]
    by_cases hseen : name ∈ s.seenRelays
    · rw [decide_eq_true hseen, if_pos hseen]
      rfl
    · rw [decide_eq_false hseen, if_neg hseen, Play.staged_of_new]
  · -- the marks that make the worlds twins are still there when the calls are over
    have halike := HostCall.playAll_alike hlimit calls s htwin
    rw [halike.state]
    exact ⟨halike, htwin.sameView _⟩
  · have hfollows := Play.go_follows (Nat.le_of_eq hlimit.symm) destination s
    exact (hfollows.followed htwin).alike htwin hlimit

/-- A story whose first screen leads back to itself on the first visit, and then breaks off. -/
def World.well : World where
  graph :=
    { name := "well"
      title := "Well"
      start := "well"
      screens :=
        [{ name := some "well"
           scripts :=
             { once := ["jump well", "set wish = item(coin)"], always := ["message echo"] } }]
      screenNames := .ofList [("well", 0)] }

/-- The same with another script for the first visit. -/
def World.otherWell : World where
  graph :=
    { World.well.graph with
      screens :=
        [{ name := some "well", scripts := { once := ["exit"], always := ["message echo"] } }] }

/-- The state in which the first visit of the well breaks off. -/
def State.atWell : State := (Play.go (.screen 0) .well (.initial .well)).state

/-- The first visit fails and leaves its mark all the same, and from there both wells are alike. -/
theorem well_runs_once_script_once :
    (Destination.screen 0).ExistsIn World.well.graph ∧
      (State.initial .well).depth < World.well.settings.maxHops ∧
      (Play.go (.screen 0) .well (.initial .well)).result =
        .error (.expr (.accessorNotAllowed .item "coin")) ∧
      (Destination.screen 0).SeenIn .atWell ∧
      World.well.Twin .otherWell .atWell ∧
      World.otherWell.settings.maxHops = World.well.settings.maxHops ∧
      (HostCall.playAll [.start, .dispatch (.next 0)] .well .atWell).trace.events.map
          Event.lasting =
        [.messageChanged "echo",
          .screenChanged { name := some "well", scripts := { always := ["message echo"] } },
          .messageChanged "", .messageChanged "echo",
          .screenChanged { name := some "well", scripts := { always := ["message echo"] } }] ∧
      (HostCall.playAll [.start, .dispatch (.next 0)] .well .atWell).Alike
        (HostCall.playAll [.start, .dispatch (.next 0)] .otherWell .atWell) := by
  have hexists : (Destination.screen 0).ExistsIn World.well.graph := by decide
  have hroom : (State.initial .well).depth < World.well.settings.maxHops := by decide
  -- the two wells differ in what the first screen runs once, and that screen has been seen
  have htwin : World.well.Twin .otherWell .atWell := by
    refine ⟨rfl, rfl, fun _ => rfl, fun index hnew => ?_, fun _ _ => rfl⟩
    have hseen : State.atWell.seenScreens = [0] := by cbv
    rw [hseen, List.mem_singleton] at hnew
    obtain ⟨index, rfl⟩ := Nat.exists_eq_succ_of_ne_zero hnew
    rfl
  obtain ⟨-, hmark, -⟩ := once_scripts_run_once .well (.initial .well)
  obtain ⟨-, -, -, -, hdead⟩ := once_scripts_run_once .well .atWell
  obtain ⟨hcalls, -⟩ := hdead .otherWell htwin rfl
  exact ⟨hexists, hroom, by cbv, hmark _ hexists hroom, htwin, rfl, by cbv, (hcalls _).1⟩

end Narrative
