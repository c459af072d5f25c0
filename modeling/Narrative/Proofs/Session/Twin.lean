import Mathlib.Data.List.Forall2
import Narrative.Proofs.Session.Seen

/-!
# One play in two worlds

Two worlds are twins for a state if they differ in nothing but the hop limit and the `once` scripts
of places that the state has seen. Playing in the one follows playing in the other step by step,
up to the point where the lower hop limit cuts the play off.

* **`World.Twin`** — the relation between the worlds. What has been seen only grows, so twins stay
  twins as long as they are played in.
* **`Outcome.Followed`** — the relation between the outcomes.
* **`Play.Follows`** — the same for operations. It goes through sequences because an operation that
  was cut off is the last one of its sequence (`Follows.attempt_bind`).
-/

namespace Narrative

/-! ## Twins -/

/-- The screen without the script of the first visit. -/
def Screen.lasting (screen : Screen) : Screen :=
  { screen with scripts := { screen.scripts with once := [] } }

/-- The relay without the script of the first visit. -/
def Relay.lasting (relay : Relay) : Relay :=
  { relay with scripts := { relay.scripts with once := [] } }

/-- The world with other screens, other relays and another hop limit. -/
def World.refurnished (w : World) (screens : List Screen) (relays : Registry Relay)
    (limit : Nat) : World where
  graph := { w.graph with screens := screens, relays := relays }
  settings := { w.settings with maxHops := limit }

/-- The worlds differ in nothing but the hop limit and the `once` scripts of places that the state
has seen. -/
structure World.Twin (w w' : World) (s : State) : Prop where
  frame : w' = w.refurnished w'.graph.screens w'.graph.relays w'.settings.maxHops
  screens : w'.graph.screens.map Screen.lasting = w.graph.screens.map Screen.lasting
  relays : ∀ name,
    (w'.graph.relay? name).map Relay.lasting = (w.graph.relay? name).map Relay.lasting
  newScreens : ∀ index, index ∉ s.seenScreens → w'.graph.screen? index = w.graph.screen? index
  newRelays : ∀ name, name ∉ s.seenRelays → w'.graph.relay? name = w.graph.relay? name

variable {w w' : World} {s t : State}

namespace World.Twin

protected theorem refl (w : World) (s : State) : w.Twin w s where
  frame := rfl
  screens := rfl
  relays _ := rfl
  newScreens _ _ := rfl
  newRelays _ _ := rfl

/-- Twins stay twins when more has been seen, since then less may differ. -/
theorem mono (h : w.Twin w' s) (hst : s.SeenWithin t) : w.Twin w' t where
  frame := h.frame
  screens := h.screens
  relays := h.relays
  newScreens index hnew := h.newScreens index fun hseen => hnew (hst.screens hseen)
  newRelays name hnew := h.newRelays name fun hseen => hnew (hst.relays hseen)

theorem screenIndex? (h : w.Twin w' s) (name : String) :
    w'.graph.screenIndex? name = w.graph.screenIndex? name := by
  rw [h.frame]
  rfl

theorem hasItem (h : w.Twin w' s) (item : String) :
    w'.graph.hasItem item = w.graph.hasItem item := by
  rw [h.frame]
  rfl

theorem recipes (h : w.Twin w' s) : w'.graph.recipes = w.graph.recipes := by
  rw [h.frame]
  rfl

theorem start (h : w.Twin w' s) : w'.graph.start = w.graph.start := by
  rw [h.frame]
  rfl

/-- Twins give their expressions the same context. -/
theorem context (h : w.Twin w' s) (t : State) : t.context w' = t.context w := by
  rw [h.frame]
  rfl

theorem remarkTrace (h : w.Twin w' s) (t : State) (remarks : List Remark) :
    Play.remarkTrace w' t remarks = Play.remarkTrace w t remarks := by
  rw [h.frame]
  rfl

/-- Twins have as many screens. -/
theorem length_screens (h : w.Twin w' s) : w'.graph.screens.length = w.graph.screens.length := by
  have hlength := congrArg List.length h.screens
  rwa [List.length_map, List.length_map] at hlength

/-- The screens of twins agree in what lasts. -/
theorem screen?_lasting (h : w.Twin w' s) (index : Nat) :
    (w'.graph.screen? index).map Screen.lasting = (w.graph.screen? index).map Screen.lasting := by
  rw [Graph.screen?, Graph.screen?, ← List.getElem?_map, ← List.getElem?_map, h.screens]

/-- The current screens of twins agree in what lasts. -/
theorem currentScreen?_lasting (h : w.Twin w' s) (t : State) :
    (t.currentScreen? w').map Screen.lasting = (t.currentScreen? w).map Screen.lasting := by
  rw [State.currentScreen?, State.currentScreen?]
  cases t.current with
  | none => rfl
  | some index => exact h.screen?_lasting index

/-- At one position the twins have two screens alike, the same one if it is new. -/
theorem exists_screen? (h : w.Twin w' s) {index : Nat} {screen : Screen}
    (hscreen : w.graph.screen? index = some screen) :
    ∃ screen', w'.graph.screen? index = some screen' ∧ screen'.lasting = screen.lasting ∧
      (index ∉ s.seenScreens → screen' = screen) := by
  have hlasting := h.screen?_lasting index
  rw [hscreen, Option.map_some, Option.map_eq_some_iff] at hlasting
  obtain ⟨screen', hscreen', heq⟩ := hlasting
  refine ⟨screen', hscreen', heq, fun hnew => ?_⟩
  have hsame := h.newScreens index hnew
  rw [hscreen, hscreen'] at hsame
  exact Option.some.inj hsame

/-- The relays of twins agree in what lasts, and new ones agree in everything. -/
theorem exists_relay? (h : w.Twin w' s) {name : String} {relay : Relay}
    (hrelay : w.graph.relay? name = some relay) :
    ∃ relay', w'.graph.relay? name = some relay' ∧ relay'.lasting = relay.lasting ∧
      (name ∉ s.seenRelays → relay' = relay) := by
  have hlasting := h.relays name
  rw [hrelay, Option.map_some, Option.map_eq_some_iff] at hlasting
  obtain ⟨relay', hrelay', heq⟩ := hlasting
  refine ⟨relay', hrelay', heq, fun hnew => ?_⟩
  have hsame := h.newRelays name hnew
  rw [hrelay, hrelay'] at hsame
  exact Option.some.inj hsame

theorem contains_relays (h : w.Twin w' s) (name : String) :
    w'.graph.relays.contains name = w.graph.relays.contains name := by
  have hsome := congrArg Option.isSome (h.relays name)
  rwa [Option.isSome_map, Option.isSome_map] at hsome

/-- The same places exist in twins. -/
theorem existsIn (h : w.Twin w' s) (destination : Destination) :
    destination.ExistsIn w'.graph ↔ destination.ExistsIn w.graph := by
  cases destination with
  | screen index =>
      show index < w'.graph.screens.length ↔ index < w.graph.screens.length
      rw [h.length_screens]
  | relay name =>
      show w'.graph.relays.contains name = true ↔ w.graph.relays.contains name = true
      rw [h.contains_relays]

end World.Twin

/-- What a screen always runs lasts. -/
theorem Screen.always_of_lasting {screen screen' : Screen} (h : screen'.lasting = screen.lasting) :
    screen'.scripts.always = screen.scripts.always :=
  congrArg (·.scripts.always) h

/-- What a relay always runs lasts. -/
theorem Relay.always_of_lasting {relay relay' : Relay} (h : relay'.lasting = relay.lasting) :
    relay'.scripts.always = relay.scripts.always :=
  congrArg (·.scripts.always) h

/-! ## What the host is told -/

/-- The host is told the same, or each world tells of its own screen at one position. -/
inductive Event.Twin (w w' : World) : Event → Event → Prop
  | same (event : Event) : Twin w w' event event
  | screenChanged {index : Nat} {screen screen' : Screen}
      (h : w.graph.screen? index = some screen) (h' : w'.graph.screen? index = some screen') :
      Twin w w' (.screenChanged screen) (.screenChanged screen')

inductive TraceEntry.Twin (w w' : World) : TraceEntry → TraceEntry → Prop
  | same (entry : TraceEntry) : Twin w w' entry entry
  | event {event event' : Event} {s : State} (h : event.Twin w w' event') :
      Twin w w' ⟨.event event, s⟩ ⟨.event event', s⟩

instance : Std.Refl (TraceEntry.Twin w w') := ⟨.same⟩

/-- The same happens in both worlds. -/
abbrev Trace.Twin (w w' : World) : Trace → Trace → Prop := List.Forall₂ (TraceEntry.Twin w w')

namespace Trace.Twin

variable {front front' trace trace' : Trace}

theorem append (hfront : Trace.Twin w w' front front') (h : Trace.Twin w w' trace trace') :
    Trace.Twin w w' (front ++ trace) (front' ++ trace') :=
  List.rel_append hfront h

/-- The events of twin traces are twins one by one. -/
theorem events (h : Trace.Twin w w' trace trace') :
    List.Forall₂ (Event.Twin w w') trace.events trace'.events := by
  refine List.rel_filterMap (fun entry entry' hentry => ?_) h
  cases hentry with
  | event hevent => exact .some hevent
  | same entry =>
      obtain ⟨occurrence, s⟩ := entry
      cases occurrence with
      | event event => exact .some (.same event)
      | change => exact .none
      | notice notice => exact .none

end Trace.Twin

/-- The error of an entry that the hop limit forbids. -/
def ActionError.IsLoop (error : ActionError) : Prop := ∃ limit, error = .navigationLoop limit

/-! ## Outcomes -/

variable {ε ε' α β : Type} {cut : ε → Prop} {cut' : ε' → Prop}

/-- How the outcome in the second world follows the one in the first. Either they are the same, or
the first world has the lower hop limit and cut the operation off, with one of the errors `cut`.
Then the second one has told the host the same before it went on. -/
inductive Outcome.Followed (cut : ε → Prop) (w w' : World) (first second : Outcome ε α) : Prop
  | same (result : second.result = first.result) (state : second.state = first.state)
      (trace : Trace.Twin w w' first.trace second.trace)
  | cutOff {error : ε} {front : List Event} (hlimit : w.settings.maxHops < w'.settings.maxHops)
      (herror : first.result = .error error) (hcut : cut error)
      (hfront : List.Forall₂ (Event.Twin w w') first.trace.events front)
      (hshorter : front <+: second.trace.events)

namespace Outcome.Followed

variable {first second : Outcome ε α} {trace trace' : Trace}

protected theorem refl (outcome : Outcome ε α) : Followed cut w w' outcome outcome :=
  .same rfl rfl (List.forall₂_refl _)

/-- What is followed is followed behind twin traces. -/
theorem after (h : Followed cut w w' first second) (htrace : Trace.Twin w w' trace trace') :
    Followed cut w w' (first.after trace) (second.after trace') := by
  cases h with
  | same hresult hstate htwin => exact .same hresult hstate (htrace.append htwin)
  | @cutOff error front hlimit herror hcut hfront hshorter =>
      have hevents : List.Forall₂ (Event.Twin w w') (first.after trace).trace.events
          (trace'.events ++ front) := by
        rw [Outcome.after_trace, Trace.events_append]
        exact List.rel_append htrace.events hfront
      refine .cutOff hlimit herror hcut hevents ?_
      rw [Outcome.after_trace, Trace.events_append]
      exact (List.prefix_append_right_inj _).mpr hshorter

end Outcome.Followed

namespace Play

/-- Where the worlds are twins, the second operation in the second world follows the first one in
the first world, which takes back no marks. -/
structure Follows (cut : ε → Prop) (w w' : World) (s : State) (first second : Play ε α) : Prop where
  seen : w.Twin w' s → s.SeenWithin (first w s).state
  followed : w.Twin w' s → (first w s).Followed cut w w' (second w' s)

namespace Follows

variable {first second : Play ε α}

/-- What comes to the same in both worlds follows itself. -/
theorem of_same (hseen : s.SeenWithin (first w s).state)
    (hsame : w.Twin w' s → second w' s = first w s) : Follows cut w w' s first second where
  seen _ := hseen
  followed htwin := hsame htwin ▸ .refl _

/-- What comes to one outcome in both worlds and leaves the state as it was follows itself. -/
theorem of_outcome {outcome : Outcome ε α} (hfirst : first w s = outcome)
    (hstate : outcome.state = s) (hsecond : w.Twin w' s → second w' s = outcome) :
    Follows cut w w' s first second := by
  refine .of_same ?_ fun htwin => ?_
  · rw [hfirst, hstate]
    exact .refl s
  · rw [hfirst, hsecond htwin]

/-- What goes on from the end of an operation follows if the operation does. Where the operation
was cut off, what goes on fails for the same reason and tells the host nothing. -/
theorem attempt_bind {first second : Play ε' β} {next next' : Except ε' β → Play ε α}
    (h : Follows cut' w w' s first second)
    (hnext : ∀ result t, Follows cut w w' t (next result) (next' result))
    (hcut : ∀ error t, cut' error → ∃ error', cut error' ∧
      (next (.error error) w t).result = .error error' ∧
      (next (.error error) w t).trace.events = []) :
    Follows cut w w' s (attempt first >>= next) (attempt second >>= next') where
  seen htwin := by
    have hseen := h.seen htwin
    rw [Play.attempt_bind]
    exact hseen.trans ((hnext _ _).seen (htwin.mono hseen))
  followed htwin := by
    have hnext := hnext (first w s).result (first w s).state
    have hthere := hnext.followed (htwin.mono (h.seen htwin))
    rw [Play.attempt_bind, Play.attempt_bind]
    cases h.followed htwin with
    | same hresult hstate htrace =>
        rw [hresult, hstate]
        exact hthere.after htrace
    | @cutOff error front hlimit herror hcutOff hfront hshorter =>
        -- the first operation ends here, the second one goes on behind the same events
        obtain ⟨error', hcut', herror', hevents⟩ := hcut error (first w s).state hcutOff
        rw [herror] at hthere ⊢
        have hshort : List.Forall₂ (Event.Twin w w')
            ((next (.error error) w (first w s).state).after (first w s).trace).trace.events
            front := by
          rw [Outcome.after_trace, Trace.events_append, hevents, List.append_nil]
          exact hfront
        refine .cutOff hlimit herror' hcut' hshort ?_
        rw [Outcome.after_trace, Trace.events_append]
        exact hshorter.trans (List.prefix_append _ _)

/-- Only twins have to be followed. -/
theorem of_twin (h : w.Twin w' s → Follows cut w w' s first second) :
    Follows cut w w' s first second where
  seen htwin := (h htwin).seen htwin
  followed htwin := (h htwin).followed htwin

theorem congr {first' second' : Play ε α} (h : Follows cut w w' s first second)
    (hfirst : first' w s = first w s) (hsecond : second' w' s = second w' s) :
    Follows cut w w' s first' second' where
  seen htwin := hfirst ▸ h.seen htwin
  followed htwin := hfirst ▸ hsecond ▸ h.followed htwin

/-- What is followed is followed by plays in a row. A cut in the first one cuts the whole. -/
theorem bind {first second : Play ε β} {next next' : β → Play ε α}
    (h : Follows cut w w' s first second)
    (hnext : ∀ value t, Follows cut w w' t (next value) (next' value)) :
    Follows cut w w' s (first >>= next) (second >>= next') := by
  -- a sequence is an attempt that goes on behind a success only
  have hattempt (w : World) (play : Play ε β) (next : β → Play ε α) : (play >>= next) w s =
      (attempt play >>= fun result => ofExcept result >>= next) w s := by
    rw [Play.attempt_bind]
    rcases hrun : play w s with ⟨result, s', trace⟩
    cases result with
    | ok value => exact bind_of_ok hrun
    | error error =>
        show (play >>= next) w s = (fail error w s').after trace
        rw [bind_of_error hrun, fail_run, Outcome.after_mk, List.append_nil]
  refine (h.attempt_bind (fun result t => ?_) fun error t herror => ⟨error, herror, rfl, rfl⟩).congr
    (hattempt w first next) (hattempt w' second next')
  cases result with
  | ok value => exact hnext value t
  | error error => exact .of_outcome rfl rfl fun _ => rfl

/-- Turning errors into others keeps what is followed, as long as a cut stays one. -/
theorem mapError {first second : Play ε' α} {f : ε' → ε} (h : Follows cut' w w' s first second)
    (hcut : ∀ error, cut' error → cut (f error)) :
    Follows cut w w' s (Play.mapError f first) (Play.mapError f second) := by
  have hattempt (w : World) (play : Play ε' α) : Play.mapError f play w s =
      (attempt play >>= fun result => ofExcept (result.mapError f)) w s := by
    rw [Play.attempt_bind, ofExcept_run, Outcome.after_mk, List.append_nil]
    rfl
  refine (h.attempt_bind (fun result t => ?_) fun error t herror => ?_).congr
    (hattempt w first) (hattempt w' second)
  · exact .of_outcome (ofExcept_run _ _ _) rfl fun _ => ofExcept_run _ _ _
  · exact ⟨f error, hcut error herror, by rw [ofExcept_run]; rfl, by rw [ofExcept_run]; rfl⟩

end Follows

end Play

end Narrative
