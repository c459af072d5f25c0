import Mathlib
import Narrative.Proofs.Session.Arrival
import Narrative.Proofs.Session.Habit
import Narrative.Proofs.Session.Moment
import Narrative.Proofs.Session.Unwinding

/-!
# The outermost entry decides

The scripts of a screen may enter other screens, at any depth and any number of times. Those entries
are over before the outer one assigns its own screen, so an entry that goes well has the last word.
An entry that fails has none: it stops within its scripts, and what is current then was decided by
the last of the inner entries that went well.

* **`Play.go_screen_of_ok`**, **`Play.go_screen_of_error`** — what an entry adds to what its scripts
  do, which is nothing if it fails.
* **`Trace.Arrives`** — an entry of a screen goes well as a part of a trace.
* **`Settles.habit`**, **`Play.go_settles`** — the current screen is the one of the last such part,
  by induction on the room for nested entries.
-/

namespace Narrative

variable {w : World} {s s' s'' : State} {trace trace' front front' rest rest' : Trace}
  {depth index index' : Nat} {screen : Screen}

/-! ## What an entry adds to its scripts -/

namespace Play

/-- The scripts of a screen, one level deeper, are all that an entry of it runs. -/
theorem go_screen_of_room (hroom : s.depth < w.settings.maxHops)
    (hscreen : w.graph.screen? index = some screen) :
    Play.go (.screen index) w s =
      deeper (stageScreen Play.go index screen >>= fun _ => arrive index screen) w s := by
  rw [go_eq_descend, descend_of_room hroom, deeper_run, deeper_run, visit,
    visitScreen_of_some hscreen]

/-- An entry that goes well has run its scripts, and then the screen became current, of which the
host was told last. -/
theorem go_screen_of_ok (hscreen : w.graph.screen? index = some screen)
    (h : (Play.go (.screen index) w s).result = .ok ()) :
    ∃ (t : State) (before : Trace), t.current = some index ∧
      before.events = (stageScreen Play.go index screen w s.down).trace.events ∧
      Play.go (.screen index) w s = ⟨.ok (), t.up,
        before ++ [⟨.event (.screenChanged screen), t⟩, ⟨.change, t.up⟩]⟩ := by
  -- an entry beyond the limit would have failed
  have hroom : s.depth < w.settings.maxHops := by
    by_contra hfull
    rw [go_of_full (Nat.le_of_not_lt hfull)] at h
    nomatch h
  rw [go_screen_of_room hroom hscreen, deeper_run] at h ⊢
  rcases hstage : stageScreen Play.go index screen w s.down with ⟨result, t, trace⟩
  cases result with
  | error error =>
      rw [bind_of_error hstage] at h
      nomatch h
  | ok value =>
      rw [bind_of_ok hstage, arrive_run]
      -- the trace of the entry up to where the screen is told of
      refine ⟨{ t with current := some index },
        ⟨.change, s.down⟩ :: trace ++ [⟨.change, { t with current := some index }⟩,
          ⟨.notice (.screenChanged screen.label), { t with current := some index }⟩],
        rfl, ?_, ?_⟩
      · simp
      · simp [Outcome.after_mk]

/-- An entry that fails is refused, or it is what its scripts do, one level deeper: it adds nothing
to that. -/
theorem go_screen_of_error {error : ActionError} (hscreen : w.graph.screen? index = some screen)
    (h : (Play.go (.screen index) w s).result = .error error) :
    w.settings.maxHops ≤ s.depth ∧ Play.go (.screen index) w s = refuseEntry w s ∨
      s.depth < w.settings.maxHops ∧
        Play.go (.screen index) w s = deeper (stageScreen Play.go index screen) w s := by
  by_cases hroom : s.depth < w.settings.maxHops
  · refine .inr ⟨hroom, ?_⟩
    rw [go_screen_of_room hroom hscreen, deeper_run] at h ⊢
    rw [deeper_run]
    rcases hstage : stageScreen Play.go index screen w s.down with ⟨result, t, trace⟩
    cases result with
    | ok value =>
        -- behind scripts that went well nothing can fail any more
        rw [bind_of_ok hstage] at h
        nomatch h
    | error error => rw [bind_of_error hstage]
  · exact .inl ⟨Nat.le_of_not_lt hroom, go_of_full (Nat.le_of_not_lt hroom)⟩

end Play

/-! ## Entries that go well within a trace -/

namespace Trace

/-- The host is not told of any screen. -/
def TellsNoScreen (trace : Trace) : Prop := ∀ screen, Event.screenChanged screen ∉ trace.events

/-- Two traces without a screen have none together. -/
theorem TellsNoScreen.append (h : trace.TellsNoScreen) (h' : trace'.TellsNoScreen) :
    (trace ++ trace').TellsNoScreen := by
  intro screen hmem
  rw [events_append, List.mem_append] at hmem
  exact hmem.elim (h screen) (h' screen)

/-- Within what happens from `s` on, the screen at `index` is entered at this depth or deeper, and
the entry goes well: `front` leads up to it and `rest` is behind it. -/
structure Arrives (w : World) (depth : Nat) (s : State) (trace front : Trace) (index : Nat)
    (rest : Trace) : Prop where
  split : trace = front ++ (Play.go (.screen index) w (front.stateFrom s)).trace ++ rest
  ok : (Play.go (.screen index) w (front.stateFrom s)).result = .ok ()
  deep : depth ≤ (front.stateFrom s).depth

namespace Arrives

/-- The part of a trace in which an entry goes well ends with telling of its screen and going back
up. -/
theorem exists_told (h : Arrives w depth s trace front index rest) :
    ∃ before screen t, trace =
      before ++ [⟨.event (.screenChanged screen), t⟩, ⟨.change, t.up⟩] ++ rest := by
  obtain ⟨-, screen, hscreen⟩ := Play.current_of_go_ok h.ok
  obtain ⟨t, before, -, -, hgo⟩ := Play.go_screen_of_ok hscreen h.ok
  refine ⟨front ++ before, screen, t, ?_⟩
  rw [h.split, hgo, List.append_assoc front before]

/-- Where no screen is told of, nobody arrives. -/
theorem not_of_tellsNoScreen (hquiet : trace.TellsNoScreen) :
    ¬ Arrives w depth s trace front index rest := by
  intro h
  obtain ⟨before, screen, t, rfl⟩ := h.exists_told
  exact hquiet screen (by simp)

/-- What happens in front of a trace is in front of the entries within it. -/
theorem prepend (hthere : trace.stateFrom s = s')
    (h : Arrives w depth s' trace' front index rest) :
    Arrives w depth s (trace ++ trace') (trace ++ front) index rest where
  split := by rw [stateFrom_append, hthere, h.split]; simp only [List.append_assoc]
  ok := by rw [stateFrom_append, hthere]; exact h.ok
  deep := by rw [stateFrom_append, hthere]; exact h.deep

/-- An arrival stays one when more follows. -/
theorem append (h : Arrives w depth s trace front index rest) (trace' : Trace) :
    Arrives w depth s (trace ++ trace') front index (rest ++ trace') where
  split := by rw [h.split]; simp only [List.append_assoc]
  ok := h.ok
  deep := h.deep

/-- Where the host is told of no screen any more, no entry goes well any more. -/
theorem length_le (h : Arrives w depth s trace front index rest)
    (h' : Arrives w depth s trace front' index' rest') (hquiet : rest.TellsNoScreen) :
    rest.length ≤ rest'.length := by
  obtain ⟨before, screen, t, htrace⟩ := h.exists_told
  obtain ⟨before', screen', t', htrace'⟩ := h'.exists_told
  rcases List.append_eq_append_iff.mp (htrace.symm.trans htrace') with
    ⟨between, hend, hrest⟩ | ⟨between, -, hrest⟩
  · -- the second entry ends behind the first one, with its screen told of in between
    rcases List.eq_nil_or_concat' between with rfl | ⟨between, last, rfl⟩
    · rw [hrest, List.nil_append]
    · exfalso
      have hpair : (before' ++ [⟨.event (.screenChanged screen'), t'⟩]) ++ [⟨.change, t'.up⟩] =
          (before ++ [⟨.event (.screenChanged screen), t⟩, ⟨.change, t.up⟩] ++ between) ++
            [last] := by
        simpa using hend
      have htold := (List.append_inj' hpair rfl).1
      rcases List.eq_nil_or_concat' between with rfl | ⟨between, other, rfl⟩
      · -- the way up of the first entry tells nothing
        have hup : before' ++ [⟨.event (.screenChanged screen'), t'⟩] =
            (before ++ [⟨.event (.screenChanged screen), t⟩]) ++ [⟨.change, t.up⟩] := by
          simpa using htold
        nomatch (List.append_inj' hup rfl).2
      · rw [← List.append_assoc] at htold
        have hother := List.singleton_inj.mp (List.append_inj' htold rfl).2
        refine hquiet screen' ?_
        rw [hrest, ← hother]
        simp
  · rw [hrest, List.length_append]
    exact Nat.le_add_left _ _

end Arrives

/-- What is current behind a trace is the screen of the entry at this depth or deeper that went well
last within it, or what was current before if none did. -/
inductive Decides (w : World) (depth : Nat) (s : State) (trace : Trace) (s' : State) : Prop
  | none (hnone : ∀ front index rest, ¬ Arrives w depth s trace front index rest)
      (hcurrent : s'.current = s.current)
  | last {front rest : Trace} {index : Nat} (h : Arrives w depth s trace front index rest)
      (hlast : ∀ front' index' rest', Arrives w depth s trace front' index' rest' →
        rest.length ≤ rest'.length)
      (hcurrent : s'.current = some index)

end Trace

/-! ## Scripts settle on a screen -/

/-- The host was told of no screen and the current one is the same, or an entry went well behind
which that holds. -/
inductive SettledOn (w : World) (depth : Nat) (s : State) (trace : Trace) (s' : State) : Prop
  | same (hquiet : trace.TellsNoScreen) (hcurrent : s'.current = s.current)
  | arrived {front rest : Trace} {index : Nat} (h : trace.Arrives w depth s front index rest)
      (hquiet : rest.TellsNoScreen) (hcurrent : s'.current = some index)

namespace SettledOn

/-- A trace that is settled decides the current screen. -/
theorem decides (h : SettledOn w depth s trace s') : trace.Decides w depth s s' := by
  cases h with
  | same hquiet hcurrent =>
      exact .none (fun _ _ _ => Trace.Arrives.not_of_tellsNoScreen hquiet) hcurrent
  | arrived h hquiet hcurrent =>
      exact .last h (fun _ _ _ h' => h.length_le h' hquiet) hcurrent

theorem append (first : SettledOn w depth s trace s') (hthere : trace.stateFrom s = s')
    (rest : SettledOn w depth s' trace' s'') : SettledOn w depth s (trace ++ trace') s'' := by
  cases rest with
  | arrived h hquiet hcurrent => exact .arrived (h.prepend hthere) hquiet hcurrent
  | same hquiet hcurrent =>
      cases first with
      | same hquiet' hcurrent' => exact .same (hquiet'.append hquiet) (hcurrent.trans hcurrent')
      | arrived h hquiet' hcurrent' =>
          exact .arrived (h.append trace') (hquiet'.append hquiet) (hcurrent.trans hcurrent')

/-- The two changes of the depth around what happens one level deeper move nobody. -/
theorem deeper (h : SettledOn w depth s.down trace s') (hthere : trace.stateFrom s.down = s') :
    SettledOn w depth s (⟨.change, s.down⟩ :: trace ++ [⟨.change, s'.up⟩]) s'.up := by
  have hdown : SettledOn w depth s [⟨.change, s.down⟩] s.down := .same nofun rfl
  have hup : SettledOn w depth s' [⟨.change, s'.up⟩] s'.up := .same nofun rfl
  have hway : Trace.stateFrom s (⟨.change, s.down⟩ :: trace) = s' := by
    rw [Trace.stateFrom_cons, hthere]
  exact (hdown.append rfl h).append hway hup

/-- What was entered deeper was entered at any depth above that or deeper. -/
theorem mono (h : SettledOn w (depth + 1) s trace s') : SettledOn w depth s trace s' := by
  cases h with
  | same hquiet hcurrent => exact .same hquiet hcurrent
  | arrived h hquiet hcurrent =>
      exact .arrived ⟨h.split, h.ok, Nat.le_of_succ_le h.deep⟩ hquiet hcurrent

end SettledOn

/-- From a state at this depth what happens leads back to it and settles on a screen. -/
def Settles (w : World) (depth : Nat) (s : State) (trace : Trace) (s' : State) : Prop :=
  s.depth = depth → s'.depth = depth ∧ trace.stateFrom s = s' ∧ SettledOn w depth s trace s'

/-- **Settling on a screen is a habit of scripts** at each depth. No single thing that a script does
moves the player but the entries that it leads to. -/
theorem Settles.habit (w : World) (depth : Nat) : ScriptHabit w (Settles w depth) where
  nil s hs := ⟨hs, rfl, .same nofun rfl⟩
  append first rest := by
    intro hs
    obtain ⟨hdepth, hthere, hfirst⟩ := first hs
    obtain ⟨hdepth', hthere', hrest⟩ := rest hdepth
    refine ⟨hdepth', ?_, hfirst.append hthere hrest⟩
    -- the first part ends where the second begins, at the same depth
    rw [Trace.stateFrom_append, hthere, hthere']
  note s notice hs := ⟨hs, rfl, .same nofun rfl⟩
  acts h hs := by
    cases h with
    | message | exit => exact ⟨hs, rfl, .same (by simp [Trace.TellsNoScreen]) rfl⟩
    | give | consume | spare | unlock | lock | set => exact ⟨hs, rfl, .same nofun rfl⟩
  seeScreen s index hs := ⟨hs, rfl, .same nofun rfl⟩
  seeRelay s name hs := ⟨hs, rfl, .same nofun rfl⟩

namespace Play

/-- An entry has led from where it began to where it ended, however it ended. -/
theorem stateFrom_go (destination : Destination) (w : World) (s : State) :
    (Play.go destination w s).trace.stateFrom s = (Play.go destination w s).state :=
  have htrail : Trail w .all s (Play.go destination w s) :=
    go_trail (Licence.all_covers w) trivial s
  htrail.steps.stateFrom_eq

section

variable (hinner : ∀ other, Obeys w (Settles w (s.depth + 1)) (Play.go other))
include hinner

/-- An entry that fails has settled where its scripts have, one level deeper. -/
theorem go_screen_settledOn {error : ActionError} (hscreen : w.graph.screen? index = some screen)
    (h : (Play.go (.screen index) w s).result = .error error) :
    SettledOn w (s.depth + 1) s (Play.go (.screen index) w s).trace
      (Play.go (.screen index) w s).state := by
  obtain ⟨-, hgo⟩ | ⟨-, hgo⟩ := go_screen_of_error hscreen h
  · rw [hgo]
    exact .same nofun rfl
  · have hstage := stageScreen_obeys (Settles.habit w _) hinner index screen
    obtain ⟨-, hthere, hsettled⟩ := hstage s.down rfl
    rw [hgo, deeper_run]
    exact hsettled.deeper hthere

/-- What a relay leaves behind is settled by the entries that it makes. -/
theorem go_relay_settledOn {name : String} {relay : Relay}
    (hroom : s.depth < w.settings.maxHops) (hrelay : w.graph.relay? name = some relay) :
    SettledOn w (s.depth + 1) s (Play.go (.relay name) w s).trace
      (Play.go (.relay name) w s).state := by
  have hhabit := Settles.habit w (s.depth + 1)
  have hvisit := Obeys.bind hhabit (stageRelay_obeys hhabit hinner relay name)
    (fun _ => takeFork_obeys hhabit hinner relay name)
  obtain ⟨-, hthere, hsettled⟩ := hvisit s.down rfl
  rw [go_eq_descend, descend_of_room hroom, deeper_run, visit, visitRelay_of_some hrelay]
  exact hsettled.deeper hthere

end

/-- **Entering a place settles on a screen.** Induction on the room that the hop limit leaves. An
entry that goes well is itself the last one that does; one that fails has done no more than its
scripts, which have settled one level deeper. -/
theorem go_settles (room : Nat) : ∀ destination s, w.settings.maxHops - s.depth = room →
    SettledOn w s.depth s (Play.go destination w s).trace (Play.go destination w s).state := by
  induction room with
  | zero =>
      intro destination s hroom
      rw [go_of_full (Nat.le_of_sub_eq_zero hroom)]
      exact .same nofun rfl
  | succ room ih =>
      intro destination s hroom
      -- the entries from inside come to rest one level deeper, and there the hypothesis speaks of
      -- them
      have hinner : ∀ other, Obeys w (Settles w (s.depth + 1)) (Play.go other) :=
        fun other s' hs' => ⟨(depth_go other w s').trans hs', stateFrom_go other w s',
          hs' ▸ ih other s' (by omega)⟩
      by_cases hexists : destination.ExistsIn w.graph
      · cases destination with
        | screen index =>
            obtain ⟨screen, hscreen⟩ := Graph.exists_screen? hexists
            cases hresult : (Play.go (.screen index) w s).result with
            | ok value =>
                have harrives : Trace.Arrives w s.depth s
                    (Play.go (.screen index) w s).trace [] index [] :=
                  ⟨(List.append_nil _).symm, hresult, Nat.le_refl _⟩
                exact .arrived harrives nofun (current_of_go_ok hresult).1
            | error error => exact (go_screen_settledOn hinner hscreen hresult).mono
        | relay name =>
            obtain ⟨relay, hrelay⟩ := Graph.exists_relay? hexists
            exact (go_relay_settledOn hinner (by omega) hrelay).mono
      · -- what does not exist is left one level deeper as it was found
        rw [go_eq_descend, descend_of_room (by omega), deeper_run, visit_of_missing hexists]
        exact .same nofun rfl

theorem go_obeys_settles (depth : Nat) (destination : Destination) :
    Obeys w (Settles w depth) (Play.go destination) :=
  fun s hs => ⟨(depth_go destination w s).trans hs, stateFrom_go destination w s,
    hs ▸ go_settles _ destination s rfl⟩

end Play

/-- **The outermost entry decides the screen.** An entry that goes well ends at its screen, whatever
its scripts led to, and telling of it comes last. An entry that fails adds nothing to what its
scripts did: what is current is the screen of the nested entry that went well last, or what was
current before if none did. -/
theorem outermost_entry_decides (w : World) (s : State) (index : Nat) (screen : Screen)
    (hscreen : w.graph.screen? index = some screen) :
    ((Play.go (.screen index) w s).result = .ok () →
      (Play.go (.screen index) w s).state.current = some index ∧
      (Play.go (.screen index) w s).trace.events =
        (Play.stageScreen Play.go index screen w s.down).trace.events ++
          [.screenChanged screen]) ∧
    ∀ error, (Play.go (.screen index) w s).result = .error error →
      (w.settings.maxHops ≤ s.depth ∧ Play.go (.screen index) w s = Play.refuseEntry w s ∨
        s.depth < w.settings.maxHops ∧ Play.go (.screen index) w s =
          Play.deeper (Play.stageScreen Play.go index screen) w s) ∧
      Trace.Decides w (s.depth + 1) s (Play.go (.screen index) w s).trace
        (Play.go (.screen index) w s).state := by
  refine ⟨fun hok => ⟨(Play.current_of_go_ok hok).1, ?_⟩, fun error herror => ⟨?_, ?_⟩⟩
  · obtain ⟨t, before, -, hevents, hgo⟩ := Play.go_screen_of_ok hscreen hok
    rw [hgo, Trace.events_append, hevents]
    rfl
  · exact Play.go_screen_of_error hscreen herror
  · -- without an arrival of its own, the last one from inside is what counts
    exact (Play.go_screen_settledOn (Play.go_obeys_settles _) hscreen herror).decides

/-- A story whose ridge leads down to a ledge and a cave and then breaks off, and whose ledge leads
to the cave as well. -/
def World.ridge : World where
  graph :=
    { name := "ridge"
      title := "Ridge"
      start := "ridge"
      screens :=
        [{ name := some "ridge"
           scripts :=
             { once := ["jump ledge"], always := ["jump cave", "set rope = item(rope)"] } },
          { name := some "ledge", scripts := { always := ["jump cave", "message slip"] } },
          { name := some "cave" }]
      screenNames := .ofList [("ridge", 0), ("ledge", 1), ("cave", 2)] }

/-- On the ledge the player stays there, although the cave was entered on the way; on the ridge,
where the entry fails, the cave was entered last. -/
theorem ridge_entries_decide :
    World.ridge.graph.screen? 1 =
        some { name := some "ledge", scripts := { always := ["jump cave", "message slip"] } } ∧
      (Play.go (.screen 1) .ridge (.initial .ridge)).result = .ok () ∧
      (Play.go (.screen 1) .ridge (.initial .ridge)).state.current = some 1 ∧
      (Play.go (.screen 1) .ridge (.initial .ridge)).trace.events =
        [.screenChanged { name := some "cave" }, .messageChanged "slip",
          .screenChanged
            { name := some "ledge", scripts := { always := ["jump cave", "message slip"] } }] ∧
      (Play.go (.screen 0) .ridge (.initial .ridge)).result =
        .error (.expr (.accessorNotAllowed .item "rope")) ∧
      Trace.Decides .ridge 1 (.initial .ridge)
        (Play.go (.screen 0) .ridge (.initial .ridge)).trace
        (Play.go (.screen 0) .ridge (.initial .ridge)).state ∧
      (Play.go (.screen 0) .ridge (.initial .ridge)).state.current = some 2 := by
  have hok : (Play.go (.screen 1) .ridge (.initial .ridge)).result = .ok () := by cbv
  have herror : (Play.go (.screen 0) .ridge (.initial .ridge)).result =
      .error (.expr (.accessorNotAllowed .item "rope")) := by cbv
  -- the inner entry tells its screen first, the outer one last
  have hstage : (Play.stageScreen Play.go 1
      { name := some "ledge", scripts := { always := ["jump cave", "message slip"] } } .ridge
        (State.initial .ridge).down).trace.events =
      [.screenChanged { name := some "cave" }, .messageChanged "slip"] := by cbv
  obtain ⟨hledge, -⟩ := outermost_entry_decides .ridge (.initial .ridge) 1 _ rfl
  obtain ⟨-, hridge⟩ := outermost_entry_decides .ridge (.initial .ridge) 0 _ rfl
  obtain ⟨hcurrent, hevents⟩ := hledge hok
  exact ⟨rfl, hok, hcurrent, hevents.trans (by rw [hstage]; rfl), herror, (hridge _ herror).2,
    by cbv⟩

end Narrative
