import Mathlib
import Narrative.Proofs.Phrase
import Narrative.Proofs.Registration
import Narrative.Proofs.Session.Outermost

/-!
# How deep entries nest

The hop limit is the number of entries that may be going on inside one another, neither one more nor
one less. A corridor of screens, each of which jumps to the next one, is walked to its end exactly
if it is no longer than that. A circle has no end, so it always comes to the limit.

* **`Play.go_of_idle_ok`**, **`Play.go_of_idle_error`** — the entry of a screen that has nothing to
  do on a first visit, by what its `always` script comes to.
* **`Graph.JumpsOn`** — such a screen leads straight on to another one; a fatal failure there is a
  failure here (`Play.go_blocked_of_jumpsOn`).
* **`Play.go_circle_blocked`**, **`Play.go_corridor_blocked`** — inductions on the room that the
  limit leaves.
* **`Play.go_corridor_ok`** — induction on the screens that are left.
-/

namespace Narrative

variable {w : World} {s s' s'' t : State} {trace : Trace} {index target : Nat}
  {screen : Screen} {error : ActionError}

/-! ## States that differ in what was seen -/

namespace State

/-- Marking a screen adds it to those that were seen. -/
theorem mem_markedScreen {other : Nat} :
    other ∈ (s.markedScreen index).seenScreens ↔ other = index ∨ other ∈ s.seenScreens := by
  unfold markedScreen
  split
  · rename_i hseen
    exact ⟨.inr, fun h => h.elim (· ▸ hseen) id⟩
  · exact List.mem_cons

theorem depth_down_markedScreen (s : State) (index : Nat) :
    (s.down.markedScreen index).depth = s.depth + 1 := by
  unfold markedScreen
  split <;> rfl

/-- The second state is the first one with more screens seen, and nothing else changed. -/
structure SeesMore (s t : State) : Prop where
  subset : s.seenScreens ⊆ t.seenScreens
  frame : t = { s with seenScreens := t.seenScreens }

namespace SeesMore

protected theorem refl (s : State) : s.SeesMore s := ⟨fun _ h => h, rfl⟩

protected theorem trans (h : s.SeesMore s') (h' : s'.SeesMore s'') : s.SeesMore s'' := by
  refine ⟨fun _ hmem => h'.subset (h.subset hmem), ?_⟩
  rw [h'.frame, h.frame]

theorem markedScreen (s : State) (index : Nat) : s.SeesMore (s.markedScreen index) := by
  refine ⟨fun _ hmem => mem_markedScreen.mpr (.inr hmem), ?_⟩
  unfold State.markedScreen
  split <;> rfl

/-- What was seen deeper down is seen above. -/
theorem up (h : s.down.SeesMore t) : s.SeesMore t.up := by
  refine ⟨h.subset, ?_⟩
  rw [h.frame]
  rfl

end SeesMore

end State

/-! ## Screens with nothing to do on a first visit -/

namespace Play

/-- The scripts of a screen whose `once` script is used or empty are its `always` script. -/
theorem stageScreen_of_idle (go : Destination → Play ActionError Unit) (w : World)
    (h : index ∈ s.seenScreens ∨ screen.scripts.once = []) :
    ∃ mark : Trace, mark.events = [] ∧ stageScreen go index screen w s =
      (Script.run go screen.scripts.always w (s.markedScreen index)).after mark := by
  have hdue : screen.scripts.due (decide (index ∈ s.seenScreens)) = screen.scripts.always := by
    rw [StageScripts.due]
    split
    · rfl
    · rename_i hseen
      rw [h.resolve_left (by simpa using hseen)]
      rfl
  rw [← hdue]
  exact stageScreen_due go w s index screen

section

variable (hroom : s.depth < w.settings.maxHops) (hscreen : w.graph.screen? index = some screen)
  (hidle : index ∈ s.seenScreens ∨ screen.scripts.once = [])
include hroom hscreen hidle

/-- An entry whose script runs through arrives. -/
theorem go_of_idle_ok
    (hrun : Script.run Play.go screen.scripts.always w (s.down.markedScreen index) =
      ⟨.ok (), t, trace⟩) :
    ∃ trace' : Trace, trace'.events = trace.events ++ [.screenChanged screen] ∧
      Play.go (.screen index) w s = ⟨.ok (), { t with current := some index }.up, trace'⟩ := by
  obtain ⟨mark, hmark, hstage⟩ := stageScreen_of_idle Play.go w (s := s.down) hidle
  rw [hrun, Outcome.after_mk] at hstage
  rw [go_screen_of_room hroom hscreen, deeper_run, bind_of_ok hstage, arrive_run]
  refine ⟨_, ?_, rfl⟩
  simp [Outcome.after_mk, hmark]

/-- An entry whose script fails comes up again without having arrived. -/
theorem go_of_idle_error
    (hrun : Script.run Play.go screen.scripts.always w (s.down.markedScreen index) =
      ⟨.error error, t, trace⟩) :
    ∃ trace' : Trace, trace'.events = trace.events ∧
      Play.go (.screen index) w s = ⟨.error error, t.up, trace'⟩ := by
  obtain ⟨mark, hmark, hstage⟩ := stageScreen_of_idle Play.go w (s := s.down) hidle
  rw [hrun, Outcome.after_mk] at hstage
  rw [go_screen_of_room hroom hscreen, deeper_run, bind_of_error hstage]
  refine ⟨_, ?_, rfl⟩
  simp [hmark]

end

/-! ## Screens that lead straight on -/

variable {source name : String} {rest : Script}

/-- A jump to a screen does what entering it does. -/
theorem performSource_of_jump (go : Destination → Play ActionError Unit) (s : State)
    (hparse : Command.parse source = .ok (.jump name))
    (htarget : w.graph.screenIndex? name = some target) :
    performSource go source w s =
      (go (.screen target) w s).after [⟨.notice (.deed (.jump name)), s⟩] := by
  rw [performSource_of_ok hparse]
  show jump go name w s = _
  rw [jump, world_bind, htarget]
  rfl

end Play

/-- The entry came to the hop limit: nothing has happened but that more screens are seen. -/
structure Outcome.Blocked (w : World) (s : State) (outcome : Outcome ActionError Unit) : Prop where
  result : outcome.result = .error (.navigationLoop w.settings.maxHops)
  events : outcome.trace.events = []
  frame : s.SeesMore outcome.state

/-- The screen at `index` has nothing to do on a first visit, and its `always` script begins with a
jump to the one at `target`. -/
inductive Graph.JumpsOn (graph : Graph) (s : State) (index target : Nat) : Prop
  | intro {screen : Screen} {source name : String} {rest : Script}
      (hscreen : graph.screen? index = some screen)
      (hidle : index ∈ s.seenScreens ∨ screen.scripts.once = [])
      (halways : screen.scripts.always = source :: rest)
      (hparse : Command.parse source = .ok (.jump name))
      (htarget : graph.screenIndex? name = some target)

/-- A screen that jumps on still does when more has been seen. -/
theorem Graph.JumpsOn.mono {graph : Graph} (h : graph.JumpsOn s index target)
    (hseen : s.seenScreens ⊆ t.seenScreens) : graph.JumpsOn t index target := by
  obtain ⟨hscreen, hidle, halways, hparse, htarget⟩ := h
  exact ⟨hscreen, hidle.imp_left fun h => hseen h, halways, hparse, htarget⟩

namespace Play

/-- Where no room is left nothing is entered. -/
theorem go_blocked_of_full (h : w.settings.maxHops ≤ s.depth) (destination : Destination) :
    (Play.go destination w s).Blocked w s ∧ (Play.go destination w s).state = s := by
  rw [go_of_full h]
  exact ⟨⟨rfl, rfl, .refl s⟩, rfl⟩

/-- Where entering the next screen comes to the hop limit, so does entering this one. -/
theorem go_blocked_of_jumpsOn (h : w.graph.JumpsOn s index target)
    (hroom : s.depth < w.settings.maxHops)
    (hnext : (Play.go (.screen target) w (s.down.markedScreen index)).Blocked w
      (s.down.markedScreen index)) :
    (Play.go (.screen index) w s).Blocked w s ∧
      (Play.go (.screen index) w s).state.seenScreens =
        (Play.go (.screen target) w (s.down.markedScreen index)).state.seenScreens := by
  obtain @⟨screen, source, name, rest, hscreen, hidle, halways, hparse, htarget⟩ := h
  obtain ⟨hresult, hquiet, hframe⟩ := hnext
  have hsource := performSource_of_jump Play.go (s.down.markedScreen index) hparse htarget
  rcases hgo : Play.go (.screen target) w (s.down.markedScreen index) with ⟨result, t, trace⟩
  rw [hgo] at hresult hquiet hframe hsource
  cases hresult
  -- the failure is fatal, so it ends the script at its first command
  have hrun : Script.run Play.go screen.scripts.always w (s.down.markedScreen index) =
      ⟨.error (.navigationLoop w.settings.maxHops), t,
        [⟨.notice (.deed (.jump name)), s.down.markedScreen index⟩] ++ trace⟩ := by
    rw [halways, Script.run_cons, bind_of_error (heed_of_fatal hsource rfl)]
  obtain ⟨trace', hevents, hhere⟩ := go_of_idle_error hroom hscreen hidle hrun
  rw [hhere]
  exact ⟨⟨rfl, hevents.trans hquiet, ((State.SeesMore.markedScreen _ _).trans hframe).up⟩, rfl⟩

/-- **A circle comes to the hop limit.** Induction on the room that the limit leaves: each screen of
the circle uses up one entry and leads to another one. -/
theorem go_circle_blocked {places : Set Nat} (room : Nat) :
    ∀ index s, w.settings.maxHops - s.depth = room →
      (∀ index ∈ places, ∃ target ∈ places, w.graph.JumpsOn s index target) → index ∈ places →
      (Play.go (.screen index) w s).Blocked w s := by
  induction room with
  | zero => exact fun index s hroom _ _ => (go_blocked_of_full (by omega) _).1
  | succ room ih =>
      intro index s hroom hcircle hindex
      obtain ⟨target, htarget, hjumps⟩ := hcircle index hindex
      -- the mark on this screen takes nothing away from the circle
      have hmarked := State.SeesMore.markedScreen s.down index
      have hdeeper := State.depth_down_markedScreen s index
      have hcircle' : ∀ other ∈ places, ∃ next ∈ places,
          w.graph.JumpsOn (s.down.markedScreen index) other next := by
        intro other hother
        obtain ⟨next, hnext, hjumps⟩ := hcircle other hother
        exact ⟨next, hnext, hjumps.mono hmarked.subset⟩
      have hnext := ih target (s.down.markedScreen index) (by omega) hcircle' htarget
      exact (go_blocked_of_jumpsOn hjumps (by omega) hnext).1

end Play

/-! ## Corridors -/

/-- The screens of the graph are a corridor: they have these names, the first one is where the story
starts, and each jumps to the next one. -/
structure Graph.Corridor (graph : Graph) (names : List String) : Prop where
  ne_nil : names ≠ []
  nodup : names.Nodup
  bare : ∀ name ∈ names, Phrase.IsBareWord name
  start : names.head? = some graph.start
  named : graph.screens.map Screen.name = names.map some
  once : ∀ screen ∈ graph.screens, screen.scripts.once = []
  always : ∀ {index screen}, graph.screen? index = some screen →
    screen.scripts.always = (names[index + 1]?.map fun next => "jump " ++ next).toList
  /-- As in every graph of a document. -/
  namesLast : graph.NamesLast

namespace Graph.Corridor

variable {graph : Graph} {names : List String}

theorem length_screens (h : graph.Corridor names) : graph.screens.length = names.length := by
  have hlength := congrArg List.length h.named
  simpa using hlength

/-- The screens of a corridor have its names in their order. -/
theorem name_at (h : graph.Corridor names) (index : Nat) :
    graph.screens[index]?.bind Screen.name = names[index]? := by
  -- the two lists are equal, so they have the same element at each position
  have hname := congrArg (·[index]?) h.named
  simp only [List.getElem?_map] at hname
  cases hscreen : graph.screens[index]? with
  | none =>
      rw [hscreen] at hname
      cases hget : names[index]? with
      | none => rfl
      | some name => rw [hget] at hname; nomatch hname
  | some screen =>
      rw [hscreen] at hname
      cases hget : names[index]? with
      | none => rw [hget] at hname; nomatch hname
      | some name =>
          rw [hget] at hname
          exact Option.some.inj hname

/-- The names lead to the screens that have them. -/
theorem screenIndex?_of_getElem? (h : graph.Corridor names) {name : String}
    (hname : names[index]? = some name) : graph.screenIndex? name = some index := by
  refine (h.namesLast.some_iff name index).mpr ⟨(h.name_at index).trans hname, ?_⟩
  intro later hlater hagain
  rw [h.name_at] at hagain
  obtain ⟨hindex, -⟩ := List.getElem?_eq_some_iff.mp hname
  have hsame := (List.getElem?_inj hindex h.nodup).mp (hname.trans hagain.symm)
  exact absurd hsame (Nat.ne_of_lt hlater)

theorem startIndex? (h : graph.Corridor names) : graph.screenIndex? graph.start = some 0 :=
  h.screenIndex?_of_getElem? (List.head?_eq_getElem?.symm.trans h.start)

/-- A position in the corridor has a screen, and this one runs nothing once. -/
theorem exists_screen (h : graph.Corridor names) (hindex : index < names.length) :
    ∃ screen, graph.screen? index = some screen ∧ screen.scripts.once = [] := by
  rw [← h.length_screens] at hindex
  exact ⟨_, List.getElem?_eq_getElem hindex, h.once _ (List.getElem_mem hindex)⟩

/-- Every screen but the last one jumps to the next. -/
theorem always_of_next (h : graph.Corridor names) (hscreen : graph.screen? index = some screen)
    {next : String} (hnext : names[index + 1]? = some next) :
    screen.scripts.always = ["jump " ++ next] := by
  rw [h.always hscreen, hnext]
  rfl

theorem parse_jump (h : graph.Corridor names) {name : String} (hname : names[index]? = some name) :
    Command.parse ("jump " ++ name) = .ok (.jump name) :=
  Command.parse_jump (h.bare name (List.mem_of_getElem? hname))

/-- Every screen but the last one jumps on. -/
theorem jumpsOn (h : graph.Corridor names) (s : State) (hindex : index + 1 < names.length) :
    graph.JumpsOn s index (index + 1) := by
  obtain ⟨screen, hscreen, honce⟩ := h.exists_screen (Nat.lt_of_succ_lt hindex)
  have hnext : names[index + 1]? = some names[index + 1] := List.getElem?_eq_getElem hindex
  exact ⟨hscreen, .inr honce, h.always_of_next hscreen hnext, h.parse_jump hnext,
    h.screenIndex?_of_getElem? hnext⟩

/-- The screens from one on, the last one first. -/
theorem reverse_drop (hscreen : graph.screen? index = some screen) :
    (graph.screens.drop index).reverse.map Event.screenChanged =
      (graph.screens.drop (index + 1)).reverse.map Event.screenChanged ++
        [.screenChanged screen] := by
  obtain ⟨hindex, rfl⟩ := List.getElem?_eq_some_iff.mp hscreen
  rw [List.drop_eq_getElem_cons hindex, List.reverse_cons, List.map_append]
  rfl

end Graph.Corridor

namespace Play

variable {names : List String}

/-- **A corridor that fits is walked to its end.** Induction on the screens behind the one that is
entered: they are entered first. -/
theorem go_corridor_ok (h : w.graph.Corridor names) (behind : Nat) :
    ∀ index s, index + behind + 1 = names.length → s.depth + behind < w.settings.maxHops →
      ∃ (t : State) (trace : Trace), t.current = some index ∧
        trace.events = (w.graph.screens.drop index).reverse.map .screenChanged ∧
        Play.go (.screen index) w s = ⟨.ok (), t, trace⟩ := by
  induction behind with
  | zero =>
      intro index s hindex hroom
      obtain ⟨screen, hscreen, honce⟩ := h.exists_screen (show index < names.length by omega)
      have halways : screen.scripts.always = [] := by
        rw [h.always hscreen, List.getElem?_eq_none (by omega)]
        rfl
      have hrun : Script.run Play.go screen.scripts.always w (s.down.markedScreen index) =
          ⟨.ok (), s.down.markedScreen index, []⟩ := by
        rw [halways]
        rfl
      obtain ⟨trace, hevents, hgo⟩ := go_of_idle_ok (by omega) hscreen (.inr honce) hrun
      refine ⟨_, trace, rfl, ?_, hgo⟩
      -- the last screen has no script, and arriving there is all that is told
      have hend : w.graph.screens.drop (index + 1) = [] :=
        List.drop_eq_nil_of_le (by rw [h.length_screens]; omega)
      rw [hevents, Graph.Corridor.reverse_drop hscreen, hend]
      rfl
  | succ behind ih =>
      intro index s hindex hroom
      obtain ⟨screen, hscreen, honce⟩ := h.exists_screen (show index < names.length by omega)
      have hnext : names[index + 1]? = some names[index + 1] := List.getElem?_eq_getElem (by omega)
      have hdeeper := State.depth_down_markedScreen s index
      -- the rest of the corridor is entered one level deeper, from inside the script of this screen
      obtain ⟨t, trace, -, hevents, hgo⟩ :=
        ih (index + 1) (s.down.markedScreen index) (by omega) (by omega)
      have hsource := performSource_of_jump Play.go (s.down.markedScreen index)
        (h.parse_jump hnext) (h.screenIndex?_of_getElem? hnext)
      rw [hgo, Outcome.after_mk] at hsource
      have hrun : Script.run Play.go screen.scripts.always w (s.down.markedScreen index) =
          ⟨.ok (), t,
            [⟨.notice (.deed (.jump names[index + 1])), s.down.markedScreen index⟩] ++ trace⟩ := by
        rw [h.always_of_next hscreen hnext, Script.run_cons, bind_of_ok (heed_of_ok hsource)]
        exact congrArg _ (List.append_nil _)
      obtain ⟨trace', hevents', hgo'⟩ := go_of_idle_ok (by omega) hscreen (.inr honce) hrun
      refine ⟨_, trace', rfl, ?_, hgo'⟩
      rw [hevents', Graph.Corridor.reverse_drop hscreen, ← hevents]
      rfl

/-- **A corridor that does not fit comes to the hop limit.** Induction on the screens behind the one
that is entered. As many screens are seen as there was room for. -/
theorem go_corridor_blocked (h : w.graph.Corridor names) (behind : Nat) :
    ∀ index s, index + behind + 1 = names.length → s.depth ≤ w.settings.maxHops →
      w.settings.maxHops ≤ s.depth + behind →
      (Play.go (.screen index) w s).Blocked w s ∧
        ∀ other, other ∈ (Play.go (.screen index) w s).state.seenScreens ↔
          other ∈ s.seenScreens ∨
            index ≤ other ∧ other < index + (w.settings.maxHops - s.depth) := by
  have hfull : ∀ index s, s.depth = w.settings.maxHops →
      (Play.go (.screen index) w s).Blocked w s ∧
        ∀ other, other ∈ (Play.go (.screen index) w s).state.seenScreens ↔
          other ∈ s.seenScreens ∨
            index ≤ other ∧ other < index + (w.settings.maxHops - s.depth) := by
    intro index s hdepth
    obtain ⟨hblocked, hstate⟩ := go_blocked_of_full (Nat.le_of_eq hdepth.symm) (.screen index)
    rw [hstate]
    exact ⟨hblocked, fun other => ⟨.inl, fun hor => hor.resolve_right (by omega)⟩⟩
  induction behind with
  | zero => exact fun index s _ hdepth hover => hfull index s (by omega)
  | succ behind ih =>
      intro index s hindex hdepth hover
      by_cases hroom : s.depth < w.settings.maxHops
      · have hdeeper := State.depth_down_markedScreen s index
        obtain ⟨hnext, hseen⟩ :=
          ih (index + 1) (s.down.markedScreen index) (by omega) (by omega) (by omega)
        obtain ⟨hblocked, hsame⟩ := go_blocked_of_jumpsOn (h.jumpsOn s (by omega)) hroom hnext
        refine ⟨hblocked, fun other => ?_⟩
        rw [hsame, hseen, State.mem_markedScreen, hdeeper]
        show (other = index ∨ other ∈ s.seenScreens) ∨ _ ↔ _
        -- this screen is seen, and so are those behind it that there is room for
        by_cases hhere : other = index
        · subst hhere
          exact iff_of_true (.inl (.inl rfl)) (.inr ⟨Nat.le_refl _, by omega⟩)
        · rw [or_iff_right hhere]
          exact or_congr_right (by omega)
      · exact hfull index s (by omega)

end Play

/-! ## The result -/

namespace Graph.Corridor

variable {names : List String} (h : w.graph.Corridor names)
include h

/-- Behind the first screen of a corridor there are all the others. -/
theorem length_behind : 0 + (names.length - 1) + 1 = names.length := by
  have hpos := List.length_pos_of_ne_nil h.ne_nil
  omega

/-- A corridor that fits into the limit is walked to its end, and then back up to the first
screen. -/
theorem start_of_fits (hfits : names.length ≤ w.settings.maxHops) :
    (Play.start w (.initial w)).result = .ok () ∧
      (Play.start w (.initial w)).trace.events =
        w.graph.screens.reverse.map .screenChanged ++ [.messageChanged ""] ∧
      (Play.start w (.initial w)).state.current = some 0 := by
  have hlength := h.length_behind
  have hdepth : (State.initial w).depth = 0 := rfl
  obtain ⟨t, trace, hcurrent, hevents, hgo⟩ := Play.go_corridor_ok h (names.length - 1) 0
    { State.initial w with phase := .active } hlength (by dsimp only; omega)
  rw [Play.start, Play.startBy_of_ok h.startIndex? hgo]
  refine ⟨rfl, ?_, hcurrent⟩
  rw [List.drop_zero] at hevents
  simp [hevents]

/-- A corridor that is too long is given up at the limit, with every screen up to there marked as
seen. -/
theorem start_of_exceeds (hover : w.settings.maxHops < names.length) :
    (Play.start w (.initial w)).result =
        .error (.action (.navigationLoop w.settings.maxHops)) ∧
      (Play.start w (.initial w)).trace.events = [] ∧
      (Play.start w (.initial w)).state.phase = .notStarted ∧
      (Play.start w (.initial w)).state.current = none ∧
      ∀ index, index ∈ (Play.start w (.initial w)).state.seenScreens ↔
        index < w.settings.maxHops := by
  have hlength := h.length_behind
  obtain ⟨⟨hresult, hquiet, hframe⟩, hseen⟩ := Play.go_corridor_blocked h (names.length - 1) 0
    { State.initial w with phase := .active } hlength (Nat.zero_le _) (by show _ ≤ 0 + _; omega)
  rcases hgo : Play.go (.screen 0) w { State.initial w with phase := .active } with
    ⟨result, t, trace⟩
  rw [hgo] at hresult hquiet hframe hseen
  cases hresult
  -- no screen became current, so the story is as if not started
  have hcurrent : t.current = none := congrArg State.current hframe.frame
  rw [Play.start, Play.startBy_of_error h.startIndex? hgo]
  refine ⟨rfl, ?_, ?_, hcurrent, fun index => ?_⟩
  · dsimp only at hquiet
    simp [hquiet]
  · dsimp only
    rw [hcurrent]
    rfl
  · refine (hseen index).trans ?_
    show index ∈ [] ∨ 0 ≤ index ∧ index < 0 + (w.settings.maxHops - 0) ↔ _
    simp

end Graph.Corridor

/-- **The hop limit is exact, and circles always come to it.** A corridor of screens can be entered
exactly if the hop limit is no less than its length; the host is told of the screens from the last
one to the first, which is current then. Else nobody is told anything, the story has not started,
and as many screens are seen as the limit allows. A set of screens each of which leads straight on
to one of the set cannot be entered under any limit, and trying to changes nothing but the seen
screens. -/
theorem hop_limit_is_exact :
    (∀ (w : World) (names : List String), w.graph.Corridor names →
      ((Play.start w (.initial w)).result = .ok () ↔ names.length ≤ w.settings.maxHops) ∧
      (names.length ≤ w.settings.maxHops →
        (Play.start w (.initial w)).trace.events =
          w.graph.screens.reverse.map .screenChanged ++ [.messageChanged ""] ∧
        (Play.start w (.initial w)).state.current = some 0) ∧
      (w.settings.maxHops < names.length →
        (Play.start w (.initial w)).result =
          .error (.action (.navigationLoop w.settings.maxHops)) ∧
        (Play.start w (.initial w)).trace.events = [] ∧
        (Play.start w (.initial w)).state.phase = .notStarted ∧
        (Play.start w (.initial w)).state.current = none ∧
        ∀ index, index ∈ (Play.start w (.initial w)).state.seenScreens ↔
          index < w.settings.maxHops)) ∧
    ∀ (w : World) (s : State) (places : Set Nat),
      (∀ index ∈ places, ∃ target ∈ places, w.graph.JumpsOn s index target) →
      ∀ index ∈ places,
        (Play.go (.screen index) w s).result =
          .error (.navigationLoop w.settings.maxHops) ∧
        (Play.go (.screen index) w s).trace.events = [] ∧
        (Play.go (.screen index) w s).state =
          { s with seenScreens := (Play.go (.screen index) w s).state.seenScreens } := by
  refine ⟨fun w names h => ⟨⟨fun hok => ?_, fun hfits => (h.start_of_fits hfits).1⟩,
    fun hfits => (h.start_of_fits hfits).2, fun hover => h.start_of_exceeds hover⟩,
    fun w s places hcircle index hindex => ?_⟩
  · -- a corridor that does not fit fails, and so it did not succeed
    by_contra hover
    rw [(h.start_of_exceeds (Nat.lt_of_not_le hover)).1] at hok
    nomatch hok
  · obtain ⟨hresult, hquiet, hframe⟩ := Play.go_circle_blocked _ index s rfl hcircle hindex
    exact ⟨hresult, hquiet, hframe.frame⟩

/-- Three flights of stairs, one above the other. -/
def Quest.stairs : Quest where
  name := "stairs"
  start := "cellar"
  screens :=
    [{ name := some "cellar", scripts := { always := ["jump hall"] } },
      { name := some "hall", scripts := { always := ["jump attic"] } },
      { name := some "attic" }]

/-- Three flights of stairs are a corridor. -/
theorem Quest.stairs_corridor : Quest.stairs.graph.Corridor ["cellar", "hall", "attic"] where
  ne_nil := List.cons_ne_nil _ _
  nodup := by decide
  bare := by decide
  start := rfl
  named := rfl
  once := by
    intro screen hscreen
    rw [Quest.graph_screens] at hscreen
    fin_cases hscreen <;> rfl
  -- there are only three screens, so each can be looked at
  always := by
    intro index screen hscreen
    rw [Graph.screen?, Quest.graph_screens] at hscreen
    obtain ⟨hindex, rfl⟩ := List.getElem?_eq_some_iff.mp hscreen
    have hlt : index < 3 := hindex
    obtain rfl | rfl | rfl : index = 0 ∨ index = 1 ∨ index = 2 := by omega
    · rfl
    · rfl
    · rfl
  namesLast := Quest.stairs.graph_namesLast

/-- Two screens that lead to one another, the first of them on the second visit only. -/
def World.seesaw : World where
  graph :=
    { name := "seesaw"
      title := "Seesaw"
      start := "left"
      screens :=
        [{ name := some "left", scripts := { once := ["message up"], always := ["jump right"] } },
          { name := some "right", scripts := { always := ["jump \"left\"", "exit"] } }]
      screenNames := .ofList [("left", 0), ("right", 1)] }
  settings := { maxHops := 5 }

/-- On the seesaw, with two entries going on already. -/
def State.onSeesaw : State :=
  { State.initial .seesaw with phase := .active, seenScreens := [0], depth := 2 }

/-- Each end of a seesaw jumps to the other one. -/
theorem World.seesaw_circles :
    ∀ index ∈ ({0, 1} : Set Nat), ∃ target ∈ ({0, 1} : Set Nat),
      World.seesaw.graph.JumpsOn .onSeesaw index target := by
  rintro index (rfl | rfl)
  · exact ⟨1, .inr rfl, rfl, .inl (by decide), rfl, by cbv, by cbv⟩
  · exact ⟨0, .inl rfl, rfl, .inr rfl, rfl, by cbv, by cbv⟩

/-- Three hops are enough for the stairs and two are not, and no number of hops is enough for the
seesaw. -/
theorem stairs_take_three_hops :
    Quest.stairs.graph.Corridor ["cellar", "hall", "attic"] ∧
      (Play.start ⟨Quest.stairs.graph, { maxHops := 3 }⟩
        (.initial ⟨Quest.stairs.graph, { maxHops := 3 }⟩)).result = .ok () ∧
      (Play.start ⟨Quest.stairs.graph, { maxHops := 2 }⟩
        (.initial ⟨Quest.stairs.graph, { maxHops := 2 }⟩)).result =
          .error (.action (.navigationLoop 2)) ∧
      (∀ index, index ∈ (Play.start ⟨Quest.stairs.graph, { maxHops := 2 }⟩
        (.initial ⟨Quest.stairs.graph, { maxHops := 2 }⟩)).state.seenScreens ↔ index < 2) ∧
      (Play.go (.screen 1) .seesaw .onSeesaw).result = .error (.navigationLoop 5) ∧
      (Play.go (.screen 1) .seesaw .onSeesaw).trace.events = [] := by
  obtain ⟨hcorridor, hcircle⟩ := hop_limit_is_exact
  obtain ⟨hfits, -, -⟩ :=
    hcorridor ⟨Quest.stairs.graph, { maxHops := 3 }⟩ _ Quest.stairs_corridor
  obtain ⟨-, -, hover⟩ :=
    hcorridor ⟨Quest.stairs.graph, { maxHops := 2 }⟩ _ Quest.stairs_corridor
  obtain ⟨hresult, -, -, -, hseen⟩ := hover (by decide)
  obtain ⟨hloop, hquiet, -⟩ := hcircle .seesaw .onSeesaw {0, 1} World.seesaw_circles 1 (.inr rfl)
  exact ⟨Quest.stairs_corridor, hfits.mpr (by decide), hresult, hseen, hloop, hquiet⟩

end Narrative
