import Narrative.Proofs.Session.Navigation

/-!
# Trails: what scripts can do, said once

A `Trail` is built from the few things that may happen while a script runs or a place is entered:
steps that change one part of the state, failures with their reason, skipped commands, and entries
of places, which lie between the two changes of the depth. What scripts and places do is a trail
(`go_trail`, `run_tracked`, `perform_tracked`), so whatever holds of the few constructors holds of
every run, by one induction on the trail.

A `Licence` says which sources, commands, variables and places a run may use. Invariants of all
runs use the licence for everything; statements about the scripts of a graph use a narrower one.
-/

namespace Narrative

/-- What a run may use. -/
structure Licence where
  /-- The sources that scripts may hold. -/
  source : String → Prop
  /-- The commands that may be performed. -/
  command : Command → Prop
  /-- The variables that may be given a value. -/
  target : String → Prop
  /-- The places that may be entered. -/
  place : Destination → Prop
  parsed : ∀ {text found}, source text → Command.parse text = .ok found → command found
  assigned : ∀ {name assignment expression},
    command (.set name assignment expression) → target name

/-- The licence for everything. -/
def Licence.all : Licence where
  source _ := True
  command _ := True
  target _ := True
  place _ := True
  parsed _ _ := trivial
  assigned _ := trivial

/-- The licence admits all that the places of the graph hold, the first screen, and every place
that an admitted command leads to. -/
structure Licence.Covers (L : Licence) (w : World) : Prop where
  screens : ∀ {index screen}, w.graph.screen? index = some screen →
    (∀ source ∈ screen.scripts.once, L.source source) ∧
      (∀ source ∈ screen.scripts.always, L.source source) ∧
      ∀ choice ∈ screen.choices, ∀ source ∈ choice.action, L.source source
  relays : ∀ {name relay}, w.graph.relay? name = some relay →
    (∀ source ∈ relay.scripts.once, L.source source) ∧
      (∀ source ∈ relay.scripts.always, L.source source) ∧
      ∀ fork ∈ relay.forks, ∀ source ∈ fork.action, L.source source
  places : ∀ {s command destination}, L.command command → command.Leads w s destination →
    L.place destination
  start : ∀ {index}, w.graph.screenIndex? w.graph.start = some index → L.place (.screen index)

/-- A licence for everything covers every world. -/
theorem Licence.all_covers (w : World) : Licence.all.Covers w where
  screens _ := ⟨fun _ _ => trivial, fun _ _ => trivial, fun _ _ _ _ => trivial⟩
  relays _ := ⟨fun _ _ => trivial, fun _ _ => trivial, fun _ _ _ _ => trivial⟩
  places _ _ := trivial
  start _ := trivial

/-- Whether a notice is that of a skipped command. -/
def Notice.isSkip : Notice → Bool
  | .skippedCommand _ _ => true
  | _ => false

/-- One thing that happens, with its trace: a part of the state changes, or the host or the log is
told something. Changes of the depth and skipped commands are no steps. -/
inductive Step (w : World) (L : Licence) : State → Trace → State → Prop
  | notes {s : State} (notices : List Notice) (h : ∀ notice ∈ notices, notice.isSkip = false) :
      Step w L s (notices.map fun notice => ⟨.notice notice, s⟩) s
  | say {s : State} (text : String) :
      Step w L s
        [⟨.change, { s with message := text }⟩,
          ⟨.event (.messageChanged text), { s with message := text }⟩]
        { s with message := text }
  | finish {s : State} :
      Step w L s
        [⟨.change, { s with phase := .finished }⟩,
          ⟨.notice (.finished w.graph.name), { s with phase := .finished }⟩,
          ⟨.event (.questFinished w.graph.name), { s with phase := .finished }⟩]
        { s with phase := .finished }
  | give {s : State} {item : String} {amount : Amount} (h : w.graph.hasItem item = true) :
      Step w L s [⟨.change, { s with inventory := s.inventory.add item amount }⟩]
        { s with inventory := s.inventory.add item amount }
  | consume {s : State} {item : String} {amount : Amount} {inventory : Inventory}
      (h : w.graph.hasItem item = true)
      (hheld : s.inventory.consume? item amount = some inventory) :
      Step w L s [⟨.change, { s with inventory := inventory }⟩] { s with inventory := inventory }
  | drop {s : State} {item : String} {stack : Stack} {inventory : Inventory}
      (h : w.graph.hasItem item = true)
      (hheld : s.inventory.remove? item = some (stack, inventory)) :
      Step w L s [⟨.change, { s with inventory := inventory }⟩] { s with inventory := inventory }
  | craft {s : State} {index : Nat} {recipe : Recipe}
      (h : s.unlockedRecipe? w index = some recipe)
      (hheld : recipe.canCraft s.inventory = true) :
      Step w L s [⟨.change, { s with inventory := recipe.craft s.inventory }⟩]
        { s with inventory := recipe.craft s.inventory }
  | unlock {s : State} {recipe : String} (h : w.graph.recipes.contains recipe = true) :
      Step w L s [⟨.change, { s with unlocked := s.unlocked ++ [recipe] }⟩]
        { s with unlocked := s.unlocked ++ [recipe] }
  | lock {s : State} (recipe : String) :
      Step w L s [⟨.change, { s with unlocked := s.unlocked.erase recipe }⟩]
        { s with unlocked := s.unlocked.erase recipe }
  | assign {s : State} {name : String} (value : Value) (h : L.target name) :
      Step w L s [⟨.change, { s with values := s.values.insert name value }⟩]
        { s with values := s.values.insert name value }
  | seeScreen {s : State} {index : Nat} {screen : Screen}
      (h : w.graph.screen? index = some screen) (hnew : index ∉ s.seenScreens) :
      Step w L s [⟨.change, s.seeScreen index⟩] (s.seeScreen index)
  | seeRelay {s : State} {name : String} {relay : Relay}
      (h : w.graph.relay? name = some relay) (hnew : name ∉ s.seenRelays) :
      Step w L s [⟨.change, s.seeRelay name⟩] (s.seeRelay name)
  | arrive {s : State} {index : Nat} {screen : Screen} (h : w.graph.screen? index = some screen) :
      Step w L s
        [⟨.change, { s with current := some index }⟩,
          ⟨.notice (.screenChanged screen.label), { s with current := some index }⟩,
          ⟨.event (.screenChanged screen), { s with current := some index }⟩]
        { s with current := some index }
  | activate {s : State} :
      Step w L s [⟨.change, { s with phase := .active }⟩] { s with phase := .active }
  | settle {s : State} :
      Step w L s
        [⟨.change, { s with phase := if s.current.isNone then .notStarted else s.phase }⟩]
        { s with phase := if s.current.isNone then .notStarted else s.phase }
  | choose {s : State} (choice : Choice) :
      Step w L s [⟨.event (.choiceSelected choice), s⟩] s

/-- Why something fails. -/
inductive Failure (w : World) (L : Licence) (s : State) : ActionError → Prop
  | malformed {source : String} {error : CommandError} (hsource : L.source source)
      (h : Command.parse source = .error error) : Failure w L s (.command error)
  | refused {command : Command} {error : ActionError} (hcommand : L.command command)
      (h : command.Fails w s error) : Failure w L s error
  | guard {name : String} {relay : Relay} {error : ExprError}
      (hrelay : w.graph.relay? name = some relay)
      (h : relay.selectFork (s.context w) = .error error) : Failure w L s (.expr error)
  | full (h : w.settings.maxHops ≤ s.depth) :
      Failure w L s (.navigationLoop w.settings.maxHops)
  | missing {destination : Destination} (hplace : L.place destination)
      (h : ¬ destination.ExistsIn w.graph) : Failure w L s destination.missing

/-- What scripts and places do. -/
inductive Trail (w : World) (L : Licence) : State → Outcome ActionError Unit → Prop
  | done (s : State) : Trail w L s ⟨.ok (), s, []⟩
  | fails {s : State} {error : ActionError} (h : Failure w L s error) :
      Trail w L s ⟨.error error, s, []⟩
  | step {s s' : State} {trace : Trace} (h : Step w L s trace s') :
      Trail w L s ⟨.ok (), s', trace⟩
  | seq {s s' : State} {trace : Trace} {outcome : Outcome ActionError Unit}
      (first : Trail w L s ⟨.ok (), s', trace⟩) (rest : Trail w L s' outcome) :
      Trail w L s (outcome.after trace)
  | skip {s s' : State} {trace : Trace} {source : String} {error : ActionError}
      (first : Trail w L s ⟨.error error, s', trace⟩) (hfatal : error.isFatal = false)
      (hsource : L.source source) :
      Trail w L s ⟨.ok (), s', trace ++ [.skipped source error s']⟩
  | entry {s : State} {outcome : Outcome ActionError Unit}
      (hroom : s.depth < w.settings.maxHops) (inner : Trail w L s.down outcome) :
      Trail w L s ⟨outcome.result, outcome.state.up,
        ⟨.change, s.down⟩ :: outcome.trace ++ [⟨.change, outcome.state.up⟩]⟩

variable {w : World} {L : Licence} {s s' : State} {trace : Trace}

/-! ## Steps leave the depth alone, and trails come back to it -/

/-- Steps within a level do not change the depth. -/
theorem Step.depth_eq (h : Step w L s trace s') : s'.depth = s.depth := by
  cases h <;> rfl

/-- A step passes through no state but the one that it ends in. -/
theorem Step.state_of_mem (h : Step w L s trace s') {entry : TraceEntry} (hentry : entry ∈ trace) :
    entry.state = s' := by
  cases h
  case notes notices h =>
    obtain ⟨notice, -, rfl⟩ := List.mem_map.mp hentry
    rfl
  all_goals
    simp only [List.mem_cons, List.not_mem_nil, or_false] at hentry
    rcases hentry with rfl | rfl | rfl | rfl <;> rfl

/-- **Every trail unwinds**: it ends at the depth at which it began, however it ends. -/
theorem Trail.depth_eq {outcome : Outcome ActionError Unit} (h : Trail w L s outcome) :
    outcome.state.depth = s.depth := by
  induction h with
  | done s => rfl
  | fails _ => rfl
  | step h => exact h.depth_eq
  | seq _ _ ihfirst ihrest => exact ihrest.trans ihfirst
  | skip _ _ _ ih => exact ih
  | entry _ _ ih =>
      -- the inner trail ends one level deeper, from where the way up leads back
      rw [State.depth_up, ih, State.depth_down, Nat.add_sub_cancel]

/-! ## What scripts do is a trail -/

namespace Play

/-- From every state at this depth the operation is a trail. -/
def Tracked (w : World) (L : Licence) (depth : Nat) (play : Play ActionError Unit) : Prop :=
  ∀ s, s.depth = depth → Trail w L s (play w s)

variable {depth : Nat} {go : Destination → Play ActionError Unit}

/-- Plays in a row are tracked if each of them is. -/
theorem Tracked.bind {first next : Play ActionError Unit} (hfirst : Tracked w L depth first)
    (hnext : Tracked w L depth next) : Tracked w L depth (first >>= fun _ => next) := by
  intro s hs
  have htrail := hfirst s hs
  rcases hrun : first w s with ⟨result, s', trace⟩
  rw [hrun] at htrail
  cases result with
  | ok value =>
      rw [bind_of_ok hrun]
      exact htrail.seq (hnext s' (htrail.depth_eq.trans hs))
  | error error =>
      rw [bind_of_error hrun]
      exact htrail

theorem trail_note {notice : Notice} (h : notice.isSkip = false) :
    Trail w L s ⟨.ok (), s, [⟨.notice notice, s⟩]⟩ :=
  .step (.notes [notice] fun _ hmem => List.mem_singleton.mp hmem ▸ h)

/-- What a command does to the state is a trail. -/
theorem trail_of_acts {command : Command} (hcommand : L.command command)
    (h : command.Acts w s trace s') : Trail w L s ⟨.ok (), s', trace⟩ := by
  cases h with
  | message text => exact (trail_note rfl).seq (.step (.say text))
  | give h => exact (Trail.step (.give h)).seq (trail_note rfl)
  | consume h hheld => exact (Trail.step (.consume h hheld)).seq (trail_note rfl)
  | spare h hheld => exact trail_note rfl
  | unlock h => exact (Trail.step (.unlock h)).seq (trail_note rfl)
  | lock h => exact (Trail.step (.lock _)).seq (trail_note rfl)
  | set h => exact (trail_note rfl).seq (.step (.assign _ (L.assigned hcommand)))
  | exit => exact (trail_note rfl).seq (.step .finish)

section

variable (hL : L.Covers w) (hgo : ∀ destination, L.place destination →
  Tracked w L depth (go destination))
include hL hgo

/-- A command is tracked where the ways are. -/
theorem perform_tracked {command : Command} (hcommand : L.command command) :
    Tracked w L depth (perform go command) := by
  intro s hs
  have hcases := perform_performed go w s command
  generalize perform go command w s = outcome at hcases ⊢
  cases hcases with
  | fails h => exact .fails (.refused hcommand h)
  | leads deed h => exact (trail_note rfl).seq (hgo _ (hL.places hcommand h) s hs)
  | acts h => exact trail_of_acts hcommand h

theorem performSource_tracked {source : String} (hsource : L.source source) :
    Tracked w L depth (performSource go source) := by
  intro s hs
  cases hparse : Command.parse source with
  | error error =>
      rw [performSource_of_error hparse]
      exact .fails (.malformed hsource hparse)
  | ok command =>
      rw [performSource_of_ok hparse]
      exact perform_tracked hL hgo (L.parsed hsource hparse) s hs

/-- Heeding a source is tracked where the ways are. -/
theorem heed_tracked {source : String} (hsource : L.source source) :
    Tracked w L depth (heed go source) := by
  intro s hs
  have htrail := performSource_tracked hL hgo hsource s hs
  cases heeding go source w s with
  | done hrun =>
      rw [heed_of_ok hrun, ← hrun]
      exact htrail
  | skip hrun hfatal =>
      -- what the command did before it failed is part of the trail, be it nothing
      rw [heed_of_skip hrun hfatal]
      rw [hrun] at htrail
      exact htrail.skip hfatal hsource
  | fatal hrun hfatal =>
      rw [heed_of_fatal hrun hfatal, ← hrun]
      exact htrail

/-- A script is a trail. -/
theorem run_tracked {script : Script} (hscript : ∀ source ∈ script, L.source source) :
    Tracked w L depth (Script.run go script) := by
  induction script with
  | nil => exact fun s _ => .done s
  | cons source rest ih =>
      intro s hs
      rw [Script.run_cons]
      have hhead := heed_tracked hL hgo (hscript source List.mem_cons_self)
      exact hhead.bind (ih fun other h => hscript other (List.mem_cons_of_mem _ h)) s hs

/-- The scripts of a stage take a trail, behind the mark on a new place. -/
theorem staged_trail {seen : Bool} {mark : State → State} {scripts : StageScripts}
    (honce : ∀ source ∈ scripts.once, L.source source)
    (halways : ∀ source ∈ scripts.always, L.source source) (hs : s.depth = depth)
    (hmark : seen = false → Step w L s [⟨.change, mark s⟩] (mark s)) :
    Trail w L s (staged go seen mark scripts w s) := by
  cases seen with
  | true => exact run_tracked hL hgo halways s hs
  | false =>
      have hstep := hmark rfl
      have hscripts := (run_tracked hL hgo honce).bind (run_tracked hL hgo halways)
      rw [staged_of_new]
      exact (Trail.step hstep).seq (hscripts _ (hstep.depth_eq.trans hs))

theorem stageScreen_tracked {index : Nat} {screen : Screen}
    (hscreen : w.graph.screen? index = some screen) :
    Tracked w L depth (stageScreen go index screen) := by
  obtain ⟨honce, halways, -⟩ := hL.screens hscreen
  intro s hs
  rw [stageScreen_run]
  exact staged_trail hL hgo honce halways hs fun hnew =>
    .seeScreen hscreen (of_decide_eq_false hnew)

theorem stageRelay_tracked {name : String} {relay : Relay}
    (hrelay : w.graph.relay? name = some relay) :
    Tracked w L depth (stageRelay go relay name) := by
  obtain ⟨honce, halways, -⟩ := hL.relays hrelay
  intro s hs
  rw [stageRelay_run]
  exact staged_trail hL hgo honce halways hs fun hnew =>
    .seeRelay hrelay (of_decide_eq_false hnew)

omit hL hgo in
/-- The remarks on guards are notices of no skipped command. -/
theorem step_remarks (remarks : List Remark) : Step w L s (remarkTrace w s remarks) s := by
  refine .notes _ fun notice hnotice => ?_
  obtain ⟨remark, -, hsome⟩ := List.mem_filterMap.mp hnotice
  cases remark with
  | counted item =>
      simp only [noticeOf?] at hsome
      split at hsome
      · nomatch hsome
      · cases hsome; rfl
  | failed source error => cases hsome; rfl

omit hL hgo in
/-- The script of a fork is admitted, and so is the empty one that stands for no fork. -/
theorem fork_admitted {forks : List Fork}
    (hforks : ∀ fork ∈ forks, ∀ source ∈ fork.action, L.source source) (index : Nat) :
    ∀ source ∈ (forks[index]?.map Fork.action).getD [], L.source source := by
  intro source hsource
  cases hget : forks[index]? with
  | none => rw [hget] at hsource; nomatch hsource
  | some fork =>
      rw [hget] at hsource
      exact hforks fork (List.mem_of_getElem? hget) source hsource

theorem takeFork_tracked {name : String} {relay : Relay}
    (hrelay : w.graph.relay? name = some relay) :
    Tracked w L depth (takeFork go relay name) := by
  obtain ⟨-, -, hforks⟩ := hL.relays hrelay
  intro s hs
  rw [takeFork_run]
  refine (Trail.step (step_remarks _)).seq ?_
  cases hfork : relay.selectFork (s.context w) with
  | error error => exact .fails (.guard hrelay hfork)
  | ok found =>
      cases found with
      | none => exact trail_note rfl
      | some index => exact run_tracked hL hgo (fork_admitted hforks index) s hs

/-- A visit is a trail if all entries within it are. -/
theorem visit_tracked {destination : Destination} (hplace : L.place destination) :
    Tracked w L depth (visit go destination) := by
  intro s hs
  by_cases hexists : destination.ExistsIn w.graph
  · cases destination with
    | screen index =>
        obtain ⟨screen, hscreen⟩ := Graph.exists_screen? hexists
        rw [visit, visitScreen_of_some hscreen]
        exact (stageScreen_tracked hL hgo hscreen).bind
          (fun _ _ => .step (.arrive hscreen)) s hs
    | relay name =>
        -- the fork is taken at the same depth, behind the scripts of the relay
        obtain ⟨relay, hrelay⟩ := Graph.exists_relay? hexists
        rw [visit, visitRelay_of_some hrelay]
        exact (stageRelay_tracked hL hgo hrelay).bind (takeFork_tracked hL hgo hrelay) s hs
  · -- the look-up fails before any script is run
    rw [visit_of_missing hexists]
    exact .fails (.missing hplace hexists)

end

/-- Entering a place is a trail where the room is what the hop limit leaves. -/
theorem enter_trail (hL : L.Covers w) (room : Nat) :
    ∀ destination, L.place destination → ∀ s, room = w.settings.maxHops - s.depth →
      Trail w L s (enter room destination w s) := by
  induction room with
  | zero =>
      intro destination _ s hroom
      exact (trail_note rfl).seq (.fails (.full (Nat.le_of_sub_eq_zero hroom.symm)))
  | succ room ih =>
      intro destination hplace s hroom
      -- a visit at one level enters places at the next one only, where there is one room less
      have hinner : Tracked w L (s.depth + 1) (visit (enter room) destination) :=
        visit_tracked hL (fun other hother s' hs' => ih other hother s' (by omega)) hplace
      rw [enter, deeper_run]
      exact .entry (by omega) (hinner s.down rfl)

/-- **Entering a place is a trail**, whatever its scripts are and wherever they lead. -/
theorem go_trail (hL : L.Covers w) {destination : Destination} (hplace : L.place destination)
    (s : State) : Trail w L s (Play.go destination w s) :=
  enter_trail hL _ destination hplace s rfl

theorem go_tracked (hL : L.Covers w) (depth : Nat) :
    ∀ destination, L.place destination → Tracked w L depth (Play.go destination) :=
  fun _ hplace s _ => go_trail hL hplace s

end Play

end Narrative
