import Narrative.Proofs.Build
import Narrative.Proofs.Inventory
import Narrative.Proofs.Session.Agreement

/-!
# The representation invariant of sessions

Whatever a state refers to by position or by name is there in the graph, and the inventory is in
order. This holds in every state that a session passes through.

* **`State.Valid`** — the invariant. `Valid.step` says that every step keeps it, one case for each
  kind of step, and the principles of the earlier modules do the rest.
* **`Play.goOr`** — entering places with anything at all in place of the failure for a place that
  does not exist. In a sound graph it makes no difference (`goOr_eq_go`): no run gets there.
-/

namespace Narrative

/-- Everything that the state refers to is there in the graph. -/
structure State.Valid (graph : Graph) (s : State) : Prop where
  current : ∀ index, s.current = some index → index < graph.screens.length
  seenScreens : ∀ index ∈ s.seenScreens, index < graph.screens.length
  seenRelays : ∀ name ∈ s.seenRelays, graph.relays.contains name = true
  unlocked : ∀ name ∈ s.unlocked, graph.recipes.contains name = true
  inventory : s.inventory.Sound fun item => graph.hasItem item = true

variable {w : World} {L : Licence} {s s' : State} {trace : Trace}

theorem Graph.lt_of_screen? {graph : Graph} {index : Nat} {screen : Screen}
    (h : graph.screen? index = some screen) : index < graph.screens.length :=
  (List.getElem?_eq_some_iff.mp h).1

theorem Graph.contains_of_relay? {graph : Graph} {name : String} {relay : Relay}
    (h : graph.relay? name = some relay) : graph.relays.contains name = true := by
  show (graph.relay? name).isSome = true
  rw [h]
  rfl

/-- What stands at an unlocked position is a recipe of the graph. -/
theorem State.recipe?_of_unlockedRecipe? {index : Nat} {recipe : Recipe}
    (h : s.unlockedRecipe? w index = some recipe) : ∃ name, w.graph.recipe? name = some recipe := by
  obtain ⟨name, -, hrecipe⟩ := Option.bind_eq_some_iff.mp h
  exact ⟨name, hrecipe⟩

/-- **What is unlocked is known**, in whatever graph: only known recipes are unlocked. -/
theorem Step.unlocked_known (hstep : Step w L s trace s')
    (h : ∀ name ∈ s.unlocked, w.graph.recipes.contains name = true) :
    ∀ name ∈ s'.unlocked, w.graph.recipes.contains name = true := by
  cases hstep with
  | unlock hrecipe =>
      intro name hname
      rcases List.mem_append.mp hname with hname | hname
      · exact h name hname
      · exact List.mem_singleton.mp hname ▸ hrecipe
  | lock recipe => exact fun name hname => h name (List.mem_of_mem_erase hname)
  | _ => exact h

/-- A reachable state unlocks recipes of the graph only. -/
theorem State.Reachable.unlocked_known {allowed : HostCall → Prop}
    (h : State.Reachable w allowed s) :
    ∀ name ∈ s.unlocked, w.graph.recipes.contains name = true :=
  h.invariant (I := fun state => ∀ name ∈ state.unlocked, w.graph.recipes.contains name = true)
    (Licence.all_covers w) (fun call _ => call.admittedBy_all) (fun _ hname => nomatch hname)
    Step.unlocked_known (fun _ hs => hs) fun hs => hs

/-- A position of names that are known has its recipe. -/
theorem State.exists_unlockedRecipe?
    (h : ∀ name ∈ s.unlocked, w.graph.recipes.contains name = true) {index : Nat}
    (hindex : index < s.unlocked.length) : ∃ recipe, s.unlockedRecipe? w index = some recipe := by
  have hname := h s.unlocked[index] (List.getElem_mem hindex)
  obtain ⟨recipe, hrecipe⟩ := Option.isSome_iff_exists.mp hname
  refine ⟨recipe, ?_⟩
  rw [State.unlockedRecipe?, List.getElem?_eq_getElem hindex]
  exact hrecipe

namespace State.Valid

/-- A fresh session is valid. -/
theorem initial (w : World) : (State.initial w).Valid w.graph where
  current _ h := nomatch h
  seenScreens _ h := nomatch h
  seenRelays _ h := nomatch h
  unlocked _ h := nomatch h
  inventory := .empty

theorem down (h : s.Valid w.graph) : s.down.Valid w.graph :=
  ⟨h.current, h.seenScreens, h.seenRelays, h.unlocked, h.inventory⟩

theorem up (h : s.Valid w.graph) : s.up.Valid w.graph :=
  ⟨h.current, h.seenScreens, h.seenRelays, h.unlocked, h.inventory⟩

/-- **Every step keeps the invariant.** Steps that do not touch what the invariant speaks about
keep it as it is; the others have checked beforehand what they put into the state. -/
theorem step (hg : w.graph.Sound) (hstep : Step w L s trace s') (h : s.Valid w.graph) :
    s'.Valid w.graph := by
  have hunlocked := hstep.unlocked_known h.unlocked
  cases hstep with
  | notes notices hskip => exact h
  | say text => exact { h with }
  | finish => exact { h with }
  | give hitem => exact { h with inventory := h.inventory.add hitem _ }
  | consume hitem hheld => exact { h with inventory := h.inventory.consume? hheld }
  | drop hitem hheld => exact { h with inventory := h.inventory.remove? hheld }
  | craft hrecipe hheld =>
      -- the results are items of the graph because its recipes name no others
      obtain ⟨name, hname⟩ := recipe?_of_unlockedRecipe? hrecipe
      have hresults := fun stack hstack =>
        hg.recipes hname stack (List.mem_append_right _ hstack)
      exact { h with inventory := h.inventory.craft hresults }
  | unlock hrecipe => exact { h with unlocked := hunlocked }
  | lock recipe => exact { h with unlocked := hunlocked }
  | assign value htarget => exact { h with }
  | seeScreen hscreen hnew =>
      refine { h with seenScreens := fun index hindex => ?_ }
      rcases List.mem_cons.mp hindex with rfl | hindex
      · exact Graph.lt_of_screen? hscreen
      · exact h.seenScreens index hindex
  | seeRelay hrelay hnew =>
      refine { h with seenRelays := fun name hname => ?_ }
      rcases List.mem_cons.mp hname with rfl | hname
      · exact Graph.contains_of_relay? hrelay
      · exact h.seenRelays name hname
  | arrive hscreen =>
      refine { h with current := fun index hindex => ?_ }
      cases hindex
      exact Graph.lt_of_screen? hscreen
  | activate => exact { h with }
  | settle => exact { h with }
  | choose choice => exact h

/-- Steps keep a valid state valid, also in between. -/
theorem steps (hg : w.graph.Sound) (hsteps : Steps w L s trace s') (h : s.Valid w.graph) :
    s'.Valid w.graph ∧ ∀ state ∈ trace.states, state.Valid w.graph :=
  hsteps.invariant (I := fun state => state.Valid w.graph) (step hg) (fun _ => down) up h

/-- Every reachable state is valid. -/
theorem reachable (hg : w.graph.Sound) {allowed : HostCall → Prop}
    (h : State.Reachable w allowed s) : s.Valid w.graph :=
  h.invariant (I := fun state => state.Valid w.graph) (Licence.all_covers w)
    (fun call _ => call.admittedBy_all) (initial w) (step hg) (fun _ => down) up

/-- Every position of the unlocked recipes has its recipe. -/
theorem exists_unlockedRecipe? (h : s.Valid w.graph) {index : Nat}
    (hindex : index < s.unlocked.length) : ∃ recipe, s.unlockedRecipe? w index = some recipe :=
  State.exists_unlockedRecipe? h.unlocked hindex

end State.Valid

/-! ## Branches that are never taken -/

/-- In a sound graph a command leads to places that exist. -/
theorem Command.Leads.existsIn (hg : w.graph.Sound) {command : Command}
    {destination : Destination} (h : command.Leads w s destination) :
    destination.ExistsIn w.graph := by
  cases h with
  | jump hindex => exact hg.screens hindex
  | relay hname => exact hname
  | next hcurrent hbound => exact hbound

/-- The licence for everything within the places that exist. -/
def Licence.standing (graph : Graph) : Licence where
  source _ := True
  command _ := True
  target _ := True
  place destination := destination.ExistsIn graph
  parsed _ _ := trivial
  assigned _ := trivial

/-- In a sound graph, commands lead to places that exist. -/
theorem Licence.standing_covers (hg : w.graph.Sound) : (Licence.standing w.graph).Covers w where
  screens _ := ⟨fun _ _ => trivial, fun _ _ => trivial, fun _ _ _ _ => trivial⟩
  relays _ := ⟨fun _ _ => trivial, fun _ _ => trivial, fun _ _ _ _ => trivial⟩
  places _ hleads := hleads.existsIn hg
  start hindex := hg.screens hindex

theorem HostCall.admittedBy_standing (graph : Graph) (call : HostCall) :
    call.AdmittedBy (.standing graph) := by
  cases call <;> first | exact trivial | exact fun _ _ => trivial

namespace Play

variable (stray : Destination → Play ActionError Unit)

/-- A visit that goes astray where the place does not exist. -/
def visitOr (go : Destination → Play ActionError Unit) (destination : Destination) :
    Play ActionError Unit := fun w s =>
  if destination.ExistsIn w.graph then visit go destination w s else stray destination w s

/-- Entering places where there is room for so many, with visits that may go astray. -/
def enterOr : Nat → Destination → Play ActionError Unit
  | 0, _ => refuseEntry
  | room + 1, destination => deeper (visitOr stray (enterOr room) destination)

/-- Entering places with visits that may go astray. -/
def goOr (destination : Destination) : Play ActionError Unit := fun w s =>
  enterOr stray (w.settings.maxHops - s.depth) destination w s

/-- Where every way leads to a place that exists, it makes no difference what is done elsewhere. -/
theorem enterOr_eq_enter (hg : w.graph.Sound) (room : Nat) :
    ∀ destination, destination.ExistsIn w.graph → ∀ s, room = w.settings.maxHops - s.depth →
      enterOr stray room destination w s = enter room destination w s := by
  -- induction on the room: one level deeper there is one less
  induction room with
  | zero => exact fun _ _ _ _ => rfl
  | succ room ih =>
      intro destination hexists s hroom
      have hL := Licence.standing_covers hg
      have hvisit : visit (enterOr stray room) destination w s.down =
          visit (enter room) destination w s.down := by
        refine visit_agree hL (fun other hother s' hs' => ?_) (fun other hother s' hs' => ?_) rfl
        · exact enter_trail hL room other hother s' (by rw [hs', State.depth_down]; omega)
        · exact ih other hother s' (by rw [hs', State.depth_down]; omega)
      have hor : visitOr stray (enterOr stray room) destination w s.down =
          visit (enterOr stray room) destination w s.down := if_pos hexists
      rw [enterOr, enter, deeper_run, deeper_run, hor, hvisit]

/-- **No entry of a place that exists leads to one that does not.** -/
theorem goOr_eq_go (hg : w.graph.Sound) {destination : Destination}
    (hexists : destination.ExistsIn w.graph) (s : State) :
    goOr stray destination w s = Play.go destination w s :=
  enterOr_eq_enter stray hg _ destination hexists s rfl

end Play

/-- In a sound graph no call goes astray. -/
theorem HostCall.playBy_goOr (hg : w.graph.Sound) (stray : Destination → Play ActionError Unit)
    (call : HostCall) (s : State) : call.playBy (Play.goOr stray) w s = call.play w s := by
  have hL := Licence.standing_covers hg
  exact playBy_agree hL (Play.go_tracked hL s.depth)
    (fun _ hexists s' _ => Play.goOr_eq_go stray hg hexists s')
    (call.admittedBy_standing w.graph) rfl

/-- A recipe is used if it can be used, and there is no other reason for not using it. -/
theorem Play.useRecipe_result {ε : Type} (index : Nat) (w : World) (s : State) :
    ((Play.useRecipe index : Play ε Bool) w s).result = .ok (s.canUseRecipe w index) := by
  cases husable : s.canUseRecipe w index with
  | false => rw [useRecipe_of_unusable husable]
  | true =>
      obtain ⟨recipe, hrecipe, hheld⟩ := (Option.any_eq_true ..).mp husable
      rw [useRecipe_of_usable hrecipe hheld]

/-- **The representation invariant of sessions.** It holds in every reachable state of a session
over the graph of a document, and in every state that a call passes through, also if it fails. So
a place that does not exist is never visited, whatever would come of it, and every unlocked recipe
is there. -/
theorem sessions_stay_valid (quest : Quest) (settings : Settings) (s : State)
    (h : State.Reachable ⟨quest.graph, settings⟩ (fun _ => True) s) :
    s.Valid quest.graph ∧
    (∀ call : HostCall,
      (call.play ⟨quest.graph, settings⟩ s).state.Valid quest.graph ∧
        ∀ state ∈ (call.play ⟨quest.graph, settings⟩ s).trace.states, state.Valid quest.graph) ∧
    (∀ stray (call : HostCall),
      call.playBy (Play.goOr stray) ⟨quest.graph, settings⟩ s =
        call.play ⟨quest.graph, settings⟩ s) ∧
    (∀ index, index < s.unlocked.length →
      ∃ recipe, s.unlockedRecipe? ⟨quest.graph, settings⟩ index = some recipe) ∧
    ∀ index,
      ((Play.useRecipe index : Play SessionError Bool) ⟨quest.graph, settings⟩ s).result =
        .ok (s.canUseRecipe ⟨quest.graph, settings⟩ index) := by
  have hg := quest.graph_sound
  have hvalid : s.Valid quest.graph := .reachable hg h
  refine ⟨hvalid, fun call => ?_, fun stray call => call.playBy_goOr hg stray s,
    fun index hindex => hvalid.exists_unlockedRecipe? hindex,
    fun index => Play.useRecipe_result index _ s⟩
  -- the states within a call are those of its steps
  have hcourse := call.course (Licence.all_covers ⟨quest.graph, settings⟩) call.admittedBy_all s
  exact State.Valid.steps hg hcourse.steps hvalid

/-- A story with one recipe. -/
def Quest.forge : Quest where
  name := "forge"
  start := "hall"
  items := .ofList [("ore", "Ore"), ("sword", "Sword")]
  recipes := .ofList [("sword", .shorthand "ore = sword")]
  screens := [{ name := some "hall", scripts := { once := ["give ore 2", "unlock sword"] } }]

/-- Starting a session at a forge and using its recipe. -/
theorem forge_session_stays_valid :
    State.Reachable ⟨Quest.forge.graph, {}⟩ (fun _ => True)
        (HostCall.start.play ⟨Quest.forge.graph, {}⟩ (.initial ⟨Quest.forge.graph, {}⟩)).state ∧
      ((HostCall.useRecipe 0).play ⟨Quest.forge.graph, {}⟩
        (HostCall.start.play ⟨Quest.forge.graph, {}⟩
          (.initial ⟨Quest.forge.graph, {}⟩)).state).state.Valid Quest.forge.graph := by
  have hreachable : State.Reachable ⟨Quest.forge.graph, {}⟩ (fun _ => True)
      (HostCall.start.play ⟨Quest.forge.graph, {}⟩ (.initial ⟨Quest.forge.graph, {}⟩)).state :=
    .call .initial trivial
  exact ⟨hreachable,
    ((sessions_stay_valid Quest.forge {} _ hreachable).2.1 (.useRecipe 0)).1⟩

end Narrative
