import Narrative.Proofs.Session.Call

/-!
# What a session has seen

Places are marked as seen when they are entered and never unmarked.

* **`Steps.seen`** — along every run what has been seen only grows.
* **`Play.go_seen`** — an entry that the hop limit lets pass leaves its place seen, also if it
  fails: the mark comes before the scripts of the place.
-/

namespace Narrative

/-- What `s` has seen is seen in `t` too. -/
structure State.SeenWithin (s t : State) : Prop where
  screens : s.seenScreens ⊆ t.seenScreens
  relays : s.seenRelays ⊆ t.seenRelays

/-- Whether a place has been seen. -/
def Destination.SeenIn (s : State) : Destination → Prop
  | .screen index => index ∈ s.seenScreens
  | .relay name => name ∈ s.seenRelays

variable {w : World} {L : Licence} {s s' t : State} {trace : Trace}

namespace State.SeenWithin

protected theorem refl (s : State) : s.SeenWithin s := ⟨fun _ h => h, fun _ h => h⟩

/-- A change that leaves the marks alone. -/
theorem of_eq (hscreens : t.seenScreens = s.seenScreens) (hrelays : t.seenRelays = s.seenRelays) :
    s.SeenWithin t :=
  ⟨fun _ h => hscreens ▸ h, fun _ h => hrelays ▸ h⟩

protected theorem trans (h : s.SeenWithin s') (h' : s'.SeenWithin t) : s.SeenWithin t :=
  ⟨fun _ hmem => h'.screens (h.screens hmem), fun _ hmem => h'.relays (h.relays hmem)⟩

theorem seeScreen (s : State) (index : Nat) : s.SeenWithin (s.seeScreen index) :=
  ⟨List.subset_cons_self _ _, fun _ h => h⟩

theorem seeRelay (s : State) (name : String) : s.SeenWithin (s.seeRelay name) :=
  ⟨fun _ h => h, List.subset_cons_self _ _⟩

end State.SeenWithin

/-- What was seen stays seen. -/
theorem Destination.SeenIn.mono {destination : Destination} (h : destination.SeenIn s)
    (hst : s.SeenWithin t) : destination.SeenIn t := by
  cases destination with
  | screen index => exact hst.screens h
  | relay name => exact hst.relays h

/-! ## Growth -/

/-- No step forgets what was seen. -/
theorem Step.seen (h : Step w L s trace s') : s.SeenWithin s' := by
  cases h with
  | seeScreen hscreen hnew => exact .seeScreen s _
  | seeRelay hrelay hnew => exact .seeRelay s _
  -- no other step touches the marks
  | _ => exact .of_eq rfl rfl

/-- **What has been seen only grows**: from each state that a run passes through to every later
one, and to the last. -/
theorem Steps.seen (h : Steps w L s trace s') :
    (s :: trace.states).Pairwise State.SeenWithin ∧
      ∀ state ∈ s :: trace.states, state.SeenWithin s' := by
  -- in front of a run there may stand any state that has seen no more than its first one
  have hfront : ∀ {s t : State} {states : List State}, s.SeenWithin t →
      (t :: states).Pairwise State.SeenWithin → (s :: t :: states).Pairwise State.SeenWithin := by
    intro s t states hst hstates
    refine List.pairwise_cons.mpr ⟨List.forall_mem_cons.mpr ⟨hst, fun state hmem => ?_⟩, hstates⟩
    exact hst.trans ((List.pairwise_cons.mp hstates).1 state hmem)
  induction h with
  | nil s =>
      exact ⟨List.pairwise_singleton _ _, fun _ hmem => List.mem_singleton.mp hmem ▸ .refl s⟩
  | @step s s₁ s₂ trace trace' head _ ih =>
      obtain ⟨hrest, hlast⟩ := ih
      have hstates : ∀ state ∈ trace.states, state = s₁ := by
        intro state hstate
        obtain ⟨entry, hentry, rfl⟩ := List.mem_map.mp hstate
        exact head.state_of_mem hentry
      obtain ⟨hafter, htail⟩ := List.pairwise_cons.mp hrest
      -- the states of the step are all `s₁`, and the run goes on from there
      have hfrom : ∀ state ∈ (trace ++ trace').states, s₁.SeenWithin state := by
        intro state hmem
        rw [Trace.states, List.map_append, List.mem_append] at hmem
        rcases hmem with hmem | hmem
        · exact hstates state hmem ▸ .refl s₁
        · exact hafter state hmem
      have hpairs : (trace ++ trace').states.Pairwise State.SeenWithin := by
        rw [Trace.states, List.map_append, List.pairwise_append]
        refine ⟨?_, htail, fun a ha b hb => hstates a ha ▸ hafter b hb⟩
        rw [show trace.map (·.state) = List.replicate _ s₁ from List.eq_replicate_of_mem hstates]
        exact List.pairwise_replicate.mpr (.inr (.refl s₁))
      refine ⟨List.pairwise_cons.mpr ⟨fun state hmem => head.seen.trans (hfrom state hmem), hpairs⟩,
        List.forall_mem_cons.mpr ⟨head.seen.trans (hlast _ List.mem_cons_self), ?_⟩⟩
      intro state hmem
      rw [Trace.states, List.map_append, List.mem_append] at hmem
      rcases hmem with hmem | hmem
      · exact hstates state hmem ▸ hlast s₁ List.mem_cons_self
      · exact hlast state (List.mem_cons_of_mem _ hmem)
  | @down s s' trace hroom _ ih =>
      have hdown : s.SeenWithin s.down := .of_eq rfl rfl
      exact ⟨hfront hdown ih.1, List.forall_mem_cons.mpr
        ⟨hdown.trans (ih.2 _ List.mem_cons_self), ih.2⟩⟩
  | @up s s' trace hdeep _ ih =>
      have hup : s.SeenWithin s.up := .of_eq rfl rfl
      exact ⟨hfront hup ih.1, List.forall_mem_cons.mpr
        ⟨hup.trans (ih.2 _ List.mem_cons_self), ih.2⟩⟩
  | @skip s s' trace source error hreason hfatal _ ih =>
      exact ⟨hfront (.refl s) ih.1, List.forall_mem_cons.mpr ⟨ih.2 _ List.mem_cons_self, ih.2⟩⟩

/-! ## Entering leaves a mark -/

namespace Play

variable {go : Destination → Play ActionError Unit} {depth : Nat}

theorem Tracked.seen {play : Play ActionError Unit} (h : Tracked w L depth play)
    (hs : s.depth = depth) : s.SeenWithin (play w s).state :=
  (h s hs).steps.seen.2 s List.mem_cons_self

/-- What follows an operation does not take its marks back. -/
theorem seen_bind {first next : Play ActionError Unit} {destination : Destination}
    (hfirst : destination.SeenIn (first w s).state) (hs : s.depth = depth)
    (htracked : Tracked w L depth first) (hnext : Tracked w L depth next) :
    destination.SeenIn ((first >>= fun _ => next) w s).state := by
  have hdepth := (htracked s hs).depth_eq
  rcases hrun : first w s with ⟨result, s', trace⟩
  rw [hrun] at hfirst hdepth
  -- what is marked as seen stays so, and a failure ends the run with the mark made
  cases result with
  | ok value =>
      rw [bind_of_ok hrun]
      exact hfirst.mono (hnext.seen (hdepth.trans hs))
  | error error =>
      rw [bind_of_error hrun]
      exact hfirst

section

variable (hL : L.Covers w)
  (hgo : ∀ destination, L.place destination → Tracked w L depth (go destination))
include hL hgo

/-- A stage leaves its place seen, whether it was seen before or is new. -/
theorem staged_seen {seen : Bool} {mark : State → State} {scripts : StageScripts}
    {destination : Destination} (honce : ∀ source ∈ scripts.once, L.source source)
    (halways : ∀ source ∈ scripts.always, L.source source) (hs : s.depth = depth)
    (hmarked : (mark s).depth = s.depth) (hseen : seen = true → destination.SeenIn s)
    (hnew : destination.SeenIn (mark s)) :
    destination.SeenIn (staged go seen mark scripts w s).state := by
  cases seen with
  | true => exact (hseen rfl).mono ((run_tracked hL hgo halways).seen hs)
  | false =>
      have hscripts := (run_tracked hL hgo honce).bind (run_tracked hL hgo halways)
      rw [staged_of_new]
      exact hnew.mono (hscripts.seen (hmarked.trans hs))

/-- A visit of a place that exists leaves it seen, however the visit ends. -/
theorem visit_seen {destination : Destination} (hexists : destination.ExistsIn w.graph)
    (hs : s.depth = depth) : destination.SeenIn (visit go destination w s).state := by
  cases destination with
  | screen index =>
      obtain ⟨screen, hscreen⟩ := Graph.exists_screen? hexists
      obtain ⟨honce, halways, -⟩ := hL.screens hscreen
      rw [visit, visitScreen_of_some hscreen]
      refine seen_bind ?_ hs (stageScreen_tracked hL hgo hscreen)
        (fun _ _ => .step (.arrive hscreen))
      -- the screen is marked before its scripts run, and they take no mark away
      rw [stageScreen_run]
      exact staged_seen hL hgo honce halways hs rfl of_decide_eq_true List.mem_cons_self
  | relay name =>
      obtain ⟨relay, hrelay⟩ := Graph.exists_relay? hexists
      obtain ⟨honce, halways, -⟩ := hL.relays hrelay
      rw [visit, visitRelay_of_some hrelay]
      refine seen_bind ?_ hs (stageRelay_tracked hL hgo hrelay) (takeFork_tracked hL hgo hrelay)
      rw [stageRelay_run]
      exact staged_seen hL hgo honce halways hs rfl of_decide_eq_true List.mem_cons_self

end

/-- **Entering leaves a mark.** Where the hop limit leaves room, a place that exists is seen behind
its entry, however the entry ends. -/
theorem go_seen {destination : Destination} (hexists : destination.ExistsIn w.graph)
    (hroom : s.depth < w.settings.maxHops) :
    destination.SeenIn (Play.go destination w s).state := by
  have hL := Licence.all_covers w
  have hinner : ∀ other, Licence.all.place other → Tracked w .all (s.depth + 1)
      (enter (w.settings.maxHops - (s.depth + 1)) other) :=
    fun other hother s' hs' => enter_trail hL _ other hother s' (by rw [hs'])
  have hvisit := visit_seen hL hinner hexists (s := s.down) rfl
  rw [go_of_room hroom, deeper_run]
  exact hvisit.mono (.of_eq rfl rfl)

end Play

end Narrative
