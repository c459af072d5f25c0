import Narrative.Proofs.Session.Call

/-!
# Ways that agree

Whatever leads to places does so by way of a parameter. Two ways that agree on the admitted places
at one depth make no difference to anything that runs at this depth: scripts come back to their
depth between two entries, so every entry is made at the same one.

* **`visit_agree`** — visits are the same where the ways one level deeper agree.
* **`HostCall.playBy_agree`** — so are all calls of a host.
-/

namespace Narrative

variable {w : World} {L : Licence} {s : State} {depth : Nat}
  {first second : Destination → Play ActionError Unit}

namespace Play

/-- The two ways to places do the same on admitted places at this depth. -/
def AgreeAt (w : World) (L : Licence) (depth : Nat)
    (first second : Destination → Play ActionError Unit) : Prop :=
  ∀ destination, L.place destination → ∀ s, s.depth = depth →
    first destination w s = second destination w s

/-- A command depends on the way to the place that it leads to and on nothing else of the ways. -/
theorem perform_congr {command : Command}
    (h : ∀ destination, command.Leads w s destination →
      first destination w s = second destination w s) :
    perform first command w s = perform second command w s := by
  cases command with
  | jump screen =>
      show jump first screen w s = jump second screen w s
      rw [jump, jump, world_bind, world_bind]
      cases hindex : w.graph.screenIndex? screen with
      | none => rfl
      | some index => exact bind_congr rfl fun _ => h _ (.jump hindex)
  | relay name =>
      show relay first name w s = relay second name w s
      rw [relay, relay, world_bind, world_bind]
      cases hname : w.graph.relays.contains name with
      | false => rfl
      | true => exact bind_congr rfl fun _ => h _ (.relay hname)
  | next offset =>
      show next first offset.toNat w s = next second offset.toNat w s
      rw [next, next, world_bind, world_bind, state_bind, state_bind]
      cases hcurrent : s.current with
      | none => rfl
      | some current =>
          by_cases hbound : current + offset.toNat < w.graph.screens.length
          · simp only [hbound, if_true]
            exact bind_congr rfl fun _ => h _ (.next hcurrent hbound)
          · simp only [hbound, if_false]
  -- the other verbs lead nowhere and never ask the way
  | message text => rfl
  | give item amount => rfl
  | consume item amount => rfl
  | unlock recipe => rfl
  | lock recipe => rfl
  | set name assignment expression => rfl
  | exit => rfl

section

variable (hL : L.Covers w)
  (htracked : ∀ destination, L.place destination → Tracked w L depth (second destination))
  (hagree : AgreeAt w L depth first second)
include hL hagree

/-- A command does the same by either way. -/
theorem perform_agree {command : Command} (hcommand : L.command command) (hs : s.depth = depth) :
    perform first command w s = perform second command w s :=
  perform_congr fun destination hleads => hagree destination (hL.places hcommand hleads) s hs

/-- A source is heeded the same by either way. -/
theorem heed_agree {source : String} (hsource : L.source source) (hs : s.depth = depth) :
    heed first source w s = heed second source w s := by
  have hperform : performSource first source w s = performSource second source w s := by
    cases hparse : Command.parse source with
    | error error => rw [performSource_of_error hparse, performSource_of_error hparse]
    | ok command =>
        rw [performSource_of_ok hparse, performSource_of_ok hparse]
        exact perform_agree hL hagree (L.parsed hsource hparse) hs
  rw [heed, heed, attempt_bind, attempt_bind, hperform]

include htracked

/-- A script runs the same by either way. The commands before come back to the depth at which the
ways agree, which is what `Tracked` is needed for. -/
theorem run_agree {script : Script} (hscript : ∀ source ∈ script, L.source source) :
    ∀ s, s.depth = depth → Script.run first script w s = Script.run second script w s := by
  induction script with
  | nil => exact fun _ _ => rfl
  | cons source rest ih =>
      intro s hs
      have hsource := hscript source List.mem_cons_self
      -- the rest starts at the depth to which the first command came back
      have hdepth := (heed_tracked hL htracked hsource s hs).depth_eq
      rw [Script.run_cons, Script.run_cons]
      refine bind_congr (heed_agree hL hagree hsource hs) fun _ => ?_
      exact ih (fun other h => hscript other (List.mem_cons_of_mem _ h)) _ (hdepth.trans hs)

/-- The scripts of a stage run the same by either way. -/
theorem staged_agree {mark : State → State} {scripts : StageScripts} (seen : Bool)
    (honce : ∀ source ∈ scripts.once, L.source source)
    (halways : ∀ source ∈ scripts.always, L.source source) (hs : s.depth = depth)
    (hmark : (mark s).depth = s.depth) :
    staged first seen mark scripts w s = staged second seen mark scripts w s := by
  cases seen with
  | true => exact run_agree hL htracked hagree halways s hs
  | false =>
      -- the script that runs once may have moved on, but it leaves the depth as it found it
      have hmarked := hmark.trans hs
      have hdepth := (run_tracked hL htracked honce _ hmarked).depth_eq
      rw [staged_of_new, staged_of_new]
      refine congrArg (Outcome.after · _) (bind_congr ?_ fun _ => ?_)
      · exact run_agree hL htracked hagree honce _ hmarked
      · exact run_agree hL htracked hagree halways _ (hdepth.trans hmarked)

/-- A screen is entered the same by either way. -/
theorem stageScreen_agree {index : Nat} {screen : Screen}
    (hscreen : w.graph.screen? index = some screen) (hs : s.depth = depth) :
    stageScreen first index screen w s = stageScreen second index screen w s := by
  obtain ⟨honce, halways, -⟩ := hL.screens hscreen
  rw [stageScreen_run, stageScreen_run]
  exact staged_agree hL htracked hagree _ honce halways hs rfl

/-- The scripts of a relay run the same by either way. -/
theorem stageRelay_agree {name : String} {relay : Relay}
    (hrelay : w.graph.relay? name = some relay) (hs : s.depth = depth) :
    stageRelay first relay name w s = stageRelay second relay name w s := by
  obtain ⟨honce, halways, -⟩ := hL.relays hrelay
  rw [stageRelay_run, stageRelay_run]
  exact staged_agree hL htracked hagree _ honce halways hs rfl

/-- A fork is taken the same by either way. -/
theorem takeFork_agree {name : String} {relay : Relay}
    (hrelay : w.graph.relay? name = some relay) (hs : s.depth = depth) :
    takeFork first relay name w s = takeFork second relay name w s := by
  obtain ⟨-, -, hforks⟩ := hL.relays hrelay
  rw [takeFork_run, takeFork_run]
  -- the fork is chosen by the context alone, which is the same on both sides
  cases relay.selectFork (s.context w) with
  | error error => rfl
  | ok found =>
      cases found with
      | none => rfl
      | some index =>
          have hscript := fork_admitted hforks index
          dsimp only
          rw [run_agree hL htracked hagree hscript s hs]

/-- **Visits at a depth at which the ways agree are the same.** -/
theorem visit_agree {destination : Destination} (hs : s.depth = depth) :
    visit first destination w s = visit second destination w s := by
  by_cases hexists : destination.ExistsIn w.graph
  · cases destination with
    | screen index =>
        obtain ⟨screen, hscreen⟩ := Graph.exists_screen? hexists
        rw [visit, visit, visitScreen_of_some hscreen, visitScreen_of_some hscreen]
        exact bind_congr (stageScreen_agree hL htracked hagree hscreen hs) fun _ => rfl
    | relay name =>
        obtain ⟨relay, hrelay⟩ := Graph.exists_relay? hexists
        -- the fork is taken at the depth to which the scripts of the relay came back
        have hdepth := (stageRelay_tracked hL htracked hrelay s hs).depth_eq
        rw [visit, visit, visitRelay_of_some hrelay, visitRelay_of_some hrelay]
        refine bind_congr (stageRelay_agree hL htracked hagree hrelay hs) fun _ => ?_
        exact takeFork_agree hL htracked hagree hrelay (hdepth.trans hs)
  · rw [visit_of_missing hexists, visit_of_missing hexists]

omit htracked in
/-- A session starts the same by either way. -/
theorem startBy_agree (hs : s.depth = depth) : startBy first w s = startBy second w s := by
  cases hindex : w.graph.screenIndex? w.graph.start with
  | none => rw [startBy_of_missing hindex, startBy_of_missing hindex]
  | some index =>
      have hgo := hagree _ (hL.start hindex) { s with phase := .active } hs
      rcases hrun : second (.screen index) w { s with phase := .active } with ⟨result, s', trace⟩
      rw [hrun] at hgo
      cases result with
      | ok value => rw [startBy_of_ok hindex hgo, startBy_of_ok hindex hrun]
      | error error => rw [startBy_of_error hindex hgo, startBy_of_error hindex hrun]

/-- A choice is selected the same by either way. -/
theorem selectChoiceBy_agree (index : Nat) (hs : s.depth = depth) :
    selectChoiceBy first index w s = selectChoiceBy second index w s := by
  cases selection w s index with
  -- without a choice to select, no way is asked
  | nowhere hscreen => rw [selectChoiceBy_of_nowhere hscreen, selectChoiceBy_of_nowhere hscreen]
  | malformed hscreen havailable =>
      rw [selectChoiceBy_of_malformed hscreen havailable,
        selectChoiceBy_of_malformed hscreen havailable]
  | beyond hscreen havailable hindex =>
      rw [selectChoiceBy_of_beyond hscreen havailable hindex,
        selectChoiceBy_of_beyond hscreen havailable hindex]
  | @choice screen choices choice hscreen havailable hindex =>
      have hmem := mem_of_available havailable choice (List.mem_of_getElem? hindex)
      have hscript := currentScreen_admitted hL hscreen hmem
      have haction := run_agree hL htracked hagree hscript { s with message := "" } hs
      rw [selectChoiceBy_of_choice hscreen havailable hindex,
        selectChoiceBy_of_choice hscreen havailable hindex]
      refine congrArg (Outcome.after · _) (bind_congr ?_ fun _ => rfl)
      rw [mapError, mapError, haction]

end

/-- A call reports the same for plays that do the same. -/
theorem reported_congr {ε α : Type} {play play' : Play ε α} {reply : α → Reply}
    {error : ε → SessionError} (h : play w s = play' w s) :
    play.reported reply error w s = play'.reported reply error w s := by
  rw [reported, reported, h]

end Play

/-- **Calls at a depth at which the ways agree are the same.** -/
theorem HostCall.playBy_agree (hL : L.Covers w)
    (htracked : ∀ destination, L.place destination → Play.Tracked w L depth (second destination))
    (hagree : Play.AgreeAt w L depth first second) {call : HostCall} (hcall : call.AdmittedBy L)
    (hs : s.depth = depth) : call.playBy first w s = call.playBy second w s := by
  cases call with
  | start => exact Play.reported_congr (Play.startBy_agree hL hagree hs)
  | selectChoice index =>
      exact Play.reported_congr (Play.selectChoiceBy_agree hL htracked hagree index hs)
  | dispatch command => exact Play.reported_congr (Play.perform_agree hL hagree hcall hs)
  | execute script => exact Play.reported_congr (Play.run_agree hL htracked hagree hcall s hs)
  | _ => rfl

end Narrative
