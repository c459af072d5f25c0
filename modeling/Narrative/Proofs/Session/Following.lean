import Narrative.Proofs.Session.Twin

/-!
# Playing in twin worlds

What is done in one world is followed by what is done in its twin, as `Play.Follows` has it: a
command by a command, a script by a script, an entry by an entry.

* **`Play.visit_follows`** — visits follow visits if the entries within them do. This is where
  the `once` scripts of the twins may differ, and where they are not run.
* **`Play.go_follows`** — so entries follow entries, by induction on the room that is left.
* **`HostCall.play_follows`** — and so do all calls of a host.
-/

namespace Narrative

variable {w w' : World} {s : State} {go go' : Destination → Play ActionError Unit}

namespace Play

/-! ## Scripts -/

/-- A command that leads nowhere asks the world for nothing in which twins differ. -/
theorem perform_twin (htwin : w.Twin w' s) {command : Command}
    (hnowhere : ∀ destination, ¬ command.Leads w s destination) :
    perform go' command w' s = perform go command w s := by
  cases command with
  | jump screen =>
      show jump go' screen w' s = jump go screen w s
      rw [jump, jump, world_bind, world_bind, htwin.screenIndex?]
      cases hindex : w.graph.screenIndex? screen with
      | none => rfl
      | some index => exact absurd (.jump hindex) (hnowhere _)
  | relay name =>
      show relay go' name w' s = relay go name w s
      rw [relay, relay, world_bind, world_bind, htwin.contains_relays]
      cases hname : w.graph.relays.contains name with
      | false => rfl
      | true => exact absurd (.relay hname) (hnowhere _)
  | next offset =>
      show next go' offset.toNat w' s = next go offset.toNat w s
      rw [next, next, world_bind, world_bind, state_bind, state_bind, htwin.length_screens]
      cases hcurrent : s.current with
      | none => rfl
      | some current =>
          by_cases hbound : current + offset.toNat < w.graph.screens.length
          · exact absurd (.next hcurrent hbound) (hnowhere _)
          · simp only [hbound, if_false]
            rfl
  | message text => rfl
  | give item amount =>
      show give item amount w' s = give item amount w s
      rw [give, world_bind, world_bind, state_bind, state_bind, htwin.hasItem]
      split <;> rfl
  | consume item amount =>
      show consume item amount w' s = consume item amount w s
      rw [consume, world_bind, world_bind, state_bind, state_bind, htwin.hasItem]
      split
      · cases s.inventory.consume? item amount <;> rfl
      · rfl
  | unlock recipe =>
      show unlock recipe w' s = unlock recipe w s
      rw [unlock, world_bind, world_bind, state_bind, state_bind, htwin.recipes]
      split <;> rfl
  | lock recipe =>
      show lock recipe w' s = lock recipe w s
      rw [lock, world_bind, world_bind, state_bind, state_bind, htwin.recipes]
      split <;> rfl
  | set name assignment expression =>
      show assign name assignment expression w' s = assign name assignment expression w s
      rw [assign, state_bind, state_bind]
      cases assignedValue (s.variableValue name) assignment expression <;> rfl
  | exit =>
      -- every check of a command asks for what twins have in common
      show exit w' s = exit w s
      rw [htwin.frame]
      rfl

/-- A command that leads to a place leads there in both worlds, with one note. -/
theorem perform_twin_of_leads (go go' : Destination → Play ActionError Unit)
    (htwin : w.Twin w' s) {command : Command} {destination : Destination}
    (h : command.Leads w s destination) :
    ∃ note, perform go command w s = (go destination w s).after [⟨.notice note, s⟩] ∧
      perform go' command w' s = (go' destination w' s).after [⟨.notice note, s⟩] := by
  -- both worlds note the same before they go
  cases h with
  | @jump name index hindex =>
      refine ⟨.deed (.jump name), ?_, ?_⟩
      · show jump go name w s = _
        rw [jump, world_bind, hindex]
        rfl
      · show jump go' name w' s = _
        rw [jump, world_bind, htwin.screenIndex?, hindex]
        rfl
  | @relay name hname =>
      refine ⟨.deed (.relay name), ?_, ?_⟩
      · show relay go name w s = _
        rw [relay, world_bind, hname]
        rfl
      · show relay go' name w' s = _
        rw [relay, world_bind, htwin.contains_relays, hname]
        rfl
  | @next offset current hcurrent hbound =>
      refine ⟨.deed (.next offset.toNat (current + offset.toNat)), ?_, ?_⟩
      · show next go offset.toNat w s = _
        rw [next, world_bind, state_bind, hcurrent]
        simp only [hbound, if_true, note_bind]
      · show next go' offset.toNat w' s = _
        rw [next, world_bind, state_bind, hcurrent]
        simp only [htwin.length_screens, hbound, if_true, note_bind]

section

variable
  (hgo : ∀ destination s, Follows ActionError.IsLoop w w' s (go destination) (go' destination))
include hgo

/-- A command is followed: where it leads to a place the way decides, and else the worlds are
alike. -/
theorem perform_follows (command : Command) (s : State) :
    Follows ActionError.IsLoop w w' s (perform go command) (perform go' command) := by
  by_cases hleads : ∃ destination, command.Leads w s destination
  · obtain ⟨destination, hleads⟩ := hleads
    have hdestination := hgo destination s
    refine ⟨fun htwin => ?_, fun htwin => ?_⟩
    · obtain ⟨note, hhere, -⟩ := perform_twin_of_leads go go' htwin hleads
      rw [hhere]
      exact hdestination.seen htwin
    · obtain ⟨note, hhere, hthere⟩ := perform_twin_of_leads go go' htwin hleads
      rw [hhere, hthere]
      exact (hdestination.followed htwin).after (List.forall₂_refl _)
  · -- it leads nowhere, so both worlds do the very same
    have hnowhere : ∀ destination, ¬ command.Leads w s destination :=
      fun destination h => hleads ⟨destination, h⟩
    refine .of_same ?_ fun htwin => perform_twin htwin hnowhere
    have hcases := perform_performed go w s command
    generalize perform go command w s = outcome at hcases ⊢
    cases hcases with
    | fails h => exact .refl s
    | leads deed h => exact absurd h (hnowhere _)
    | acts h => exact (trail_of_acts (L := .all) trivial h).steps.seen.2 s List.mem_cons_self

theorem performSource_follows (source : String) (s : State) :
    Follows ActionError.IsLoop w w' s (performSource go source) (performSource go' source) := by
  cases hparse : Command.parse source with
  | error error =>
      exact .of_outcome (performSource_of_error hparse) rfl fun _ => performSource_of_error hparse
  | ok command =>
      exact (perform_follows hgo command s).congr (performSource_of_ok hparse)
        (performSource_of_ok hparse)

theorem heed_follows (source : String) (s : State) :
    Follows ActionError.IsLoop w w' s (heed go source) (heed go' source) := by
  refine (performSource_follows hgo source s).attempt_bind (fun result t => ?_) ?_
  · cases result with
    | ok value => exact .of_outcome rfl rfl fun _ => rfl
    | error error =>
        dsimp only
        split
        · exact .of_outcome rfl rfl fun _ => rfl
        · exact .of_outcome rfl rfl fun _ => rfl
  · -- a script does not skip the command at which the play was cut off
    rintro _ t ⟨limit, rfl⟩
    exact ⟨.navigationLoop limit, ⟨limit, rfl⟩, rfl, rfl⟩

/-- A script is followed, command by command. -/
theorem run_follows (script : Script) :
    ∀ s, Follows ActionError.IsLoop w w' s (Script.run go script) (Script.run go' script) := by
  induction script with
  | nil => exact fun s => .of_outcome rfl rfl fun _ => rfl
  | cons source rest ih =>
      intro s
      exact ((heed_follows hgo source s).bind fun _ => ih).congr
        (Script.run_cons go source rest) (Script.run_cons go' source rest)

/-! ## Places -/

/-- The scripts of a place: `once` may differ where the place was seen before. -/
theorem staged_follows {seen : Bool} {mark : State → State} {scripts scripts' : StageScripts}
    (hmark : s.SeenWithin (mark s)) (halways : scripts'.always = scripts.always)
    (honce : seen = false → scripts'.once = scripts.once) :
    Follows ActionError.IsLoop w w' s (staged go seen mark scripts)
      (staged go' seen mark scripts') := by
  cases seen with
  | true =>
      -- only the script of every visit is run, which twins have in common
      show Follows ActionError.IsLoop w w' s (Script.run go scripts.always)
        (Script.run go' scripts'.always)
      rw [halways]
      exact run_follows hgo _ s
  | false =>
      have hupdate : Follows ActionError.IsLoop w w' s (update mark) (update mark) :=
        .of_same hmark fun _ => rfl
      unfold staged
      rw [halways, honce rfl]
      exact hupdate.bind fun _ t => (run_follows hgo _ t).bind fun _ => run_follows hgo _

/-- A visit to a screen is followed. What the two graphs may differ in is run before the screen is
seen. -/
theorem visitScreen_follows {index : Nat} {screen : Screen}
    (hscreen : w.graph.screen? index = some screen) (s : State) :
    Follows ActionError.IsLoop w w' s (visitScreen go index) (visitScreen go' index) := by
  refine .of_twin fun htwin => ?_
  obtain ⟨screen', hscreen', hlasting, hnew⟩ := htwin.exists_screen? hscreen
  have hstage : Follows ActionError.IsLoop w w' s (stageScreen go index screen)
      (stageScreen go' index screen') :=
    (staged_follows hgo (.seeScreen s index) (Screen.always_of_lasting hlasting)
      fun hunseen => by rw [hnew (of_decide_eq_false hunseen)]).congr
      (stageScreen_run index screen) (stageScreen_run index screen')
  -- the two screens have one label, though they need not be the same
  have harrive : ∀ t, Follows ActionError.IsLoop w w' t (arrive index screen)
      (arrive index screen') := by
    intro t
    refine ⟨fun _ => .of_eq rfl rfl, fun _ => ?_⟩
    have hlabel : screen'.label = screen.label := (congrArg Screen.label hlasting :)
    show Outcome.Followed _ _ _ ⟨.ok (), _, _⟩ ⟨.ok (), _, _⟩
    rw [hlabel]
    exact .same rfl rfl
      (.cons (.same _) (.cons (.same _) (.cons (.event (.screenChanged hscreen hscreen')) .nil)))
  exact (hstage.bind fun _ => harrive).congr (visitScreen_of_some hscreen)
    (visitScreen_of_some hscreen')

/-- Taking a fork is followed. -/
theorem takeFork_follows {name : String} {relay relay' : Relay}
    (hforks : relay'.forks = relay.forks) (s : State) :
    Follows ActionError.IsLoop w w' s (takeFork go relay name) (takeFork go' relay' name) := by
  refine .of_twin fun htwin => ?_
  have hselect : relay'.selectFork (s.context w') = relay.selectFork (s.context w) := by
    rw [Relay.selectFork, Relay.selectFork, hforks, htwin.context]
  have hremarks : remarkTrace w' s (Fork.remarks (s.context w') relay'.forks) =
      remarkTrace w s (Fork.remarks (s.context w) relay.forks) := by
    rw [hforks, htwin.context, htwin.remarkTrace]
  -- both relays take the fork that is selected, and what may differ is where it leads
  cases hfork : relay.selectFork (s.context w) with
  | error error =>
      refine .of_outcome (takeFork_run relay name) ?_ fun _ => ?_
      · rw [hfork]
        rfl
      · rw [takeFork_run, hselect, hfork, hremarks]
  | ok found =>
      cases found with
      | none =>
          refine .of_outcome (takeFork_run relay name) ?_ fun _ => ?_
          · rw [hfork]
            rfl
          · rw [takeFork_run, hselect, hfork, hremarks]
      | some index =>
          have hrun := run_follows hgo ((relay.forks[index]?.map Fork.action).getD []) s
          refine ⟨fun _ => ?_, fun _ => ?_⟩
          · rw [takeFork_run, hfork]
            exact hrun.seen htwin
          · rw [takeFork_run, takeFork_run, hselect, hfork, hremarks, hforks]
            exact (hrun.followed htwin).after (List.forall₂_refl _)

/-- A visit to a relay is followed. -/
theorem visitRelay_follows {name : String} {relay : Relay}
    (hrelay : w.graph.relay? name = some relay) (s : State) :
    Follows ActionError.IsLoop w w' s (visitRelay go name) (visitRelay go' name) := by
  refine .of_twin fun htwin => ?_
  obtain ⟨relay', hrelay', hlasting, hnew⟩ := htwin.exists_relay? hrelay
  have hstage : Follows ActionError.IsLoop w w' s (stageRelay go relay name)
      (stageRelay go' relay' name) :=
    (staged_follows hgo (.seeRelay s name) (Relay.always_of_lasting hlasting)
      fun hunseen => by rw [hnew (of_decide_eq_false hunseen)]).congr
      (stageRelay_run relay name) (stageRelay_run relay' name)
  have hforks : relay'.forks = relay.forks := (congrArg Relay.forks hlasting :)
  exact (hstage.bind fun _ => takeFork_follows hgo hforks).congr (visitRelay_of_some hrelay)
    (visitRelay_of_some hrelay')

/-- Visits follow visits if the entries within them do. -/
theorem visit_follows (destination : Destination) (s : State) :
    Follows ActionError.IsLoop w w' s (visit go destination) (visit go' destination) := by
  by_cases hexists : destination.ExistsIn w.graph
  · cases destination with
    | screen index =>
        obtain ⟨screen, hscreen⟩ := Graph.exists_screen? hexists
        exact visitScreen_follows hgo hscreen s
    | relay name =>
        obtain ⟨relay, hrelay⟩ := Graph.exists_relay? hexists
        exact visitRelay_follows hgo hrelay s
  · refine .of_outcome (visit_of_missing hexists) rfl fun htwin => ?_
    exact visit_of_missing fun h => hexists ((htwin.existsIn destination).mp h)

end

/-- What is followed at one depth is followed a level deeper. -/
theorem deeper_follows {play play' : Play ActionError Unit}
    (h : ∀ t, Follows ActionError.IsLoop w w' t play play') (s : State) :
    Follows ActionError.IsLoop w w' s (deeper play) (deeper play') := by
  have hdepth (change : State → Nat) (t : State) : Follows ActionError.IsLoop w w' t
      (update fun state => { state with depth := change state })
      (update fun state => { state with depth := change state }) :=
    .of_same (.of_eq rfl rfl) fun _ => rfl
  refine (hdepth _ s).bind fun _ t => (h t).attempt_bind (fun result t => ?_) ?_
  · refine (hdepth _ t).bind fun _ t => ?_
    exact .of_outcome (ofExcept_run _ _ _) rfl fun _ => ofExcept_run _ _ _
  · rintro _ t ⟨limit, rfl⟩
    exact ⟨.navigationLoop limit, ⟨limit, rfl⟩, rfl, rfl⟩

theorem refuseEntry_run (w : World) (s : State) :
    refuseEntry w s = ⟨.error (.navigationLoop w.settings.maxHops), s,
      [⟨.notice (.tooManyHops w.settings.maxHops), s⟩]⟩ := rfl

/-- Where the hop limit of the second world is the higher one, it may leave more room. -/
theorem enter_follows (hlimit : w.settings.maxHops ≤ w'.settings.maxHops) (room : Nat) :
    ∀ room' destination s, room ≤ room' →
      (room < room' → w.settings.maxHops < w'.settings.maxHops) →
      Follows ActionError.IsLoop w w' s (enter room destination) (enter room' destination) := by
  induction room with
  | zero =>
      intro room' destination s _ hroom
      rcases Nat.eq_or_lt_of_le hlimit with heq | hlt
      · -- with one hop limit the second world leaves no room either
        obtain rfl : room' = 0 := by omega
        refine .of_outcome (refuseEntry_run w s) rfl fun _ => ?_
        show refuseEntry w' s = _
        rw [refuseEntry_run, heq]
      · -- the play is cut off here, before the host was told anything
        exact ⟨fun _ => .refl s, fun _ => .cutOff hlt rfl ⟨_, rfl⟩ .nil List.nil_prefix⟩
  | succ room ih =>
      intro room' destination s hle hroom
      -- the second world has at least as much room, so it enters as well
      obtain ⟨room', rfl⟩ : ∃ more, room' = more + 1 := ⟨room' - 1, by omega⟩
      refine deeper_follows (visit_follows (fun other t => ?_) destination) s
      exact ih room' other t (by omega) (by omega)

/-- **Entries follow entries** where the second world has no lower hop limit. -/
theorem go_follows (hlimit : w.settings.maxHops ≤ w'.settings.maxHops) (destination : Destination)
    (s : State) : Follows ActionError.IsLoop w w' s (Play.go destination) (Play.go destination) :=
  (enter_follows hlimit (w.settings.maxHops - s.depth) (w'.settings.maxHops - s.depth) destination s
    (by omega) (by omega)).congr rfl rfl

end Play

/-! ## Calls of a host -/

/-- The error of a call that the hop limit cut off. -/
def SessionError.IsLoop (error : SessionError) : Prop :=
  ∃ limit, error = .action (.navigationLoop limit)

namespace Play

section

variable
  (hgo : ∀ destination s, Follows ActionError.IsLoop w w' s (go destination) (go' destination))
include hgo

/-- Starting a story whose first screen is at a position. -/
def startAt (go : Destination → Play ActionError Unit) (index : Nat) (quest screen : String) :
    Play SessionError Unit := do
  note (.starting quest screen)
  update fun state => { state with phase := .active }
  match ← attempt (go (.screen index)) with
  | .ok _ => clearMessage
  | .error error => do
    update fun state =>
      { state with phase := if state.current.isNone then .notStarted else state.phase }
    fail (.action error)

omit hgo in
theorem startBy_of_some {index : Nat} (h : w.graph.screenIndex? w.graph.start = some index) :
    startBy go w s = startAt go index w.graph.name w.graph.start w s := by
  rw [startBy, world_bind, h]
  rfl

theorem startAt_follows (index : Nat) (quest screen : String) (s : State) :
    Follows SessionError.IsLoop w w' s (startAt go index quest screen)
      (startAt go' index quest screen) := by
  have hnote : Follows SessionError.IsLoop w w' s (note (.starting quest screen))
      (note (.starting quest screen)) :=
    .of_outcome rfl rfl fun _ => rfl
  have hphase (change : State → Phase) (t : State) : Follows SessionError.IsLoop w w' t
      (update fun state => { state with phase := change state })
      (update fun state => { state with phase := change state }) :=
    .of_same (.of_eq rfl rfl) fun _ => rfl
  refine hnote.bind fun _ t => (hphase _ t).bind fun _ t => ?_
  -- from here on the two runs may part: the smaller limit may stop the entry
  refine (hgo (.screen index) t).attempt_bind (fun result t => ?_) ?_
  · cases result with
    | ok value => exact .of_same (.of_eq rfl rfl) fun _ => rfl
    | error error => exact (hphase _ t).bind fun _ t => .of_outcome rfl rfl fun _ => rfl
  · -- an entry that was cut off may take the phase back, of which no event tells
    rintro _ t ⟨limit, rfl⟩
    exact ⟨_, ⟨limit, rfl⟩, rfl, rfl⟩

/-- Starting is followed. -/
theorem startBy_follows (s : State) :
    Follows SessionError.IsLoop w w' s (startBy go) (startBy go') := by
  refine .of_twin fun htwin => ?_
  -- twins have one name and one start, so they fail to start alike
  have hname : w'.graph.name = w.graph.name := by
    rw [htwin.frame]
    rfl
  have hthere : w'.graph.screenIndex? w'.graph.start = w.graph.screenIndex? w.graph.start := by
    rw [htwin.start, htwin.screenIndex?]
  cases hindex : w.graph.screenIndex? w.graph.start with
  | none =>
      rw [hindex] at hthere
      refine .of_outcome (startBy_of_missing hindex) rfl fun _ => ?_
      rw [startBy_of_missing hthere, hname, htwin.start]
  | some index =>
      rw [hindex] at hthere
      refine (startAt_follows hgo index w.graph.name w.graph.start s).congr
        (startBy_of_some hindex) ?_
      rw [startBy_of_some hthere, hname, htwin.start]

/-- Selecting a choice is followed. -/
theorem selectChoiceBy_follows (index : Nat) (s : State) :
    Follows SessionError.IsLoop w w' s (selectChoiceBy go index) (selectChoiceBy go' index) := by
  refine .of_twin fun htwin => ?_
  have hscreens := htwin.currentScreen?_lasting s
  cases hcurrent : s.currentScreen? w with
  | none =>
      rw [hcurrent, Option.map_none, Option.map_eq_none_iff] at hscreens
      exact .of_outcome (selectChoiceBy_of_nowhere hcurrent) rfl fun _ =>
        selectChoiceBy_of_nowhere hscreens
  | some screen =>
      rw [hcurrent, Option.map_some, Option.map_eq_some_iff] at hscreens
      obtain ⟨screen', hthere, hlasting⟩ := hscreens
      have hchoices : screen'.choices = screen.choices := (congrArg Screen.choices hlasting :)
      have hremarks : remarkTrace w' s (Choice.remarks (s.context w') screen'.choices) =
          remarkTrace w s (Choice.remarks (s.context w) screen.choices) := by
        rw [hchoices, htwin.context, htwin.remarkTrace]
      have havailable' : Choice.available (s.context w') screen'.choices =
          Choice.available (s.context w) screen.choices := by
        rw [hchoices, htwin.context]
      cases havailable : Choice.available (s.context w) screen.choices with
      | error error =>
          rw [havailable] at havailable'
          refine .of_outcome (selectChoiceBy_of_malformed hcurrent havailable) rfl fun _ => ?_
          rw [selectChoiceBy_of_malformed hthere havailable', hremarks]
      | ok choices =>
          rw [havailable] at havailable'
          cases hindex : choices[index]? with
          | none =>
              refine .of_outcome (selectChoiceBy_of_beyond hcurrent havailable hindex) rfl
                fun _ => ?_
              rw [selectChoiceBy_of_beyond hthere havailable' hindex, hremarks]
          | some choice =>
              -- only the action of the choice may be cut off, and then the choice is not told
              have haction : Follows SessionError.IsLoop w w' { s with message := "" }
                  (mapError .action (Script.run go choice.action) >>= fun _ =>
                    emit (.choiceSelected choice))
                  (mapError .action (Script.run go' choice.action) >>= fun _ =>
                    emit (.choiceSelected choice)) := by
                have hmapped : Follows SessionError.IsLoop w w' { s with message := "" }
                    (mapError .action (Script.run go choice.action))
                    (mapError .action (Script.run go' choice.action)) :=
                  (run_follows hgo choice.action _).mapError
                    fun _ ⟨limit, hlimit⟩ => ⟨limit, congrArg _ hlimit⟩
                exact hmapped.bind fun _ t => .of_outcome rfl rfl fun _ => rfl
              have hcleared : w.Twin w' { s with message := "" } := htwin.mono (.of_eq rfl rfl)
              refine ⟨fun _ => ?_, fun _ => ?_⟩
              · have hseen := haction.seen hcleared
                rw [selectChoiceBy_of_choice hcurrent havailable hindex]
                exact ⟨hseen.screens, hseen.relays⟩
              · rw [selectChoiceBy_of_choice hcurrent havailable hindex,
                  selectChoiceBy_of_choice hthere havailable' hindex, hremarks]
                exact (haction.followed hcleared).after (List.forall₂_refl _)

omit hgo in
/-- What is followed is followed as a call of a host. -/
theorem Follows.reported {ε α : Type} {cut : ε → Prop} {first second : Play ε α}
    {reply : α → Reply} {error : ε → SessionError} (h : Follows cut w w' s first second)
    (hcut : ∀ found, cut found → SessionError.IsLoop (error found)) :
    Follows SessionError.IsLoop w w' s (first.reported reply error)
      (second.reported reply error) where
  seen htwin := h.seen htwin
  followed htwin := by
    cases h.followed htwin with
    | same hresult hstate htrace =>
        refine .same ?_ hstate htrace
        show ((second w' s).result.mapError error).map reply = _
        rw [hresult]
        rfl
    | @cutOff found front hlimit hfound hcutOff hfront hshorter =>
        -- a cut stays one, as the host is told of the same error
        refine .cutOff hlimit ?_ (hcut found hcutOff) hfront hshorter
        show ((first w s).result.mapError error).map reply = _
        rw [hfound]
        rfl

end

/-! ### Calls that lead to no place -/

variable {ε : Type} {item recipe : String} {amount : Amount}

/-- An operation on an item is the same in both worlds if it is for a known item. -/
theorem knowsItem_bind_twin (htwin : w.Twin w' s) {next : Bool → Play ε Bool}
    (hunknown : next false = pure false)
    (h : w.graph.hasItem item = true → next true w' s = next true w s) :
    (knowsItem item >>= next) w' s = (knowsItem item >>= next) w s := by
  have hitem := htwin.hasItem item
  cases hknown : w.graph.hasItem item with
  | false =>
      rw [hknown] at hitem
      rw [knowsItem_bind_of_unknown hunknown hknown, knowsItem_bind_of_unknown hunknown hitem]
  | true =>
      rw [hknown] at hitem
      rw [knowsItem_bind_of_known hknown, knowsItem_bind_of_known hitem, h hknown]

theorem addItem_twin (htwin : w.Twin w' s) :
    (addItem item amount : Play ε Bool) w' s = (addItem item amount : Play ε Bool) w s :=
  knowsItem_bind_twin htwin rfl fun _ => rfl

theorem consumeItem_twin (htwin : w.Twin w' s) :
    (consumeItem item amount : Play ε Bool) w' s = (consumeItem item amount : Play ε Bool) w s := by
  refine knowsItem_bind_twin htwin rfl fun _ => ?_
  simp only [if_true, state_bind]
  cases s.inventory.consume? item amount <;> rfl

theorem removeItem_twin (htwin : w.Twin w' s) :
    (removeItem item : Play ε Bool) w' s = (removeItem item : Play ε Bool) w s := by
  refine knowsItem_bind_twin htwin rfl fun _ => ?_
  simp only [if_true, state_bind]
  cases s.inventory.remove? item <;> rfl

theorem unlockRecipe_twin (htwin : w.Twin w' s) :
    (unlockRecipe recipe : Play ε Bool) w' s = (unlockRecipe recipe : Play ε Bool) w s := by
  rw [unlockRecipe_run, unlockRecipe_run, htwin.recipes]

theorem useRecipe_twin (htwin : w.Twin w' s) (index : Nat) :
    (useRecipe index : Play ε Bool) w' s = (useRecipe index : Play ε Bool) w s := by
  -- twins differ in scripts that are over; neither the recipe nor its message is read off these
  have hrecipe : s.unlockedRecipe? w' index = s.unlockedRecipe? w index := by
    rw [htwin.frame]
    rfl
  have hmessage (recipe : Recipe) : w'.craftedMessage recipe = w.craftedMessage recipe := by
    rw [htwin.frame]
    rfl
  rw [useRecipe, world_bind, world_bind, state_bind, state_bind, hrecipe]
  cases s.unlockedRecipe? w index with
  | none => rfl
  | some recipe =>
      dsimp only
      rw [hmessage]
      split <;> rfl

theorem prepareText_twin (htwin : w.Twin w' s) (text : String) :
    prepareText text w' s = prepareText text w s := by
  rw [prepareText, world_bind, world_bind, state_bind, state_bind, noteRemarks_bind,
    noteRemarks_bind, ofExcept_run, ofExcept_run, htwin.context, htwin.remarkTrace]

theorem reported_twin {ε α : Type} {play : Play ε α} {reply : α → Reply}
    {error : ε → SessionError} (h : play w' s = play w s) :
    play.reported reply error w' s = play.reported reply error w s := by
  rw [Play.reported, Play.reported, h]

end Play

namespace HostCall

/-- Whether a call leads to no place. -/
def IsLocal : HostCall → Prop
  | start | selectChoice _ | dispatch _ | execute _ => False
  | _ => True

/-- A call that leads to no place never asks the way. -/
theorem playBy_of_isLocal {call : HostCall} (h : call.IsLocal) : call.playBy go = call.play := by
  cases call <;> first | rfl | exact h.elim

/-- A call that leads to no place does the same in twins. -/
theorem play_twin (htwin : w.Twin w' s) {call : HostCall} (h : call.IsLocal) :
    call.play w' s = call.play w s := by
  cases call with
  | start | selectChoice _ | dispatch _ | execute _ => exact h.elim
  | useRecipe index => exact Play.reported_twin (Play.useRecipe_twin htwin index)
  | addItem item amount => exact Play.reported_twin (Play.addItem_twin htwin)
  | consumeItem item amount => exact Play.reported_twin (Play.consumeItem_twin htwin)
  | removeItem item => exact Play.reported_twin (Play.removeItem_twin htwin)
  | unlockRecipe recipe => exact Play.reported_twin (Play.unlockRecipe_twin htwin)
  | prepareText text => exact Play.reported_twin (Play.prepareText_twin htwin text)
  | lockRecipe recipe =>
      refine Play.reported_twin ?_
      rw [Play.lockRecipe_run, Play.lockRecipe_run]
  | countItem item | finish =>
      rw [htwin.frame]
      rfl
  | setVariable name value | setMessage text | clearMessage => rfl

/-- Every call is followed where the ways are. -/
theorem playBy_follows
    (hgo : ∀ destination s, Play.Follows ActionError.IsLoop w w' s (go destination)
      (go' destination)) (call : HostCall) (s : State) :
    Play.Follows SessionError.IsLoop w w' s (call.playBy go) (call.playBy go') := by
  by_cases hlocal : call.IsLocal
  · have hsteps := (call.course (Licence.all_covers w) call.admittedBy_all s).steps
    rw [playBy_of_isLocal hlocal, playBy_of_isLocal hlocal]
    exact .of_same (hsteps.seen.2 s List.mem_cons_self) fun htwin => play_twin htwin hlocal
  · -- four calls may lead to places
    cases call with
    | start => exact (Play.startBy_follows hgo s).reported fun _ h => h
    | selectChoice index => exact (Play.selectChoiceBy_follows hgo index s).reported fun _ h => h
    | dispatch command =>
        exact (Play.perform_follows hgo command s).reported
          fun _ ⟨limit, hlimit⟩ => ⟨limit, congrArg _ hlimit⟩
    | execute script =>
        exact (Play.run_follows hgo script s).reported
          fun _ ⟨limit, hlimit⟩ => ⟨limit, congrArg _ hlimit⟩
    | _ => exact absurd trivial hlocal

/-- **Calls follow calls** where the second world has no lower hop limit. -/
theorem play_follows (hlimit : w.settings.maxHops ≤ w'.settings.maxHops) (call : HostCall)
    (s : State) : Play.Follows SessionError.IsLoop w w' s call.play call.play :=
  call.playBy_follows (Play.go_follows hlimit) s

end HostCall

end Narrative
