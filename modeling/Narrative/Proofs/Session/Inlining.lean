import Mathlib
import Narrative.Proofs.Session.Skipping
import Narrative.Proofs.Session.Unwinding

/-!
# Relays are inlined

A relay is no place to stay: going to one does what its scripts and the action of one of its forks
do, as one script that is run one level deeper. Which action that is, is read off the state that the
scripts left, and only up to the first guard that is not false.

* **`Fork.Chooses`** — the action that forks come to, said without looking for it; there is exactly
  one (`Fork.existsUnique_chooses`).
* **`Fork.first_append`** — forks whose guards are false do nothing but move the others on.
* **`Play.dispatch_relay_inlined`** — the dispatch, from what the scripts (`stageRelay_due`) and the
  forks (`takeFork_of_chooses`) come to.
-/

namespace Narrative

namespace Fork

variable {ctx : Context} {forks front rest : List Fork} {fork : Fork} {error : ExprError}
  {choice : Except ExprError Script}

/-! ## The fork that is taken -/

/-- All guards of the forks are false. -/
def Passed (ctx : Context) (forks : List Fork) : Prop :=
  ∀ fork ∈ forks, fork.condition.evaluate ctx = .ok false

theorem passed_cons :
    Passed ctx (fork :: rest) ↔ fork.condition.evaluate ctx = .ok false ∧ Passed ctx rest :=
  List.forall_mem_cons

/-- What forks come to: the action of the first one whose guard is true, nothing if all guards are
false, and an error if the first guard that is not false is malformed. -/
inductive Chooses (ctx : Context) : List Fork → Except ExprError Script → Prop
  | taken {front rest : List Fork} {fork : Fork} (hfront : Passed ctx front)
      (hfork : fork.condition.evaluate ctx = .ok true) :
      Chooses ctx (front ++ fork :: rest) (.ok fork.action)
  | none {forks : List Fork} (hforks : Passed ctx forks) : Chooses ctx forks (.ok [])
  | malformed {front rest : List Fork} {fork : Fork} {error : ExprError}
      (hfront : Passed ctx front) (hfork : fork.condition.evaluate ctx = .error error) :
      Chooses ctx (front ++ fork :: rest) (.error error)

/-- A fork whose guard is false makes no difference to the ones behind it. -/
theorem Chooses.cons (hfork : fork.condition.evaluate ctx = .ok false)
    (h : Chooses ctx rest choice) : Chooses ctx (fork :: rest) choice := by
  cases h with
  | taken hfront htrue => exact .taken (passed_cons.mpr ⟨hfork, hfront⟩) htrue
  | none hforks => exact .none (passed_cons.mpr ⟨hfork, hforks⟩)
  | malformed hfront herror => exact .malformed (passed_cons.mpr ⟨hfork, hfront⟩) herror

/-- The guards of forks come to some choice. -/
theorem exists_chooses (ctx : Context) (forks : List Fork) :
    ∃ choice, Chooses ctx forks choice := by
  induction forks with
  | nil => exact ⟨_, .none fun _ h => nomatch h⟩
  | cons fork rest ih =>
      -- the first fork decides unless its guard is false, in which case the others do
      have hnil : Passed ctx [] := fun _ h => nomatch h
      cases hfork : fork.condition.evaluate ctx with
      | error error => exact ⟨_, .malformed hnil hfork⟩
      | ok holds =>
          cases holds with
          | true => exact ⟨_, .taken hnil hfork⟩
          | false =>
              obtain ⟨choice, h⟩ := ih
              exact ⟨choice, h.cons hfork⟩

/-! ## Looking for it -/

theorem first_of_true (h : fork.condition.evaluate ctx = .ok true) :
    first ctx (fork :: rest) = .ok (some 0) := by
  rw [first, h]
  rfl

theorem first_of_false (h : fork.condition.evaluate ctx = .ok false) :
    first ctx (fork :: rest) = (first ctx rest).map (Option.map (· + 1)) := by
  rw [first, h]
  cases first ctx rest <;> rfl

theorem first_of_error (h : fork.condition.evaluate ctx = .error error) :
    first ctx (fork :: rest) = .error error := by
  rw [first, h]
  rfl

/-- Forks whose guards are false only move the others on. -/
theorem first_append (hfront : Passed ctx front) (rest : List Fork) :
    first ctx (front ++ rest) = (first ctx rest).map (Option.map (· + front.length)) := by
  induction front with
  | nil =>
      rw [List.nil_append]
      rcases first ctx rest with error | _ | index <;> rfl
  | cons fork front ih =>
      obtain ⟨hfork, hfront⟩ := passed_cons.mp hfront
      rw [List.cons_append, first_of_false hfork, ih hfront]
      rcases first ctx rest with error | _ | index <;> rfl

/-- Where no guard holds, no fork is taken. -/
theorem first_of_passed (h : Passed ctx forks) : first ctx forks = .ok none := by
  have happend := first_append h []
  rwa [List.append_nil] at happend

/-- The first fork with a guard that holds is taken. -/
theorem first_of_taken (hfront : Passed ctx front)
    (hfork : fork.condition.evaluate ctx = .ok true) (rest : List Fork) :
    first ctx (front ++ fork :: rest) = .ok (some front.length) := by
  rw [first_append hfront, first_of_true hfork]
  show Except.ok (some (0 + front.length)) = _
  rw [Nat.zero_add]

/-- The first guard that cannot be read ends the search, unless a fork was taken before. -/
theorem first_of_malformed (hfront : Passed ctx front)
    (hfork : fork.condition.evaluate ctx = .error error) (rest : List Fork) :
    first ctx (front ++ fork :: rest) = .error error := by
  rw [first_append hfront, first_of_error hfork]
  rfl

/-- The look-up finds what the forks come to. -/
theorem Chooses.eq_of_first (h : Chooses ctx forks choice) :
    choice = (first ctx forks).map fun found =>
      ((found.bind (forks[·]?)).map Fork.action).getD [] := by
  cases h with
  | taken hfront hfork =>
      rw [first_of_taken hfront hfork]
      simp [Except.map]
  | none hforks => rw [first_of_passed hforks]; rfl
  | malformed hfront hfork => rw [first_of_malformed hfront hfork]; rfl

/-- The guards of forks come to one choice. -/
theorem existsUnique_chooses (ctx : Context) (forks : List Fork) :
    ∃! choice, Chooses ctx forks choice := by
  obtain ⟨choice, h⟩ := exists_chooses ctx forks
  exact ⟨choice, h, fun other hother => hother.eq_of_first.trans h.eq_of_first.symm⟩

/-- A fork that is found has all false guards in front of it and a true one of its own. -/
theorem exists_taken_of_first {index : Nat} (h : first ctx forks = .ok (some index)) :
    ∃ front fork rest, forks = front ++ fork :: rest ∧ front.length = index ∧
      Passed ctx front ∧ fork.condition.evaluate ctx = .ok true := by
  obtain ⟨choice, hchoice⟩ := exists_chooses ctx forks
  cases hchoice with
  | @taken front rest fork hfront hfork =>
      rw [first_of_taken hfront hfork] at h
      cases h
      exact ⟨front, fork, rest, rfl, rfl, hfront, hfork⟩
  | none hforks => rw [first_of_passed hforks] at h; nomatch h
  | malformed hfront hfork => rw [first_of_malformed hfront hfork] at h; nomatch h

/-- The forks behind the one that is taken are not looked at. -/
theorem remarks_of_taken (hfront : Passed ctx front)
    (hfork : fork.condition.evaluate ctx = .ok true) (rest later : List Fork) :
    remarks ctx (front ++ fork :: later) = remarks ctx (front ++ fork :: rest) := by
  induction front with
  | nil => simp only [List.nil_append, remarks, hfork]
  | cons head front ih =>
      obtain ⟨hhead, hfront⟩ := passed_cons.mp hfront
      simp only [List.cons_append, remarks, hhead, ih hfront]

end Fork

namespace Relay

variable {relay : Relay} {ctx : Context} {index : Nat}

/-- The relay with other forks behind the one at a position. -/
def withLater (relay : Relay) (index : Nat) (later : List Fork) : Relay :=
  { relay with forks := relay.forks.take (index + 1) ++ later }

/-- Exchanging the later forks keeps those up to the one that is taken. -/
theorem withLater_forks {front rest : List Fork} {fork : Fork}
    (h : relay.forks = front ++ fork :: rest) (later : List Fork) :
    (relay.withLater front.length later).forks = front ++ fork :: later := by
  simp [withLater, h, List.take_length_add_append]

/-- **A relay selects the first fork whose guard is true.** -/
theorem selectFork_eq_some_iff :
    relay.selectFork ctx = .ok (some index) ↔
      (∃ fork, relay.forks[index]? = some fork ∧ fork.condition.evaluate ctx = .ok true) ∧
        ∀ earlier < index, ∀ fork, relay.forks[earlier]? = some fork →
          fork.condition.evaluate ctx = .ok false := by
  unfold selectFork
  constructor
  · intro h
    obtain ⟨front, fork, rest, hforks, rfl, hfront, hfork⟩ := Fork.exists_taken_of_first h
    rw [hforks]
    refine ⟨⟨fork, ?_, hfork⟩, fun earlier hearlier other hother => ?_⟩
    · rw [List.getElem?_append_right (Nat.le_refl _), Nat.sub_self]
      rfl
    · rw [List.getElem?_append_left hearlier] at hother
      exact hfront other (List.mem_of_getElem? hother)
  · rintro ⟨⟨fork, hfork, htrue⟩, hearlier⟩
    obtain ⟨hindex, rfl⟩ := List.getElem?_eq_some_iff.mp hfork
    -- the forks in front of a position are those at smaller positions
    have hfront : Fork.Passed ctx (relay.forks.take index) := by
      intro other hother
      obtain ⟨earlier, hget⟩ := List.mem_iff_getElem?.mp hother
      rw [List.getElem?_take] at hget
      split at hget
      · rename_i hlt
        exact hearlier earlier hlt other hget
      · nomatch hget
    have htaken := Fork.first_of_taken hfront htrue (relay.forks.drop (index + 1))
    rwa [← List.drop_eq_getElem_cons hindex, List.take_append_drop, List.length_take,
      Nat.min_eq_left (Nat.le_of_lt hindex)] at htaken

/-- What stands behind the fork that is selected makes no difference to the selection. -/
theorem selectFork_withLater (h : relay.selectFork ctx = .ok (some index)) (later : List Fork) :
    (relay.withLater index later).selectFork ctx = .ok (some index) := by
  unfold selectFork at h
  obtain ⟨front, fork, rest, hforks, rfl, hfront, hfork⟩ := Fork.exists_taken_of_first h
  rw [selectFork, withLater_forks hforks]
  exact Fork.first_of_taken hfront hfork later

end Relay

/-- The outcome with this depth in the end. -/
def Outcome.atDepth {ε α : Type} (outcome : Outcome ε α) (depth : Nat) : Outcome ε α :=
  { outcome with state := { outcome.state with depth } }

namespace Play

open Script (SameForHost)

variable {go : Destination → Play ActionError Unit} {w : World} {s : State} {relay : Relay}
  {name : String} {index : Nat} {choice : Except ExprError Script}

/-- A script and behind it the action that the forks come to, or their error. -/
def inlined (lead : Script) : Except ExprError Script → Play ActionError Unit
  | .ok action => execute (lead ++ action)
  | .error error => do
    execute lead
    fail (.expr error)

/-- The scripts of the relay run first, and their failing cuts the rest off. -/
theorem inlined_run (lead : Script) (choice : Except ExprError Script) :
    inlined lead choice w s = (execute lead >>= fun _ => inlined [] choice) w s := by
  cases choice with
  | ok action => exact Script.run_append Play.go lead action s
  | error error => rfl

/-! ## The two parts of a visit -/

/-- Behind its scripts a relay does what its forks come to. -/
theorem takeFork_of_chooses (h : Fork.Chooses (s.context w) relay.forks choice) :
    SameForHost (takeFork Play.go relay name w s) (inlined [] choice w s) := by
  have hremarks {outcome : Outcome ActionError Unit} : SameForHost
      (outcome.after (remarkTrace w s (Fork.remarks (s.context w) relay.forks))) outcome :=
    .of_quiet outcome (Trace.events_noted _ s)
  -- the choice is what the search finds, so the search may be split into its cases
  have hchoice := h.eq_of_first
  rw [takeFork_run]
  unfold Relay.selectFork
  cases hfirst : Fork.first (s.context w) relay.forks with
  | error error =>
      rw [hfirst] at hchoice
      subst hchoice
      exact hremarks
  | ok found =>
      rw [hfirst] at hchoice
      subst hchoice
      cases found with
      | none => exact hremarks.trans ⟨rfl, rfl, rfl⟩
      | some index => exact hremarks

/-- A relay takes the fork that it selects whatever stands behind it. -/
theorem takeFork_withLater (h : relay.selectFork (s.context w) = .ok (some index))
    (later : List Fork) :
    takeFork go (relay.withLater index later) name w s = takeFork go relay name w s := by
  have hlater := Relay.selectFork_withLater h later
  unfold Relay.selectFork at h
  obtain ⟨front, fork, rest, hforks, rfl, hfront, hfork⟩ := Fork.exists_taken_of_first h
  rw [takeFork_run, takeFork_run, hlater, Relay.selectFork, h, Relay.withLater_forks hforks, hforks,
    Fork.remarks_of_taken hfront hfork rest later]
  simp

/-! ## The dispatch -/

section

variable (hrelay : w.graph.relay? name = some relay)
include hrelay

/-- Going to a relay that is declared is entering it. -/
theorem dispatch_relay_run :
    dispatch (.relay name) w s =
      (Play.go (.relay name) w s).after [⟨.notice (.deed (.relay name)), s⟩] := by
  have hdeclared : w.graph.relays.contains name = true := by
    show (w.graph.relay? name).isSome = true
    rw [hrelay]
    rfl
  show Play.relay Play.go name w s = _
  rw [Play.relay, world_bind, if_pos hdeclared, note_bind]

/-- A visit of a relay is one script. -/
theorem visit_relay_inlined
    (hchoice : Fork.Chooses
      ((execute (relay.scripts.due (decide (name ∈ s.seenRelays))) w
        (s.markedRelay name)).state.context w) relay.forks choice) :
    SameForHost (visit Play.go (.relay name) w s)
      (inlined (relay.scripts.due (decide (name ∈ s.seenRelays))) choice w
        (s.markedRelay name)) := by
  obtain ⟨mark, hmark, hstage⟩ := stageRelay_due Play.go w s relay name
  rw [visit, visitRelay_of_some hrelay, inlined_run]
  rcases hrun : execute (relay.scripts.due (decide (name ∈ s.seenRelays))) w (s.markedRelay name)
    with ⟨result, t, trace⟩
  rw [hrun] at hchoice
  rw [execute] at hrun
  rw [hrun, Outcome.after_mk] at hstage
  have hevents : (mark ++ trace).events = trace.events := by
    rw [Trace.events_append, hmark, List.nil_append]
  cases result with
  | ok value =>
      rw [bind_of_ok hstage, execute, bind_of_ok hrun]
      exact (takeFork_of_chooses hchoice).after hevents
  | error error =>
      -- the forks are not reached
      rw [bind_of_error hstage, execute, bind_of_error hrun]
      exact ⟨rfl, rfl, hevents⟩

/-- **Relays are inlined.** The dispatch is one script from the state one level deeper in which the
relay is marked. -/
theorem dispatch_relay_inlined (hroom : s.depth < w.settings.maxHops)
    (hchoice : Fork.Chooses
      ((execute (relay.scripts.due (decide (name ∈ s.seenRelays))) w
        (s.down.markedRelay name)).state.context w) relay.forks choice) :
    SameForHost (dispatch (.relay name) w s)
      ((inlined (relay.scripts.due (decide (name ∈ s.seenRelays))) choice w
        (s.down.markedRelay name)).atDepth s.depth) := by
  have hvisit := visit_relay_inlined hrelay (s := s.down) hchoice
  -- the way up leads to the depth at which the way down began
  have hdepth := depth_visit (.relay name) w s.down
  rw [dispatch_relay_run hrelay, go_eq_descend, descend_of_room hroom, deeper_run]
  rcases hrun : visit Play.go (.relay name) w s.down with ⟨result, t, trace⟩
  rw [hrun] at hvisit hdepth
  refine ⟨hvisit.result, ?_, ?_⟩
  · show t.up = _
    rw [State.up, hdepth]
    exact congrArg (fun state : State => { state with depth := s.depth }) hvisit.state
  · exact Eq.trans (by simp) hvisit.events

end

end Play

/-- **A relay inlines exactly one fork.** Where the hop limit leaves room, going to a relay marks it
and does one level deeper what one script does: the `once` script if the relay is new, the `always`
script, and the action of the first fork whose guard is true in the state that these leave. The
forks come to nothing if all guards are false, and to an error if the first one that is not false
is malformed; what stands behind the fork that is taken makes no difference. -/
theorem relay_inlines_one_fork (relay : Relay) :
    (∀ (w : World) (s : State) (name : String), w.graph.relay? name = some relay →
      s.depth < w.settings.maxHops →
      let lead := relay.scripts.due (decide (name ∈ s.seenRelays))
      let led := Play.execute lead w (s.down.markedRelay name)
      (∃! choice, Fork.Chooses (led.state.context w) relay.forks choice) ∧
        ∀ choice, Fork.Chooses (led.state.context w) relay.forks choice →
          Script.SameForHost (Play.dispatch (.relay name) w s)
            ((Play.inlined lead choice w (s.down.markedRelay name)).atDepth s.depth)) ∧
    ∀ (ctx : Context) (index : Nat),
      (relay.selectFork ctx = .ok (some index) ↔
        (∃ fork, relay.forks[index]? = some fork ∧ fork.condition.evaluate ctx = .ok true) ∧
          ∀ earlier < index, ∀ fork, relay.forks[earlier]? = some fork →
            fork.condition.evaluate ctx = .ok false) ∧
      (relay.selectFork ctx = .ok (some index) → ∀ later : List Fork,
        (relay.withLater index later).selectFork ctx = .ok (some index) ∧
          ∀ (w : World) (s : State) (name : String), s.context w = ctx →
            Play.takeFork Play.go (relay.withLater index later) name w s =
              Play.takeFork Play.go relay name w s) := by
  refine ⟨fun w s name hrelay hroom => ⟨Fork.existsUnique_chooses _ _, fun choice hchoice =>
    Play.dispatch_relay_inlined hrelay hroom hchoice⟩, fun ctx index =>
    ⟨Relay.selectFork_eq_some_iff, fun h later => ⟨Relay.selectFork_withLater h later, ?_⟩⟩⟩
  rintro w s name rfl
  exact Play.takeFork_withLater h later

/-- A junction that opens its second way on the first visit: there the fare is a half price. -/
def Relay.junction : Relay where
  name := "junction"
  scripts := { once := ["set fare = 'half'"], always := ["set fare += '-price'"] }
  forks :=
    [{ condition := ["var(fare) == 'half'"], action := ["exit"] },
      { condition := ["var(fare) == 'half-price'"], action := ["message Aboard"] },
      { condition := [")"], action := ["exit"] }]

/-- A line with one junction. -/
def World.railway : World where
  graph :=
    { name := "railway"
      title := "Railway"
      start := "platform"
      relays := .ofList [("junction", .junction)] }
  settings := { maxHops := 2 }

/-- The guards are read behind both scripts, and the malformed one is not read. -/
theorem junction_inlines_one_fork :
    World.railway.graph.relay? "junction" = some .junction ∧
      (Play.dispatch (.relay "junction") .railway (.initial .railway)).result = .ok () ∧
      (Play.dispatch (.relay "junction") .railway (.initial .railway)).trace.events =
        [.messageChanged "Aboard"] ∧
      (Relay.junction.withLater 1 [⟨["("], []⟩]).selectFork
        (State.context .railway { values := .ofList [("fare", .text "half-price")] }) =
          .ok (some 1) := by
  have hrelay : World.railway.graph.relay? "junction" = some .junction := rfl
  obtain ⟨hdispatch, hselect⟩ := relay_inlines_one_fork .junction
  obtain ⟨-, hsame⟩ := hdispatch .railway (.initial .railway) "junction" hrelay (by decide)
  -- the scripts of the relay set the fare before the guards are read
  have hchoice : Fork.Chooses
      ((Play.execute ["set fare = 'half'", "set fare += '-price'"] .railway
        ((State.initial .railway).down.markedRelay "junction")).state.context .railway)
      ([⟨["var(fare) == 'half'"], ["exit"]⟩] ++
        ⟨["var(fare) == 'half-price'"], ["message Aboard"]⟩ :: [⟨[")"], ["exit"]⟩])
      (.ok ["message Aboard"]) :=
    .taken (List.forall_mem_singleton.mpr (by cbv)) (by cbv)
  obtain ⟨hresult, -, hevents⟩ := hsame _ hchoice
  have hsecond : Relay.junction.selectFork
      (State.context .railway { values := .ofList [("fare", .text "half-price")] }) =
        .ok (some 1) := by cbv
  exact ⟨hrelay, hresult.trans (by cbv), hevents.trans (by cbv),
    ((hselect _ 1).2 hsecond _).1⟩

end Narrative
