import Narrative.Proofs.Session.Navigation

/-!
# Habits of scripts

A habit is a relation between the state before, what happens, and the state behind that the single
things keep which scripts and places do: the acts of commands, notices, marks, arrivals, and going
one level deeper and back. Whatever scripts and places do then is in the relation as a whole.

Where a trail says what may happen in a run of the host, a habit says what happens in scripts and
places alone, so it can speak of what only the host does.

A `ScriptHabit` leaves out what only places do. It is enough for scripts whose ways to other places
keep it too.

* **`Play.run_obeys`**, **`Play.perform_obeys`** — scripts and commands keep every such habit.
* **`Play.go_obeys`** — entering places keeps every habit.
-/

namespace Narrative

variable {w : World} {R : State → Trace → State → Prop} {ε α β : Type}

/-- What the single things keep that scripts do, one behind the other. -/
structure ScriptHabit (w : World) (R : State → Trace → State → Prop) : Prop where
  nil : ∀ s, R s [] s
  append : ∀ {s s' s'' trace trace'}, R s trace s' → R s' trace' s'' → R s (trace ++ trace') s''
  note : ∀ s notice, R s [⟨.notice notice, s⟩] s
  acts : ∀ {s s' command trace}, Command.Acts w s command trace s' → R s trace s'
  seeScreen : ∀ s index, R s [⟨.change, s.seeScreen index⟩] (s.seeScreen index)
  seeRelay : ∀ s name, R s [⟨.change, s.seeRelay name⟩] (s.seeRelay name)

/-- What the single things keep that scripts and places do, one behind the other. -/
structure Habit (w : World) (R : State → Trace → State → Prop) : Prop
    extends ScriptHabit w R where
  arrive : ∀ s {index screen}, w.graph.screen? index = some screen →
    R s (Play.arrive index screen w s).trace (Play.arrive index screen w s).state
  down : ∀ s, R s [⟨.change, s.down⟩] s.down
  up : ∀ s, R s [⟨.change, s.up⟩] s.up

namespace ScriptHabit

/-- Notes are a habit, since they change nothing. -/
theorem notes (hR : ScriptHabit w R) (notices : List Notice) (s : State) :
    R s (Trace.noted notices s) s := by
  induction notices with
  | nil => exact hR.nil s
  | cons notice rest ih => exact hR.append (hR.note s notice) ih

end ScriptHabit

namespace Play

/-- What an operation does is in the relation, wherever it begins and however it ends. -/
def Obeys (w : World) (R : State → Trace → State → Prop) (play : Play ε α) : Prop :=
  ∀ s, R s (play w s).trace (play w s).state

variable {go : Destination → Play ActionError Unit} {s : State}

/-- A habit is kept by plays one after the other. -/
theorem Obeys.bind (hR : ScriptHabit w R) {first : Play ε β} {next : β → Play ε α}
    (hfirst : Obeys w R first) (hnext : ∀ value, Obeys w R (next value)) :
    Obeys w R (first >>= next) := by
  intro s
  have hthere := hfirst s
  rcases hrun : first w s with ⟨result, s', trace⟩
  rw [hrun] at hthere
  -- what failed has no second part, and its trace is all there is
  cases result with
  | ok value =>
      rw [bind_of_ok hrun]
      exact hR.append hthere (hnext value s')
  | error error =>
      rw [bind_of_error hrun]
      exact hthere

theorem deeper_obeys (hR : Habit w R) {play : Play ActionError Unit} (h : Obeys w R play) :
    Obeys w R (deeper play) := by
  intro s
  rw [deeper_run]
  exact hR.append (hR.append (hR.down s) (h s.down)) (hR.up _)

section

variable (hR : ScriptHabit w R) (hgo : ∀ destination, Obeys w R (go destination))
include hR hgo

/-- Every command keeps the habit. -/
theorem perform_obeys (command : Command) : Obeys w R (perform go command) := by
  intro s
  have hcases := perform_performed go w s command
  generalize perform go command w s = outcome at hcases ⊢
  cases hcases with
  | fails h => exact hR.nil s
  | leads deed h => exact hR.append (hR.note s _) (hgo _ s)
  | acts h => exact hR.acts h

theorem performSource_obeys (source : String) : Obeys w R (performSource go source) := by
  intro s
  cases hparse : Command.parse source with
  | error error =>
      rw [performSource_of_error hparse]
      exact hR.nil s
  | ok command =>
      rw [performSource_of_ok hparse]
      exact perform_obeys hR hgo command s

theorem heed_obeys (source : String) : Obeys w R (heed go source) := by
  intro s
  have hsource := performSource_obeys hR hgo source s
  cases heeding go source w s with
  | done hrun =>
      rw [heed_of_ok hrun, ← hrun]
      exact hsource
  | skip hrun hfatal =>
      -- the command may have done something before it failed
      rw [heed_of_skip hrun hfatal]
      rw [hrun] at hsource
      exact hR.append hsource (hR.note _ _)
  | fatal hrun hfatal =>
      rw [heed_of_fatal hrun hfatal, ← hrun]
      exact hsource

/-- Every script keeps the habit. -/
theorem run_obeys (script : Script) : Obeys w R (Script.run go script) := by
  induction script with
  | nil => exact hR.nil
  | cons source rest ih =>
      intro s
      rw [Script.run_cons]
      exact Obeys.bind hR (heed_obeys hR hgo source) (fun _ => ih) s

/-- The scripts of a stage keep the habit, if marking the place does. -/
theorem staged_obeys {mark : State → State} (hmark : ∀ s, R s [⟨.change, mark s⟩] (mark s))
    (seen : Bool) (scripts : StageScripts) : Obeys w R (staged go seen mark scripts) := by
  have halways := run_obeys hR hgo scripts.always
  cases seen with
  | true => exact halways
  | false => exact .bind hR hmark fun _ => .bind hR (run_obeys hR hgo scripts.once) fun _ => halways

theorem stageScreen_obeys (index : Nat) (screen : Screen) :
    Obeys w R (stageScreen go index screen) := by
  intro s
  rw [stageScreen_run]
  exact staged_obeys hR hgo (hR.seeScreen · index) _ _ s

theorem stageRelay_obeys (relay : Relay) (name : String) :
    Obeys w R (stageRelay go relay name) := by
  intro s
  rw [stageRelay_run]
  exact staged_obeys hR hgo (hR.seeRelay · name) _ _ s

/-- Taking a fork keeps the habit. -/
theorem takeFork_obeys (relay : Relay) (name : String) : Obeys w R (takeFork go relay name) := by
  intro s
  rw [takeFork_run]
  refine hR.append (hR.notes _ s) ?_
  cases relay.selectFork (s.context w) with
  | error error => exact hR.nil s
  | ok found =>
      cases found with
      | none => exact hR.note s _
      | some index => exact run_obeys hR hgo _ s

end

/-- A visit keeps the habit, if every way does. -/
theorem visit_obeys (hR : Habit w R) (hgo : ∀ destination, Obeys w R (go destination))
    (destination : Destination) : Obeys w R (visit go destination) := by
  have hscript := hR.toScriptHabit
  intro s
  by_cases hexists : destination.ExistsIn w.graph
  · cases destination with
    | screen index =>
        obtain ⟨screen, hscreen⟩ := Graph.exists_screen? hexists
        rw [visit, visitScreen_of_some hscreen]
        exact Obeys.bind hscript (stageScreen_obeys hscript hgo index screen)
          (fun _ s => hR.arrive s hscreen) s
    | relay name =>
        obtain ⟨relay, hrelay⟩ := Graph.exists_relay? hexists
        rw [visit, visitRelay_of_some hrelay]
        exact Obeys.bind hscript (stageRelay_obeys hscript hgo relay name)
          (fun _ => takeFork_obeys hscript hgo relay name) s
  · -- what does not exist is refused before anything happens
    rw [visit_of_missing hexists]
    exact hR.nil s

theorem enter_obeys (hR : Habit w R) (room : Nat) :
    ∀ destination, Obeys w R (enter room destination) := by
  induction room with
  -- without room the entry is refused, and all it does is to note so
  | zero => exact fun _ s => hR.note s _
  | succ room ih => exact fun destination => deeper_obeys hR (visit_obeys hR ih destination)

/-- **Entering a place keeps every habit**, whatever its scripts are and wherever they lead. -/
theorem go_obeys (hR : Habit w R) (destination : Destination) :
    Obeys w R (Play.go destination) :=
  fun s => enter_obeys hR _ destination s

end Play

end Narrative
