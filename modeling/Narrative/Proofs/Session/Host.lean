import Narrative.Proofs.Session.Navigation

/-!
# What the host operations come to

The operations that a host calls, by the cases that their definitions distinguish. The entry of
the first screen and the action of a choice are given by their outcomes, so nothing here depends
on what scripts do.
-/

namespace Narrative.Play

variable {ε : Type} {go : Destination → Play ActionError Unit} {w : World} {s s' : State}
  {trace : Trace} {index : Nat} {item recipe : String} {amount : Amount}

/-! ## Starting -/

/-- Without a first screen nothing is done but the note. -/
theorem startBy_of_missing (h : w.graph.screenIndex? w.graph.start = none) :
    startBy go w s = ⟨.error (.missingStartScreen w.graph.start), s,
      [⟨.notice (.noStartScreen w.graph.name w.graph.start), s⟩]⟩ := by
  rw [startBy, world_bind, h]
  rfl

/-- Where the first screen is entered, the message is cleared behind it. -/
theorem startBy_of_ok (h : w.graph.screenIndex? w.graph.start = some index)
    (hgo : go (.screen index) w { s with phase := .active } = ⟨.ok (), s', trace⟩) :
    startBy go w s = ⟨.ok (), { s' with message := "" },
      ⟨.notice (.starting w.graph.name w.graph.start), s⟩ ::
        ⟨.change, { s with phase := .active }⟩ :: trace ++
        [⟨.change, { s' with message := "" }⟩,
          ⟨.event (.messageChanged ""), { s' with message := "" }⟩]⟩ := by
  rw [startBy, world_bind, h]
  simp only [note_bind, update_bind, attempt_bind, hgo]
  rfl

/-- Where the first screen is not entered, the phase is set back if there is no current screen. -/
theorem startBy_of_error {error : ActionError}
    (h : w.graph.screenIndex? w.graph.start = some index)
    (hgo : go (.screen index) w { s with phase := .active } = ⟨.error error, s', trace⟩) :
    startBy go w s =
      ⟨.error (.action error),
        { s' with phase := if s'.current.isNone then .notStarted else s'.phase },
        ⟨.notice (.starting w.graph.name w.graph.start), s⟩ ::
          ⟨.change, { s with phase := .active }⟩ :: trace ++
          [⟨.change,
            { s' with phase := if s'.current.isNone then .notStarted else s'.phase }⟩]⟩ := by
  rw [startBy, world_bind, h]
  simp only [note_bind, update_bind, attempt_bind, hgo]
  rfl

/-- Starting fails if there is no first screen or it is not entered. -/
theorem startBy_error {error : SessionError} (h : (startBy go w s).result = .error error) :
    w.graph.screenIndex? w.graph.start = none ∨
      ∃ index found, w.graph.screenIndex? w.graph.start = some index ∧
        (go (.screen index) w { s with phase := .active }).result = .error found ∧
        error = .action found := by
  cases hindex : w.graph.screenIndex? w.graph.start with
  | none => exact .inl rfl
  | some index =>
      refine .inr ⟨index, ?_⟩
      rcases hrun : go (.screen index) w { s with phase := .active } with ⟨result, s', trace⟩
      cases result with
      | ok value =>
          rw [startBy_of_ok hindex hrun] at h
          nomatch h
      | error found =>
          -- the error of the visit comes out as it is
          rw [startBy_of_error hindex hrun] at h
          cases h
          exact ⟨found, rfl, rfl, rfl⟩

/-! ## Choosing -/

/-- What there is to choose at a position: nothing without a current screen, nothing that could be
told where a guard is malformed, nothing beyond the open choices, and else a choice. -/
inductive Selection (w : World) (s : State) (index : Nat) : Prop
  | nowhere (h : s.currentScreen? w = none)
  | malformed {screen : Screen} {error : ExprError} (hscreen : s.currentScreen? w = some screen)
      (h : Choice.available (s.context w) screen.choices = .error error)
  | beyond {screen : Screen} {choices : List Choice} (hscreen : s.currentScreen? w = some screen)
      (h : Choice.available (s.context w) screen.choices = .ok choices)
      (hindex : choices[index]? = none)
  | choice {screen : Screen} {choices : List Choice} {choice : Choice}
      (hscreen : s.currentScreen? w = some screen)
      (h : Choice.available (s.context w) screen.choices = .ok choices)
      (hindex : choices[index]? = some choice)

/-- Selecting a choice ends in one of four ways. -/
theorem selection (w : World) (s : State) (index : Nat) : Selection w s index := by
  cases hscreen : s.currentScreen? w with
  | none => exact .nowhere hscreen
  | some screen =>
      cases h : Choice.available (s.context w) screen.choices with
      | error error => exact .malformed hscreen h
      | ok choices =>
          cases hindex : choices[index]? with
          | none => exact .beyond hscreen h hindex
          | some choice => exact .choice hscreen h hindex

/-- Without a current screen nothing happens. -/
theorem selectChoiceBy_of_nowhere (h : s.currentScreen? w = none) :
    selectChoiceBy go index w s = ⟨.ok (), s, []⟩ := by
  rw [selectChoiceBy, world_bind, state_bind, h]
  rfl

section

variable {screen : Screen} (hscreen : s.currentScreen? w = some screen)
include hscreen

/-- A malformed guard is an error, with nothing done but remarks. -/
theorem selectChoiceBy_of_malformed {error : ExprError}
    (h : Choice.available (s.context w) screen.choices = .error error) :
    selectChoiceBy go index w s =
      ⟨.error (.expr error), s,
        remarkTrace w s (Choice.remarks (s.context w) screen.choices)⟩ := by
  rw [selectChoiceBy, world_bind, state_bind, hscreen]
  simp [h, Outcome.after_mk]

/-- Behind the last choice nothing is done but remarks. -/
theorem selectChoiceBy_of_beyond {choices : List Choice}
    (h : Choice.available (s.context w) screen.choices = .ok choices)
    (hindex : choices[index]? = none) :
    selectChoiceBy go index w s =
      ⟨.ok (), s, remarkTrace w s (Choice.remarks (s.context w) screen.choices)⟩ := by
  rw [selectChoiceBy, world_bind, state_bind, hscreen]
  simp only [noteRemarks_bind, h, hindex]
  rw [pure_run, Outcome.after_mk, List.append_nil]

/-- The message is cleared before the action of the choice runs, and the host is told of the
choice behind it. -/
theorem selectChoiceBy_of_choice {choices : List Choice} {choice : Choice}
    (h : Choice.available (s.context w) screen.choices = .ok choices)
    (hindex : choices[index]? = some choice) :
    selectChoiceBy go index w s =
      ((mapError .action (Script.run go choice.action) >>= fun _ =>
        emit (.choiceSelected choice)) w { s with message := "" }).after
        (remarkTrace w s (Choice.remarks (s.context w) screen.choices) ++
          [⟨.notice (.choiceSelected choice.title), s⟩, ⟨.change, { s with message := "" }⟩,
            ⟨.event (.messageChanged ""), { s with message := "" }⟩]) := by
  rw [selectChoiceBy, world_bind, state_bind, hscreen]
  simp only [noteRemarks_bind, note_bind, h, hindex]
  -- the message is cleared by a change and an event, which the trace lists one by one
  rw [show (clearMessage : Play SessionError Unit) =
    (update (fun state => { state with message := "" }) >>= fun _ =>
      emit (.messageChanged "")) from rfl, bind_assoc_run]
  simp only [update_bind, emit_bind, Outcome.after_after, List.cons_append, List.nil_append]

end

/-- Choosing fails if a guard is malformed or the action of the choice fails. -/
theorem selectChoiceBy_error {error : SessionError}
    (h : (selectChoiceBy go index w s).result = .error error) :
    ∃ screen, s.currentScreen? w = some screen ∧
      ((∃ found, Choice.available (s.context w) screen.choices = .error found) ∨
        ∃ choices choice found, Choice.available (s.context w) screen.choices = .ok choices ∧
          choice ∈ choices ∧
          (Script.run go choice.action w { s with message := "" }).result = .error found ∧
          error = .action found) := by
  cases selection w s index with
  | nowhere hscreen =>
      rw [selectChoiceBy_of_nowhere hscreen] at h
      nomatch h
  | malformed hscreen havailable => exact ⟨_, hscreen, .inl ⟨_, havailable⟩⟩
  | beyond hscreen havailable hindex =>
      rw [selectChoiceBy_of_beyond hscreen havailable hindex] at h
      nomatch h
  | @choice screen choices choice hscreen havailable hindex =>
      rw [selectChoiceBy_of_choice hscreen havailable hindex] at h
      -- with a choice at hand, only its script can fail
      have hmem := List.mem_of_getElem? hindex
      rcases hrun : Script.run go choice.action w { s with message := "" } with
        ⟨result, s', trace⟩
      cases result with
      | ok value =>
          rw [mapError_bind_of_ok hrun] at h
          nomatch h
      | error found =>
          rw [mapError_bind_of_error hrun] at h
          cases h
          exact ⟨screen, hscreen,
            .inr ⟨choices, choice, found, havailable, hmem, by rw [hrun], rfl⟩⟩

/-! ## The inventory and the recipes -/

/-- Whether an item is known is noted only if it is not. -/
theorem knowsItem_run : (knowsItem item : Play ε Bool) w s =
    if w.graph.hasItem item then ⟨.ok true, s, []⟩
    else ⟨.ok false, s, [⟨.notice (.unknownItem item), s⟩]⟩ := by
  rw [knowsItem, world_bind]
  split <;> rfl

/-- An operation on an unknown item notes the item and answers no. -/
theorem knowsItem_bind_of_unknown {next : Bool → Play ε Bool}
    (hnext : next false = pure false) (h : w.graph.hasItem item = false) :
    (knowsItem item >>= next) w s = ⟨.ok false, s, [⟨.notice (.unknownItem item), s⟩]⟩ := by
  have hrun : (knowsItem item : Play ε Bool) w s =
      ⟨.ok false, s, [⟨.notice (.unknownItem item), s⟩]⟩ := by
    rw [knowsItem_run, h]
    rfl
  rw [bind_of_ok hrun, hnext]
  rfl

theorem knowsItem_bind_of_known {next : Bool → Play ε Bool} (h : w.graph.hasItem item = true) :
    (knowsItem item >>= next) w s = next true w s := by
  rw [bind_of_ok (by rw [knowsItem_run, h]; rfl), Outcome.after_nil]

/-- Adding a known item changes the inventory. -/
theorem addItem_of_known (h : w.graph.hasItem item = true) :
    (addItem item amount : Play ε Bool) w s =
      ⟨.ok true, { s with inventory := s.inventory.add item amount },
        [⟨.change, { s with inventory := s.inventory.add item amount }⟩]⟩ := by
  rw [addItem, knowsItem_bind_of_known h]
  rfl

/-- An unknown item is not added, which is noted. -/
theorem addItem_of_unknown (h : w.graph.hasItem item = false) :
    (addItem item amount : Play ε Bool) w s =
      ⟨.ok false, s, [⟨.notice (.unknownItem item), s⟩]⟩ :=
  knowsItem_bind_of_unknown rfl h

/-- A known item is consumed where there is enough of it. -/
theorem consumeItem_of_known (h : w.graph.hasItem item = true) :
    (consumeItem item amount : Play ε Bool) w s =
      match s.inventory.consume? item amount with
      | some inventory =>
        ⟨.ok true, { s with inventory := inventory },
          [⟨.change, { s with inventory := inventory }⟩]⟩
      | none => ⟨.ok false, s, []⟩ := by
  rw [consumeItem, knowsItem_bind_of_known h]
  simp only [if_true, state_bind]
  cases s.inventory.consume? item amount <;> rfl

/-- An unknown item is not consumed, which is noted. -/
theorem consumeItem_of_unknown (h : w.graph.hasItem item = false) :
    (consumeItem item amount : Play ε Bool) w s =
      ⟨.ok false, s, [⟨.notice (.unknownItem item), s⟩]⟩ :=
  knowsItem_bind_of_unknown rfl h

/-- A known item is removed where it is held. -/
theorem removeItem_of_known (h : w.graph.hasItem item = true) :
    (removeItem item : Play ε Bool) w s =
      match s.inventory.remove? item with
      | some (_, inventory) =>
        ⟨.ok true, { s with inventory := inventory },
          [⟨.change, { s with inventory := inventory }⟩]⟩
      | none => ⟨.ok false, s, []⟩ := by
  rw [removeItem, knowsItem_bind_of_known h]
  simp only [if_true, state_bind]
  cases s.inventory.remove? item <;> rfl

/-- An unknown item is not removed, which is noted. -/
theorem removeItem_of_unknown (h : w.graph.hasItem item = false) :
    (removeItem item : Play ε Bool) w s =
      ⟨.ok false, s, [⟨.notice (.unknownItem item), s⟩]⟩ :=
  knowsItem_bind_of_unknown rfl h

/-- A known recipe is unlocked, even a second time. -/
theorem unlockRecipe_run :
    (unlockRecipe recipe : Play ε Bool) w s =
      if w.graph.recipes.contains recipe then
        ⟨.ok true, { s with unlocked := s.unlocked ++ [recipe] },
          [⟨.change, { s with unlocked := s.unlocked ++ [recipe] }⟩]⟩
      else ⟨.ok false, s, [⟨.notice (.unknownRecipe recipe), s⟩]⟩ := by
  rw [unlockRecipe, world_bind, state_bind]
  split <;> rfl

/-- A recipe is locked once where it is unlocked. -/
theorem lockRecipe_run :
    (lockRecipe recipe : Play ε Bool) w s =
      if recipe ∈ s.unlocked then
        ⟨.ok true, { s with unlocked := s.unlocked.erase recipe },
          [⟨.change, { s with unlocked := s.unlocked.erase recipe }⟩]⟩
      else ⟨.ok false, s, []⟩ := by
  rw [lockRecipe, state_bind]
  split <;> rfl

/-- Nothing is crafted without a recipe whose ingredients are held. -/
theorem useRecipe_of_unusable (h : s.canUseRecipe w index = false) :
    (useRecipe index : Play ε Bool) w s = ⟨.ok false, s, []⟩ := by
  rw [useRecipe, world_bind, state_bind]
  unfold State.canUseRecipe at h
  cases hrecipe : s.unlockedRecipe? w index with
  | none => rfl
  | some recipe =>
      rw [hrecipe, Option.any_some] at h
      simp only [h]
      rfl

/-- The state behind a craft: results for ingredients, and a message that says so. -/
theorem useRecipe_of_usable {recipe : Recipe} (h : s.unlockedRecipe? w index = some recipe)
    (hheld : recipe.canCraft s.inventory = true) :
    (useRecipe index : Play ε Bool) w s =
      let crafted : State := { s with inventory := recipe.craft s.inventory }
      let told : State := { crafted with message := w.craftedMessage recipe }
      ⟨.ok true, told,
        [⟨.change, crafted⟩, ⟨.notice (.crafted recipe.name), crafted⟩, ⟨.change, told⟩,
          ⟨.event (.messageChanged told.message), told⟩]⟩ := by
  rw [useRecipe, world_bind, state_bind, h]
  simp only [hheld, if_true]
  rfl

end Narrative.Play
