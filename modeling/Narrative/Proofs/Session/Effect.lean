import Mathlib
import Narrative.Proofs.Holding
import Narrative.Proofs.Session.Representation

/-!
# What the verbs and the calls of a host change

Most verbs of scripts have a counterpart among the calls of a host: another way to the same effect,
with look-ups in another order and with replies of its own. Whatever a verb or a call does to the
state, it does to one part of it.

* **`State.EqualBut`** — two states are the same but for one part.
* **`Command.Acts.equalBut`**, **`HostCall.equalBut_play`** — the part that a verb or a call names
  is all that it changes.
* **`Command.sameEffect_counterpart`** — both ways lead to the same state, and the host is told the
  same.
* **`verbs_and_calls_agree`** — all of it, with what is replied, in every reachable state.
-/

namespace Narrative

variable {ε ε' α β : Type} {w : World} {s s' : State} {trace : Trace} {item recipe name : String}
  {amount : Amount} {go : Destination → Play ActionError Unit}

/-! ## Parts of the state -/

/-- A part of the state that changes by itself. -/
inductive State.Part where
  | amount (item : String)
  | value (name : String)
  | unlocked
  | message
  | phase
deriving DecidableEq, Repr

/-- The second state is the first one but for one part. Of the inventory this is the amount of one
item, and of the values that of one variable. -/
inductive State.EqualBut (s : State) : State.Part → State → Prop
  | amount {item : String} (inventory : Inventory)
      (h : ∀ other, item ≠ other → inventory.amountOf other = s.inventory.amountOf other) :
      EqualBut s (.amount item) { s with inventory := inventory }
  | value {name : String} (values : Registry Value)
      (h : ∀ other, name ≠ other → values.get? other = s.values.get? other) :
      EqualBut s (.value name) { s with values := values }
  | unlocked (names : List String) : EqualBut s .unlocked { s with unlocked := names }
  | message (text : String) : EqualBut s .message { s with message := text }
  | phase (phase : Phase) : EqualBut s .phase { s with phase := phase }

namespace State.EqualBut

/-- A state equals itself, whatever part is left out. -/
theorem refl (s : State) (part : State.Part) : s.EqualBut part s := by
  cases part with
  | amount item => exact .amount s.inventory fun _ _ => rfl
  | value name => exact .value s.values fun _ _ => rfl
  | unlocked => exact .unlocked s.unlocked
  | message => exact .message s.message
  | phase => exact .phase s.phase

/-- Adding an item changes its amount alone. -/
theorem add (s : State) (item : String) (amount : Amount) :
    s.EqualBut (.amount item) { s with inventory := s.inventory.add item amount } :=
  .amount _ fun other hother => by rw [Inventory.amountOf_add, if_neg hother]

/-- Consuming an item changes its amount alone. -/
theorem consume {inventory : Inventory} (h : s.inventory.consume? item amount = some inventory) :
    s.EqualBut (.amount item) { s with inventory := inventory } :=
  .amount _ fun _ hother => Inventory.amountOf_consume?_of_ne hother h

/-- Giving a variable a value changes that value alone. -/
theorem insert (s : State) (name : String) (value : Value) :
    s.EqualBut (.value name) { s with values := s.values.insert name value } :=
  .value _ fun other hother => by rw [Registry.get?_insert, if_neg (Ne.symm hother)]

end State.EqualBut

/-! ## What a verb changes -/

namespace Command

/-- The part of the state that a command is about. The commands that lead to a place may change
anything. -/
def part? : Command → Option State.Part
  | .give item _ | .consume item _ => some (.amount item)
  | .set name _ _ => some (.value name)
  | .unlock _ | .lock _ => some .unlocked
  | .message _ => some .message
  | .exit => some .phase
  | .jump _ | .relay _ | .next _ => none

variable {command : Command} {part : State.Part}

/-- A command that acts changes its own part alone. -/
theorem Acts.equalBut (h : command.Acts w s trace s') (hpart : command.part? = some part) :
    s.EqualBut part s' := by
  cases h <;> cases hpart
  case message text => exact .message text
  case give => exact .add s _ _
  case consume _ hheld => exact .consume hheld
  case spare => exact .refl s _
  case unlock => exact .unlocked _
  case lock => exact .unlocked _
  case set => exact .insert s _ _
  case exit => exact .phase _

/-- **A command changes the part that it is about**, and nothing if it fails. -/
theorem equalBut_perform (hpart : command.part? = some part) :
    s.EqualBut part (Play.perform go command w s).state := by
  have hperformed := Play.perform_performed go w s command
  generalize Play.perform go command w s = outcome at hperformed
  cases hperformed with
  | fails h => exact .refl s part
  | leads deed h => cases h <;> nomatch hpart
  | acts h => exact h.equalBut hpart

end Command

/-! ## What a call changes -/

namespace HostCall

/-- The part of the state that a call is about. A call that runs scripts may change anything, and
one that only asks changes nothing. -/
def part? : HostCall → Option State.Part
  | .addItem item _ | .consumeItem item _ | .removeItem item => some (.amount item)
  | .setVariable name _ => some (.value name)
  | .unlockRecipe _ | .lockRecipe _ => some .unlocked
  | .setMessage _ | .clearMessage => some .message
  | .finish => some .phase
  | .dispatch command => command.part?
  | .start | .selectChoice _ | .useRecipe _ | .countItem _ | .prepareText _ | .execute _ => none

/-- The call that adds an item changes its amount alone. -/
theorem equalBut_addItem :
    s.EqualBut (.amount item) ((Play.addItem item amount : Play ε Bool) w s).state := by
  cases hknown : w.graph.hasItem item with
  | false =>
      rw [Play.addItem_of_unknown hknown]
      exact .refl s _
  | true =>
      rw [Play.addItem_of_known hknown]
      exact .add s item amount

/-- The call that consumes an item changes its amount alone. -/
theorem equalBut_consumeItem :
    s.EqualBut (.amount item) ((Play.consumeItem item amount : Play ε Bool) w s).state := by
  cases hknown : w.graph.hasItem item with
  | false =>
      rw [Play.consumeItem_of_unknown hknown]
      exact .refl s _
  | true =>
      rw [Play.consumeItem_of_known hknown]
      cases hheld : s.inventory.consume? item amount with
      | none => exact .refl s _
      | some inventory => exact .consume hheld

/-- The call that removes an item changes its amount alone. -/
theorem equalBut_removeItem :
    s.EqualBut (.amount item) ((Play.removeItem item : Play ε Bool) w s).state := by
  cases hknown : w.graph.hasItem item with
  | false =>
      rw [Play.removeItem_of_unknown hknown]
      exact .refl s _
  | true =>
      rw [Play.removeItem_of_known hknown]
      cases hheld : s.inventory.remove? item with
      | none => exact .refl s _
      | some taken => exact .amount _ fun _ hother => Inventory.amountOf_remove?_of_ne hother hheld

/-- The call that unlocks a recipe changes the unlocked recipes alone. -/
theorem equalBut_unlockRecipe :
    s.EqualBut .unlocked ((Play.unlockRecipe recipe : Play ε Bool) w s).state := by
  rw [Play.unlockRecipe_run]
  split
  · exact .unlocked _
  · exact .refl s _

/-- The call that locks a recipe changes the unlocked recipes alone. -/
theorem equalBut_lockRecipe :
    s.EqualBut .unlocked ((Play.lockRecipe recipe : Play ε Bool) w s).state := by
  rw [Play.lockRecipe_run]
  split
  · exact .unlocked _
  · exact .refl s _

/-- **A call changes the part that it is about.** -/
theorem equalBut_play {call : HostCall} {part : State.Part} (hpart : call.part? = some part) :
    s.EqualBut part (call.play w s).state := by
  -- calls without a part of their own are ruled out by `hpart`
  cases call with
  | addItem item amount => cases hpart; exact equalBut_addItem
  | consumeItem item amount => cases hpart; exact equalBut_consumeItem
  | removeItem item => cases hpart; exact equalBut_removeItem
  | setVariable name value => cases hpart; exact .insert s name value
  | unlockRecipe recipe => cases hpart; exact equalBut_unlockRecipe
  | lockRecipe recipe => cases hpart; exact equalBut_lockRecipe
  | setMessage text => cases hpart; exact .message text
  | clearMessage => cases hpart; exact .message ""
  | finish => cases hpart; exact .phase _
  | dispatch command => exact command.equalBut_perform hpart
  | start | selectChoice _ | useRecipe _ | countItem _ | prepareText _ | execute _ => nomatch hpart

end HostCall

/-! ## Two ways to one effect -/

/-- Two outcomes leave the same state behind and tell the host the same, whatever their results. -/
structure Outcome.SameEffect (first : Outcome ε α) (second : Outcome ε' β) : Prop where
  state : first.state = second.state
  events : first.trace.events = second.trace.events

namespace Play

/-- The command and the call that give an item do the same to the state. -/
theorem give_sameEffect (item : String) (amount : Amount) :
    (perform go (.give item amount) w s).SameEffect ((addItem item amount : Play ε Bool) w s) := by
  cases hknown : w.graph.hasItem item with
  | false =>
      rw [perform_of_fails (.give hknown), addItem_of_unknown hknown]
      exact ⟨rfl, rfl⟩
  | true =>
      rw [perform_of_acts (.give hknown), addItem_of_known hknown]
      exact ⟨rfl, rfl⟩

/-- The command and the call that consume an item do the same to the state. -/
theorem consume_sameEffect (item : String) (amount : Amount) :
    (perform go (.consume item amount) w s).SameEffect
      ((consumeItem item amount : Play ε Bool) w s) := by
  cases hknown : w.graph.hasItem item with
  | false =>
      rw [perform_of_fails (.consume hknown), consumeItem_of_unknown hknown]
      exact ⟨rfl, rfl⟩
  | true =>
      rw [consumeItem_of_known hknown]
      cases hheld : s.inventory.consume? item amount with
      | none =>
          rw [perform_of_acts (.spare hknown hheld)]
          exact ⟨rfl, rfl⟩
      | some inventory =>
          rw [perform_of_acts (.consume hknown hheld)]
          exact ⟨rfl, rfl⟩

/-- The command and the call that unlock a recipe do the same to the state. -/
theorem unlock_sameEffect (recipe : String) :
    (perform go (.unlock recipe) w s).SameEffect ((unlockRecipe recipe : Play ε Bool) w s) := by
  rw [unlockRecipe_run]
  cases hknown : w.graph.recipes.contains recipe with
  | false =>
      rw [perform_of_fails (.unlock hknown)]
      exact ⟨rfl, rfl⟩
  | true =>
      rw [perform_of_acts (.unlock hknown)]
      exact ⟨rfl, rfl⟩

/-- The verb looks a recipe up in the graph and the call looks it up among the unlocked ones. -/
theorem lock_sameEffect (h : ∀ name ∈ s.unlocked, w.graph.recipes.contains name = true)
    (recipe : String) :
    (perform go (.lock recipe) w s).SameEffect ((lockRecipe recipe : Play ε Bool) w s) := by
  rw [lockRecipe_run]
  cases hknown : w.graph.recipes.contains recipe with
  | false =>
      -- what is not known is not unlocked either
      have hlocked : recipe ∉ s.unlocked := fun hmem => by
        rw [h recipe hmem] at hknown
        nomatch hknown
      rw [perform_of_fails (.lock hknown), if_neg hlocked]
      exact ⟨rfl, rfl⟩
  | true =>
      rw [perform_of_acts (.lock hknown)]
      split
      · exact ⟨rfl, rfl⟩
      · rename_i hlocked
        -- there is no entry to take away
        rw [List.erase_of_not_mem hlocked]
        exact ⟨rfl, rfl⟩

end Play

/-- The call of a host that has the effect of a command. -/
def Command.counterpart? : Command → Option HostCall
  | .give item amount => some (.addItem item amount)
  | .consume item amount => some (.consumeItem item amount)
  | .unlock recipe => some (.unlockRecipe recipe)
  | .lock recipe => some (.lockRecipe recipe)
  | .message text => some (.setMessage text)
  | .exit => some .finish
  | .set _ _ _ | .jump _ | .relay _ | .next _ => none

/-- **A command and its counterpart lead to the same state, and tell the host the same.** -/
theorem Command.sameEffect_counterpart
    (h : ∀ name ∈ s.unlocked, w.graph.recipes.contains name = true) {command : Command}
    {call : HostCall} (hcall : command.counterpart? = some call) :
    (Play.dispatch command w s).SameEffect (call.play w s) := by
  have hreported {outcome : Outcome ActionError Unit} {play : Play SessionError Bool}
      (h : outcome.SameEffect (play w s)) :
      outcome.SameEffect (play.reported .answer id w s) := ⟨h.state, h.events⟩
  -- the six verbs that have a call; the reply of the call is not part of its effect
  cases command <;> cases hcall
  case message text => exact ⟨rfl, rfl⟩
  case give item amount => exact hreported (Play.give_sameEffect item amount)
  case consume item amount => exact hreported (Play.consume_sameEffect item amount)
  case unlock recipe => exact hreported (Play.unlock_sameEffect recipe)
  case lock recipe => exact hreported (Play.lock_sameEffect h recipe)
  case exit => exact ⟨rfl, rfl⟩

/-! ## What is replied -/

/-- What a command that leads nowhere finds out when it looks its name up in the graph. -/
def Command.lookUp (graph : Graph) : Command → Except ActionError Unit
  | .give item _ | .consume item _ =>
    if graph.hasItem item then .ok () else .error (.unknownItem item)
  | .unlock recipe | .lock recipe =>
    if graph.recipes.contains recipe then .ok () else .error (.unknownRecipe recipe)
  | .message _ | .exit | .set _ _ _ | .jump _ | .relay _ | .next _ => .ok ()

/-- **A command with a counterpart fails for an unknown name and for nothing else**: too little of a
known item is no error, and neither is a known recipe that is not unlocked. -/
theorem Command.perform_result {command : Command} {call : HostCall}
    (hcall : command.counterpart? = some call) :
    (Play.perform go command w s).result = command.lookUp w.graph := by
  have hperformed := Play.perform_performed go w s command
  generalize Play.perform go command w s = outcome at hperformed
  cases hperformed with
  | fails h =>
      cases h with
      | give h | consume h | unlock h | lock h =>
          rw [lookUp, h]
          rfl
      | screen _ | relay _ | set _ | nowhere _ | beyond _ _ => nomatch hcall
  -- no command that leads to a place has a counterpart
  | leads deed h => cases h <;> nomatch hcall
  | acts h =>
      cases h with
      | give h | consume h _ | spare h _ | unlock h | lock h =>
          rw [lookUp, h]
          rfl
      | message text => rfl
      | exit => rfl
      | set _ => nomatch hcall

namespace HostCall

/-- Adding is answered with whether the item is known. -/
theorem addItem_result (item : String) (amount : Amount) (w : World) (s : State) :
    ((addItem item amount).play w s).result = .ok (.answer (w.graph.hasItem item)) := by
  rw [play, playBy, Play.reported]
  cases hknown : w.graph.hasItem item with
  | false => rw [Play.addItem_of_unknown hknown]; rfl
  | true => rw [Play.addItem_of_known hknown]; rfl

/-- A host that asks for too much is told so. -/
theorem consumeItem_result (item : String) (amount : Amount) (w : World) (s : State) :
    ((consumeItem item amount).play w s).result =
      .ok (.answer (w.graph.hasItem item && amount ≤ s.inventory.amountOf item)) := by
  rw [play, playBy, Play.reported]
  cases hknown : w.graph.hasItem item with
  | false => rw [Play.consumeItem_of_unknown hknown]; rfl
  | true =>
      rw [Play.consumeItem_of_known hknown, Inventory.consume?]
      by_cases hle : amount ≤ s.inventory.amountOf item
      · rw [if_pos hle, decide_eq_true hle]; rfl
      · rw [if_neg hle, decide_eq_false hle]; rfl

/-- Unlocking is answered with whether the recipe is known. -/
theorem unlockRecipe_result (recipe : String) (w : World) (s : State) :
    ((unlockRecipe recipe).play w s).result = .ok (.answer (w.graph.recipes.contains recipe)) := by
  rw [play, playBy, Play.reported, Play.unlockRecipe_run]
  cases w.graph.recipes.contains recipe <;> rfl

/-- Locking is answered with whether the recipe was unlocked. -/
theorem lockRecipe_result (recipe : String) (w : World) (s : State) :
    ((lockRecipe recipe).play w s).result = .ok (.answer (recipe ∈ s.unlocked)) := by
  rw [play, playBy, Play.reported, Play.lockRecipe_run]
  by_cases hmem : recipe ∈ s.unlocked
  · rw [if_pos hmem, decide_eq_true hmem]; rfl
  · rw [if_neg hmem, decide_eq_false hmem]; rfl

end HostCall

/-- What is refused as an error where it is not known is answered with no there. -/
theorem exists_error_iff_answer {known : Bool} {error : ActionError}
    {result : Except ActionError Unit} {reply : Except SessionError Reply}
    (hresult : result = if known then .ok () else .error error)
    (hreply : reply = .ok (.answer known)) :
    (∃ found, result = .error found) ↔ reply = .ok (.answer false) := by
  subst hresult hreply
  cases known with
  | false => exact ⟨fun _ => rfl, fun _ => ⟨error, rfl⟩⟩
  | true =>
      constructor
      · rintro ⟨found, hfound⟩
        nomatch hfound
      · intro hreply
        nomatch hreply

/-- **Verbs and calls are two ways to one effect**, in every reachable state. A command and its
counterpart lead to the same state and tell the host the same. Giving and unlocking fail where the
call answers no; consuming fails for an unknown item only, also where the call says that too little
is held; locking fails for an unknown recipe, for which the call answers no. And whatever is done,
one part of the state has changed at most. -/
theorem verbs_and_calls_agree (w : World) (s : State)
    (h : State.Reachable w (fun _ => True) s) :
    (∀ command call, command.counterpart? = some call →
      (Play.dispatch command w s).SameEffect (call.play w s)) ∧
    (∀ item amount,
      ((∃ error, (Play.dispatch (.give item amount) w s).result = .error error) ↔
        ((HostCall.addItem item amount).play w s).result = .ok (.answer false)) ∧
      ((Play.dispatch (.consume item amount) w s).result = .error (.unknownItem item) ↔
        w.graph.hasItem item = false) ∧
      (w.graph.hasItem item = true →
        (Play.dispatch (.consume item amount) w s).result = .ok () ∧
        (s.inventory.amountOf item < amount →
          ((HostCall.consumeItem item amount).play w s).result = .ok (.answer false)))) ∧
    (∀ recipe,
      ((∃ error, (Play.dispatch (.unlock recipe) w s).result = .error error) ↔
        ((HostCall.unlockRecipe recipe).play w s).result = .ok (.answer false)) ∧
      ((Play.dispatch (.lock recipe) w s).result = .error (.unknownRecipe recipe) ↔
        w.graph.recipes.contains recipe = false) ∧
      (w.graph.recipes.contains recipe = true →
        (Play.dispatch (.lock recipe) w s).result = .ok ()) ∧
      (w.graph.recipes.contains recipe = false →
        ((HostCall.lockRecipe recipe).play w s).result = .ok (.answer false))) ∧
    (∀ command part, command.part? = some part →
      s.EqualBut part (Play.dispatch command w s).state) ∧
    ∀ (call : HostCall) part, call.part? = some part → s.EqualBut part (call.play w s).state := by
  have hknown := h.unlocked_known
  have hresult {command : Command} {call : HostCall} (hcall : command.counterpart? = some call) :
      (Play.dispatch command w s).result = command.lookUp w.graph := command.perform_result hcall
  refine ⟨fun command call hcall => command.sameEffect_counterpart hknown hcall,
    fun item amount => ⟨?_, ?_, fun hitem => ⟨?_, fun hless => ?_⟩⟩,
    fun recipe => ⟨?_, ?_, fun hrecipe => ?_, fun hrecipe => ?_⟩,
    fun command part hpart => command.equalBut_perform hpart,
    fun call part hpart => HostCall.equalBut_play hpart⟩
  · exact exists_error_iff_answer (hresult rfl) (HostCall.addItem_result item amount w s)
  · rw [hresult rfl, Command.lookUp]
    cases w.graph.hasItem item <;> simp
  · rw [hresult rfl, Command.lookUp, if_pos hitem]
  · have hnot : ¬ amount ≤ s.inventory.amountOf item := UInt32.not_le.mpr hless
    rw [HostCall.consumeItem_result, decide_eq_false hnot, Bool.and_false]
  · exact exists_error_iff_answer (hresult rfl) (HostCall.unlockRecipe_result recipe w s)
  · rw [hresult rfl, Command.lookUp]
    cases w.graph.recipes.contains recipe <;> simp
  · rw [hresult rfl, Command.lookUp, if_pos hrecipe]
  · -- an unknown recipe is never among the unlocked ones of a reachable state
    have hlocked : recipe ∉ s.unlocked := fun hmem =>
      Bool.false_ne_true (hrecipe.symm.trans (hknown recipe hmem))
    rw [HostCall.lockRecipe_result, decide_eq_false hlocked]

/-- A story with one kind of coin and nothing to make of it. -/
def Quest.purse : Quest where
  name := "purse"
  start := "street"
  items := .ofList [("coin", "Coin")]
  screens := [{ name := some "street", scripts := { once := ["give coin 3"] } }]

/-- The purse after its once script. -/
def State.withPurse : State :=
  (HostCall.start.play ⟨Quest.purse.graph, {}⟩ (.initial ⟨Quest.purse.graph, {}⟩)).state

/-- A purse of three coins. The command that consumes five passes it over, the call says no, and a
recipe that is not there cannot be locked. -/
theorem purse_verbs_and_calls_agree :
    State.Reachable ⟨Quest.purse.graph, {}⟩ (fun _ => True) .withPurse ∧
      State.withPurse.inventory.amountOf "coin" = 3 ∧
      (Play.dispatch (.consume "coin" 5) ⟨Quest.purse.graph, {}⟩ .withPurse).result = .ok () ∧
      ((HostCall.consumeItem "coin" 5).play ⟨Quest.purse.graph, {}⟩ .withPurse).result =
        .ok (.answer false) ∧
      (Play.dispatch (.lock "ring") ⟨Quest.purse.graph, {}⟩ .withPurse).result =
        .error (.unknownRecipe "ring") ∧
      State.withPurse.EqualBut (.value "debt")
        (Play.dispatch (.set "debt" .assign "1 + 1") ⟨Quest.purse.graph, {}⟩ .withPurse).state := by
  have hreachable : State.Reachable ⟨Quest.purse.graph, {}⟩ (fun _ => True) .withPurse :=
    .call .initial trivial
  have hheld : State.withPurse.inventory.amountOf "coin" = 3 := by cbv
  obtain ⟨-, hitems, hrecipes, hparts, -⟩ := verbs_and_calls_agree _ _ hreachable
  obtain ⟨-, -, hcoin⟩ := hitems "coin" 5
  obtain ⟨hspared, htold⟩ := hcoin (by decide)
  obtain ⟨-, hring, -, -⟩ := hrecipes "ring"
  refine ⟨hreachable, hheld, hspared, htold ?_, hring.mpr (by decide), hparts _ _ rfl⟩
  rw [hheld]
  decide

end Narrative
