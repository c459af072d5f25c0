import Mathlib.Data.List.Induction
import Narrative.Proofs.Holding

/-!
# Inventories as counters

An inventory keeps one counter for each item. What it answers about an item is what a counter
would answer that only hears of the operations naming this item, and its stacks are the counters
that are above zero.

* **`Inventory.Counter.perform`** — the counter: adding stops at the greatest amount, as much as is
  there can be taken away, and removing takes everything.
* **`Inventory.Sound.perform_self`**, **`Inventory.perform_other`** — what one operation does
  to the item that it names, and to the others.
* **`Inventory.Arranged`** — the stacks stand in the order in which their counts last rose from
  zero. Every operation keeps it (`Inventory.Arranged.concat`).
* **`inventory_refines_counters`** — all of this for every history of a fresh inventory.
-/

namespace Narrative

namespace Inventory

/-! ## Operations -/

/-- What can be done with an inventory. -/
inductive Operation where
  | add (item : String) (amount : Amount)
  | consume (item : String) (amount : Amount)
  | remove (item : String)
deriving DecidableEq, Repr

/-- The item that an operation names. -/
def Operation.item : Operation → String
  | add item _ | consume item _ | remove item => item

/-- What an operation answers. -/
inductive Answer where
  | done
  | consumed (yes : Bool)
  /-- The item and the amount of the stack that was taken away, if there was one. -/
  | removed (stack : Option (String × Nat))
deriving DecidableEq, Repr

/-- Performs an operation on an inventory. -/
def perform (inventory : Inventory) : Operation → Answer × Inventory
  | .add item amount => (.done, inventory.add item amount)
  | .consume item amount =>
    match inventory.consume? item amount with
    | some left => (.consumed true, left)
    | none => (.consumed false, inventory)
  | .remove item =>
    match inventory.remove? item with
    | some (stack, left) => (.removed (some (stack.item, stack.amount.toNat)), left)
    | none => (.removed none, inventory)

/-- Performs an operation on a single count, whatever item it names. -/
def Counter.perform (count : Nat) : Operation → Answer × Nat
  | .add _ amount => (.done, min (count + amount.toNat) (UInt32.size - 1))
  | .consume _ amount =>
    if amount.toNat ≤ count then (.consumed true, count - amount.toNat)
    else (.consumed false, count)
  | .remove item => (.removed (if 0 < count then some (item, count) else none), 0)

/-- Performs operations one after the other: each with its answer, and what comes of them all. -/
def runAll {σ : Type} (perform : σ → Operation → Answer × σ) (start : σ) :
    List Operation → List (Operation × Answer) × σ
  | [] => ([], start)
  | operation :: rest =>
    ((operation, (perform start operation).1) ::
        (runAll perform (perform start operation).2 rest).1,
      (runAll perform (perform start operation).2 rest).2)

/-- The last operation meets what the others left. -/
theorem runAll_concat {σ : Type} (perform : σ → Operation → Answer × σ) (history : List Operation)
    (operation : Operation) :
    ∀ start, (runAll perform start (history ++ [operation])).2 =
      (perform (runAll perform start history).2 operation).2 := by
  induction history with
  | nil => exact fun _ => rfl
  | cons first rest ih => exact fun start => ih (perform start first).2

variable {item : String} {held : List Stack} {inventory : Inventory} {operation : Operation}
  {history : List Operation} {moment : Nat}

/-! ## One operation -/

/-- Where every item has one stack, the stack of an item is all that is held of it. -/
theorem amountOf_of_mem (hsingle : (held.map Stack.item).Nodup) {stack : Stack}
    (h : stack ∈ held) : (⟨held⟩ : Inventory).amountOf stack.item = stack.amount := by
  induction held with
  | nil => nomatch h
  | cons head rest ih =>
      obtain ⟨hfirst, hrest⟩ := List.nodup_cons.mp hsingle
      rw [amountOf_cons]
      rcases List.mem_cons.mp h with rfl | h
      · rw [if_pos rfl]
      · have hother : head.item ≠ stack.item := fun heq =>
          hfirst (heq ▸ List.mem_map.mpr ⟨stack, h, rfl⟩)
        rw [if_neg hother, ih hrest h]

/-- The items with a stack are those of which something is held. -/
theorem Sound.mem_items_iff {known : String → Prop} (h : inventory.Sound known) (item : String) :
    item ∈ inventory.items ↔ 0 < (inventory.amountOf item).toNat := by
  constructor
  · intro hmem
    obtain ⟨stack, hstack, rfl⟩ := List.mem_map.mp hmem
    have hall : inventory.amountOf stack.item = stack.amount := amountOf_of_mem h.single hstack
    rw [hall]
    exact UInt32.le_iff_toNat_le.mp (h.positive stack hstack)
  · intro hpos
    by_contra hnot
    have hzero : inventory.amountOf item = 0 := amountOf_of_not_mem hnot
    rw [hzero] at hpos
    exact Nat.lt_irrefl 0 hpos

/-- Removing an item takes all of it, if it is there at all. -/
theorem remove?_eq (inventory : Inventory) (item : String) :
    inventory.remove? item =
      if item ∈ inventory.items then
        some (⟨item, inventory.amountOf item⟩,
          ⟨takeFrom item (inventory.amountOf item) inventory.held⟩)
      else none := by
  rw [remove?]
  cases hfind : inventory.held.find? (·.item == item) with
  | none =>
      have hnot : item ∉ inventory.items := by
        intro hmem
        obtain ⟨stack, hstack, hitem⟩ := List.mem_map.mp hmem
        simpa [hitem] using List.find?_eq_none.mp hfind stack hstack
      rw [if_neg hnot]
  | some stack =>
      -- the stack that is found is the one that the amount of the item is read from
      have hitem : stack.item = item := by simpa using List.find?_some hfind
      have hmem : item ∈ inventory.items :=
        hitem ▸ List.mem_map.mpr ⟨stack, List.mem_of_find?_eq_some hfind, rfl⟩
      have hamount : inventory.amountOf item = stack.amount := by rw [amountOf, hfind]
      rw [if_pos hmem, eraseP_eq_takeFrom, hamount, ← hitem]

/-- **An operation does to the item that it names what it does to a counter.** -/
theorem Sound.perform_self {known : String → Prop} (h : inventory.Sound known)
    (operation : Operation) :
    (inventory.perform operation).1 =
        (Counter.perform (inventory.amountOf operation.item).toNat operation).1 ∧
      ((inventory.perform operation).2.amountOf operation.item).toNat =
        (Counter.perform (inventory.amountOf operation.item).toNat operation).2 := by
  cases operation with
  | add item amount =>
      refine ⟨rfl, ?_⟩
      show ((inventory.add item amount).amountOf item).toNat = _
      rw [amountOf_add, if_pos rfl, Amount.toNat_addCapped]
      rfl
  | consume item amount =>
      show _ = (Counter.perform (inventory.amountOf item).toNat _).1 ∧
        _ = (Counter.perform (inventory.amountOf item).toNat _).2
      by_cases hle : amount ≤ inventory.amountOf item
      · obtain ⟨left, hleft, hamounts⟩ := amountOf_consume? h hle
        have hnat : amount.toNat ≤ (inventory.amountOf item).toNat :=
          UInt32.le_iff_toNat_le.mp hle
        have hself : left.amountOf item = inventory.amountOf item - amount := by
          rw [hamounts, if_pos rfl]
        simp only [perform, hleft, Counter.perform, if_pos hnat, Operation.item, hself,
          UInt32.toNat_sub_of_le _ _ hle, and_self]
      · have hnone : inventory.consume? item amount = none := if_neg hle
        have hnat : ¬ amount.toNat ≤ (inventory.amountOf item).toNat :=
          fun hnat => hle (UInt32.le_iff_toNat_le.mpr hnat)
        simp only [perform, hnone, Counter.perform, if_neg hnat, Operation.item, and_self]
  | remove item =>
      -- an item is held exactly if its counter is positive, since an empty stack is dropped
      show _ = (Counter.perform (inventory.amountOf item).toNat _).1 ∧
        _ = (Counter.perform (inventory.amountOf item).toNat _).2
      by_cases hmem : item ∈ inventory.items
      · have hpos := (h.mem_items_iff item).mp hmem
        have htaken := amountOf_takeFrom item (inventory.amountOf item) h.single item
        rw [if_pos ⟨rfl, hmem⟩, UInt32.sub_self] at htaken
        simp only [perform, remove?_eq, if_pos hmem, Counter.perform, if_pos hpos, Operation.item]
        exact ⟨trivial, congrArg UInt32.toNat htaken⟩
      · have hnone : ¬ 0 < (inventory.amountOf item).toNat :=
          fun hpos => hmem ((h.mem_items_iff item).mpr hpos)
        simp only [perform, remove?_eq, if_neg hmem, Counter.perform, if_neg hnone, Operation.item]
        exact ⟨trivial, Nat.eq_zero_of_not_pos hnone⟩

/-- **An operation leaves alone what it does not name.** -/
theorem perform_other (hother : operation.item ≠ item) :
    (inventory.perform operation).2.amountOf item = inventory.amountOf item := by
  cases operation with
  | add named amount =>
      change named ≠ item at hother
      show (inventory.add named amount).amountOf item = _
      rw [amountOf_add, if_neg hother]
  | consume named amount =>
      -- whether the other item is there to be taken makes no difference
      cases hheld : inventory.consume? named amount with
      | none => simp only [perform, hheld]
      | some left =>
          simp only [perform, hheld]
          exact amountOf_consume?_of_ne hother hheld
  | remove named =>
      cases hheld : inventory.remove? named with
      | none => simp only [perform, hheld]
      | some taken =>
          simp only [perform, hheld]
          exact amountOf_remove?_of_ne hother hheld

/-- Every operation keeps an inventory sound. -/
theorem Sound.perform (h : inventory.Sound fun _ => True) (operation : Operation) :
    (inventory.perform operation).2.Sound fun _ => True := by
  -- an inventory changes only when the operation goes through; otherwise it is the one before
  cases operation with
  | add item amount => exact h.add trivial amount
  | consume item amount =>
      cases hheld : inventory.consume? item amount with
      | none =>
          simp only [Inventory.perform, hheld]
          exact h
      | some left =>
          simp only [Inventory.perform, hheld]
          exact h.consume? hheld
  | remove item =>
      cases hheld : inventory.remove? item with
      | none =>
          simp only [Inventory.perform, hheld]
          exact h
      | some taken =>
          obtain ⟨stack, left⟩ := taken
          simp only [Inventory.perform, hheld]
          exact h.remove? hheld

/-- The stacks behind an operation: those that survive keep their places, and a new one goes
behind them. -/
theorem items_perform (inventory : Inventory) (operation : Operation) :
    (inventory.perform operation).2.items.Sublist inventory.items ∨
      (operation.item ∉ inventory.items ∧
        (inventory.perform operation).2.items = inventory.items ++ [operation.item]) := by
  cases operation with
  | add item amount =>
      show (inventory.add item amount).items.Sublist inventory.items ∨
        (item ∉ inventory.items ∧ (inventory.add item amount).items = inventory.items ++ [item])
      unfold Inventory.add
      split
      · exact .inl (.refl _)
      · have hitems := items_addTo item amount inventory.held
        change (⟨addTo item amount inventory.held⟩ : Inventory).items = _ at hitems
        split at hitems
        · exact .inl (hitems ▸ .refl _)
        · -- an item that was not held yet is put behind all others
          rename_i hnew
          exact .inr ⟨hnew, hitems⟩
  | consume item amount =>
      -- what is taken away leaves the items that are left in their order
      refine .inl ?_
      unfold Inventory.perform Inventory.consume?
      dsimp only
      split
      · rename_i hleft
        split at hleft
        · cases hleft
          exact items_takeFrom item amount inventory.held
        · nomatch hleft
      · exact .refl _
  | remove item =>
      refine .inl ?_
      simp only [Inventory.perform, remove?_eq]
      by_cases hmem : item ∈ inventory.items
      · rw [if_pos hmem]
        exact items_takeFrom item (inventory.amountOf item) inventory.held
      · simp only [if_neg hmem]
        exact .refl _

/-- Of a list without repetitions, the part that is in one of its sublists is this sublist. -/
theorem filter_mem_of_sublist {part whole : List String} (h : part.Sublist whole)
    (hwhole : whole.Nodup) : whole.filter (· ∈ part) = part := by
  induction h with
  | slnil => rfl
  | @cons part whole head h ih =>
      obtain ⟨hhead, hrest⟩ := List.nodup_cons.mp hwhole
      -- the item that is left out does not come back later, for the whole has no repetition
      have hnot : head ∉ part := fun hmem => hhead (h.subset hmem)
      rw [List.filter_cons_of_neg (by simpa using hnot), ih hrest]
  | @cons_cons part whole head h ih =>
      obtain ⟨hhead, hrest⟩ := List.nodup_cons.mp hwhole
      have hsame : whole.filter (· ∈ head :: part) = whole.filter (· ∈ part) := by
        refine List.filter_congr fun item hitem => ?_
        have hne : item ≠ head := fun heq => hhead (heq ▸ hitem)
        simp [hne]
      rw [List.filter_cons_of_pos (by simp), hsame, ih hrest]

/-- **No operation changes the order of the stacks that survive it.** -/
theorem survivors_perform (hsingle : inventory.items.Nodup) (operation : Operation) :
    (inventory.perform operation).2.items.filter (· ∈ inventory.items) =
      inventory.items.filter (· ∈ (inventory.perform operation).2.items) := by
  rcases inventory.items_perform operation with hsub | ⟨hnew, hitems⟩
  · rw [filter_mem_of_sublist hsub hsingle]
    exact List.filter_eq_self.mpr fun item hitem => decide_eq_true (hsub.subset hitem)
  · -- all survive, and what is new is none of them
    rw [hitems, List.filter_append, List.filter_eq_self.mpr fun item hitem => decide_eq_true hitem]
    have hself : inventory.items.filter (· ∈ inventory.items ++ [operation.item]) =
        inventory.items :=
      List.filter_eq_self.mpr fun item hitem =>
        decide_eq_true (List.mem_append_left [operation.item] hitem)
    rw [hself, List.filter_cons_of_neg (by simpa using hnew), List.filter_nil, List.append_nil]

/-! ## Many operations -/

/-- The count of an item, by the operations that name it. -/
def countOf (history : List Operation) (item : String) : Nat :=
  (runAll Counter.perform 0 (history.filter (·.item = item))).2

/-- The inventory after these operations on an empty one. -/
def after (history : List Operation) : Inventory := (runAll perform .empty history).2

/-- The last operation meets the inventory that the others left. -/
theorem after_concat (history : List Operation) (operation : Operation) :
    after (history ++ [operation]) = ((after history).perform operation).2 :=
  runAll_concat perform history operation .empty

/-- **What operations do to an item, and answer about it, are those do to a counter that name the
item.** -/
theorem Sound.runAll_item (history : List Operation) (item : String) :
    ∀ {inventory : Inventory}, inventory.Sound (fun _ => True) →
      (runAll Inventory.perform inventory history).1.filter (·.1.item = item) =
          (runAll Counter.perform (inventory.amountOf item).toNat
            (history.filter (·.item = item))).1 ∧
        ((runAll Inventory.perform inventory history).2.amountOf item).toNat =
          (runAll Counter.perform (inventory.amountOf item).toNat
            (history.filter (·.item = item))).2 := by
  induction history with
  | nil => exact fun _ => ⟨rfl, rfl⟩
  | cons operation rest ih =>
      intro inventory h
      obtain ⟨hanswers, hcount⟩ := ih (h.perform operation)
      rw [runAll]
      by_cases hitem : operation.item = item
      · -- the counter and the inventory answer alike, and go on from the same amount
        obtain ⟨hanswer, hnext⟩ := h.perform_self operation
        rw [hitem] at hanswer hnext
        rw [hnext] at hanswers hcount
        rw [List.filter_cons_of_pos (by simpa using hitem),
          List.filter_cons_of_pos (by simpa using hitem), runAll, hanswers, hanswer]
        exact ⟨rfl, hcount⟩
      · -- the counter does not hear of the operation, which leaves the item alone
        rw [perform_other hitem] at hanswers hcount
        rw [List.filter_cons_of_neg (by simpa using hitem),
          List.filter_cons_of_neg (by simpa using hitem)]
        exact ⟨hanswers, hcount⟩

/-- The amount of an item is its counter. -/
theorem amountOf_after (history : List Operation) (item : String) :
    ((after history).amountOf item).toNat = countOf history item :=
  (Sound.runAll_item history item .empty).2

/-- Every history leaves a sound inventory behind. -/
theorem sound_after (history : List Operation) : (after history).Sound fun _ => True := by
  induction history using List.reverseRecOn with
  | nil => exact .empty
  | append_singleton history operation ih =>
      rw [after_concat]
      exact ih.perform operation

/-- An item is held exactly if its counter is positive. -/
theorem mem_items_after (history : List Operation) (item : String) :
    item ∈ (after history).items ↔ 0 < countOf history item := by
  rw [(sound_after history).mem_items_iff, amountOf_after]

/-! ## The order of the stacks -/

/-- The count of an item last rose from zero at this moment: it was zero before the operation and
is above zero ever since. -/
structure LastRise (history : List Operation) (item : String) (moment : Nat) : Prop where
  lt_length : moment < history.length
  zero : countOf (history.take moment) item = 0
  since : ∀ later, moment < later → later ≤ history.length →
    0 < countOf (history.take later) item

namespace LastRise

/-- A count rises from zero for the last time at one moment. -/
theorem unique {other : Nat} (h : LastRise history item moment)
    (hother : LastRise history item other) : moment = other := by
  -- the later one of two moments would find the count above zero
  rcases Nat.lt_trichotomy moment other with hlt | heq | hlt
  · have hpos := h.since other hlt (Nat.le_of_lt hother.lt_length)
    have hzero := hother.zero
    omega
  · exact heq
  · have hpos := hother.since moment hlt (Nat.le_of_lt h.lt_length)
    have hzero := h.zero
    omega

/-- A rise stays the last one as long as the count does not come back to zero. -/
theorem concat (h : LastRise history item moment)
    (hpos : 0 < countOf (history ++ [operation]) item) :
    LastRise (history ++ [operation]) item moment where
  lt_length := by
    have hlt := h.lt_length
    rw [List.length_append]
    omega
  zero := by
    rw [List.take_append_of_le_length (Nat.le_of_lt h.lt_length)]
    exact h.zero
  -- all moments but the last one lie in the old history
  since later hlater hle := by
    rw [List.length_append, List.length_singleton] at hle
    rcases Nat.lt_or_eq_of_le hle with hlt | heq
    · rw [List.take_append_of_le_length (Nat.le_of_lt_succ hlt)]
      exact h.since later hlater (Nat.le_of_lt_succ hlt)
    · rw [heq, List.take_of_length_le (by simp)]
      exact hpos

/-- A count that was zero before the last operation rises with it. -/
theorem last (hzero : countOf history item = 0)
    (hpos : 0 < countOf (history ++ [operation]) item) :
    LastRise (history ++ [operation]) item history.length where
  lt_length := by simp
  zero := by rwa [List.take_left]
  since later hlater hle := by
    rw [List.take_of_length_le (by rw [List.length_append]; exact hlater)]
    exact hpos

end LastRise

/-- Of two items, the first one rose before the second one. -/
def RoseBefore (history : List Operation) (first second : String) : Prop :=
  ∀ moment other, LastRise history first moment → LastRise history second other → moment < other

/-- The stacks after these operations stand in the order in which their counts last rose. -/
structure Arranged (history : List Operation) : Prop where
  rose : ∀ item ∈ (after history).items, ∃ moment, LastRise history item moment
  order : (after history).items.Pairwise (RoseBefore history)

namespace Arranged

/-- What is there after one more operation has not come back to zero by it. -/
theorem kept (hitem : item ∈ (after (history ++ [operation])).items)
    (hrise : LastRise history item moment) : LastRise (history ++ [operation]) item moment :=
  hrise.concat ((mem_items_after _ item).mp hitem)

/-- Two stacks that survive an operation rose in the same order as before. -/
theorem roseBefore_concat (h : Arranged history) {first second : String}
    (hfirst : first ∈ (after history).items) (hsecond : second ∈ (after history).items)
    (hfirst' : first ∈ (after (history ++ [operation])).items)
    (hsecond' : second ∈ (after (history ++ [operation])).items)
    (hbefore : RoseBefore history first second) :
    RoseBefore (history ++ [operation]) first second := by
  intro moment other hrise hother
  obtain ⟨moment', hrise'⟩ := h.rose first hfirst
  obtain ⟨other', hother'⟩ := h.rose second hsecond
  rw [hrise.unique (kept hfirst' hrise'), hother.unique (kept hsecond' hother')]
  exact hbefore moment' other' hrise' hother'

/-- **Every operation keeps the stacks in order.** -/
theorem concat (h : Arranged history) (operation : Operation) :
    Arranged (history ++ [operation]) := by
  have hitems := (after history).items_perform operation
  rw [← after_concat] at hitems
  rcases hitems with hsub | ⟨hnew, hitems⟩
  · -- nothing new has come
    refine ⟨fun item hitem => ?_, (h.order.sublist hsub).imp_of_mem fun hfirst hsecond =>
      h.roseBefore_concat (hsub.subset hfirst) (hsub.subset hsecond) hfirst hsecond⟩
    obtain ⟨moment, hrise⟩ := h.rose item (hsub.subset hitem)
    exact ⟨moment, kept hitem hrise⟩
  · -- the item that is new rises with this operation, later than all others
    have hthere : ∀ item ∈ (after history).items,
        item ∈ (after (history ++ [operation])).items := by
      intro item hitem
      rw [hitems]
      exact List.mem_append_left _ hitem
    have hlast : LastRise (history ++ [operation]) operation.item history.length := by
      have hpos : 0 < countOf (history ++ [operation]) operation.item := by
        rw [← mem_items_after, hitems]
        exact List.mem_append_right _ List.mem_cons_self
      have hzero : ¬ 0 < countOf history operation.item :=
        fun hpos => hnew ((mem_items_after history _).mpr hpos)
      exact .last (Nat.eq_zero_of_not_pos hzero) hpos
    refine ⟨fun item hitem => ?_, ?_⟩
    · rw [hitems, List.mem_append, List.mem_singleton] at hitem
      rcases hitem with hold | rfl
      · obtain ⟨moment, hrise⟩ := h.rose item hold
        exact ⟨moment, kept (hthere item hold) hrise⟩
      · exact ⟨history.length, hlast⟩
    · rw [hitems, List.pairwise_append]
      refine ⟨h.order.imp_of_mem fun hfirst hsecond => h.roseBefore_concat hfirst hsecond
        (hthere _ hfirst) (hthere _ hsecond), List.pairwise_singleton _ _, ?_⟩
      intro first hfirst second hsecond moment other hrise hother
      obtain rfl := List.mem_singleton.mp hsecond
      obtain ⟨moment', hrise'⟩ := h.rose first hfirst
      rw [hrise.unique (kept (hthere first hfirst) hrise'), hother.unique hlast]
      exact hrise'.lt_length

end Arranged

/-- Every history leaves the items in the order in which they last rose. -/
theorem arranged_after (history : List Operation) : Arranged history := by
  induction history using List.reverseRecOn with
  | nil => exact ⟨fun _ hitem => (nomatch hitem), .nil⟩
  | append_singleton history operation ih => exact ih.concat operation

end Inventory

open Inventory in
/-- **An inventory refines a map of independent counters.** Whatever is done with a fresh
inventory, each item is held and answered about as by a counter of its own, which hears of the
operations that name the item and of nothing else. There is one stack for each counter above zero,
with its count, in the order in which the counts last rose from zero, and no operation changes the
order of the stacks that survive it. -/
theorem inventory_refines_counters (history : List Operation) :
    (∀ item, ((after history).amountOf item).toNat = countOf history item ∧
      (runAll perform .empty history).1.filter (·.1.item = item) =
        (runAll Counter.perform 0 (history.filter (·.item = item))).1) ∧
    (after history).items.Nodup ∧
    (∀ item, item ∈ (after history).items ↔ 0 < countOf history item) ∧
    (∀ stack ∈ (after history).held, stack.amount.toNat = countOf history stack.item) ∧
    (∀ item ∈ (after history).items, ∃ moment, LastRise history item moment) ∧
    (after history).items.Pairwise (RoseBefore history) ∧
    ∀ operation, (after (history ++ [operation])).items.filter (· ∈ (after history).items) =
      (after history).items.filter (· ∈ (after (history ++ [operation])).items) := by
  have hsound := sound_after history
  have harranged := arranged_after history
  refine ⟨fun item => ⟨amountOf_after history item, (Sound.runAll_item history item .empty).1⟩,
    hsound.single, mem_items_after history, fun stack hstack => ?_, harranged.rose,
    harranged.order, fun operation => ?_⟩
  · -- the stack that holds an item has all of it
    have hall : (after history).amountOf stack.item = stack.amount :=
      amountOf_of_mem hsound.single hstack
    rw [← amountOf_after, hall]
  · rw [after_concat]
    exact survivors_perform hsound.single operation

open Inventory in
/-- Stones that were given away and found again stand behind the stick. -/
theorem stones_refine_counters :
    let history : List Operation :=
      [.add "stone" 1, .add "stick" 1, .consume "stone" 1, .add "stone" 2]
    (after history).items = ["stick", "stone"] ∧
      (⟨"stone", 2⟩ : Stack) ∈ (after history).held ∧ countOf history "stone" = 2 ∧
      (∃ moment, LastRise history "stone" moment) ∧ RoseBefore history "stick" "stone" := by
  intro history
  have hitems : (after history).items = ["stick", "stone"] := by decide +kernel
  have hheld : (⟨"stone", 2⟩ : Stack) ∈ (after history).held := by decide +kernel
  obtain ⟨-, -, -, hcounts, hrose, horder, -⟩ := inventory_refines_counters history
  rw [hitems] at hrose horder
  obtain ⟨hbefore, -⟩ := List.pairwise_cons.mp horder
  exact ⟨hitems, hheld, (hcounts _ hheld).symm, hrose "stone" (by simp), hbefore "stone" (by simp)⟩

end Narrative
