import Narrative.Recipe.Basic

/-!
# Inventories in order

An inventory in order has one stack for each item that it holds, none of them empty, and only of
known items. Every operation keeps it so.

* **`items_addTo`, `items_takeFrom`** — what the operations do to the list of held items: nothing
  moves, a new item goes behind the others, and only the item that is taken away can leave.
* **`Inventory.Sound`** — inventories in order, with one lemma for each operation.
-/

namespace Narrative

/-! ## Amounts -/

/-- The sum of two amounts stops at the greatest one. -/
theorem Amount.toNat_addCapped (a b : Amount) :
    (a.addCapped b).toNat = min (a.toNat + b.toNat) (UInt32.size - 1) := by
  unfold addCapped
  have hsize : UInt32.size = 2 ^ 32 := rfl
  split
  · -- the sum fits and does not wrap around
    rename_i hroom
    rw [UInt32.toNat_add, Nat.mod_eq_of_lt hroom]
    omega
  · show (UInt32.size - 1) % 2 ^ 32 = _
    omega

/-- A sum is no less than what was added. -/
theorem Amount.le_addCapped (a b : Amount) : b ≤ a.addCapped b := by
  rw [UInt32.le_iff_toNat_le, toNat_addCapped]
  have hlt : b.toNat < 2 ^ 32 := b.toNat_lt
  have hsize : UInt32.size = 2 ^ 32 := rfl
  omega

/-- An amount that is not zero is positive. -/
theorem Amount.one_le_of_ne_zero {a : Amount} (h : a ≠ 0) : 1 ≤ a := by
  rw [UInt32.le_iff_toNat_le]
  have hpos : a.toNat ≠ 0 := fun hzero => h (UInt32.toNat_inj.mp hzero)
  show 1 ≤ a.toNat
  omega

namespace Inventory

variable {item : String} {amount : Amount} {held : List Stack} {stack : Stack}

/-- The held items, in the order in which they were acquired. -/
def items (inventory : Inventory) : List String := inventory.held.map Stack.item

/-! ## Stacks -/

/-- Adding keeps every stack at its place and puts a new one behind the others. -/
theorem items_addTo (item : String) (amount : Amount) (held : List Stack) :
    (addTo item amount held).map Stack.item =
      if item ∈ held.map Stack.item then held.map Stack.item
      else held.map Stack.item ++ [item] := by
  induction held with
  | nil => rfl
  | cons head rest ih =>
      rw [addTo, List.map_cons]
      by_cases heq : head.item = item
      · rw [if_pos heq, heq, if_pos List.mem_cons_self, List.map_cons]
      · rw [if_neg heq, List.map_cons, ih]
        -- the item is looked for in the rest, which the first stack does not change
        by_cases hmem : item ∈ rest.map Stack.item
        · rw [if_pos hmem, if_pos (List.mem_cons_of_mem _ hmem)]
        · have hnot : item ∉ head.item :: rest.map Stack.item := by
            rw [List.mem_cons]
            exact not_or.mpr ⟨fun h => heq h.symm, hmem⟩
          rw [if_neg hmem, if_neg hnot, List.cons_append]

/-- Adding keeps the items apart: one that goes behind the others is not one of them. -/
theorem nodup_addTo (item : String) (amount : Amount) (h : (held.map Stack.item).Nodup) :
    ((addTo item amount held).map Stack.item).Nodup := by
  rw [items_addTo]
  split
  · exact h
  · rename_i hnew
    refine List.nodup_append.mpr ⟨h, List.nodup_cons.mpr ⟨List.not_mem_nil, .nil⟩, ?_⟩
    rintro other hother _ hitem rfl
    exact hnew (List.mem_singleton.mp hitem ▸ hother)

/-- Adding changes one stack, which then has at least what was added. -/
theorem mem_addTo (h : stack ∈ addTo item amount held) : stack ∈ held ∨ amount ≤ stack.amount := by
  induction held with
  | nil =>
      rw [addTo, List.mem_singleton] at h
      subst h
      exact .inr (UInt32.le_refl amount)
  | cons head rest ih =>
      rw [addTo] at h
      split at h
      · -- the capped sum is no less than the amount that was added
        rcases List.mem_cons.mp h with rfl | h
        · exact .inr (Amount.le_addCapped head.amount amount)
        · exact .inl (List.mem_cons_of_mem _ h)
      · rcases List.mem_cons.mp h with rfl | h
        · exact .inl List.mem_cons_self
        · exact (ih h).imp_left (List.mem_cons_of_mem _)

/-- Taking away keeps every other stack at its place. -/
theorem items_takeFrom (item : String) (amount : Amount) (held : List Stack) :
    ((takeFrom item amount held).map Stack.item).Sublist (held.map Stack.item) := by
  induction held with
  | nil => exact .slnil
  | cons head rest ih =>
      rw [takeFrom, List.map_cons]
      split
      · rename_i heq
        split
        · exact .cons _ (.refl _)
        · subst heq
          exact .refl _
      · rw [List.map_cons]
        exact ih.cons_cons _

/-- Taking away changes one stack, and leaves no empty one behind. -/
theorem mem_takeFrom (h : stack ∈ takeFrom item amount held) :
    stack ∈ held ∨ 1 ≤ stack.amount := by
  induction held with
  | nil => nomatch h
  | cons head rest ih =>
      rw [takeFrom] at h
      split at h
      · split at h
        · exact .inl (List.mem_cons_of_mem _ h)
        · -- a stack that is kept is not empty
          rename_i hleft
          rcases List.mem_cons.mp h with rfl | h
          · exact .inr (Amount.one_le_of_ne_zero hleft)
          · exact .inl (List.mem_cons_of_mem _ h)
      · rcases List.mem_cons.mp h with rfl | h
        · exact .inl List.mem_cons_self
        · exact (ih h).imp_left (List.mem_cons_of_mem _)

/-! ## The invariant -/

/-- One stack for each held item, none of them empty, and only of known items. -/
structure Sound (known : String → Prop) (inventory : Inventory) : Prop where
  single : inventory.items.Nodup
  known : ∀ item ∈ inventory.items, known item
  positive : ∀ stack ∈ inventory.held, 1 ≤ stack.amount

variable {known : String → Prop} {inventory inventory' : Inventory}

/-- An inventory begins sound. -/
theorem Sound.empty : Sound known .empty where
  single := .nil
  known _ h := nomatch h
  positive _ h := nomatch h

/-- Adding a known item keeps an inventory sound. -/
theorem Sound.add (h : Sound known inventory) (hknown : known item) (amount : Amount) :
    Sound known (inventory.add item amount) := by
  unfold Inventory.add
  split
  · exact h
  · -- adding zero was ruled out, so a new stack is positive
    rename_i hsome
    have hitems := items_addTo item amount inventory.held
    refine ⟨nodup_addTo item amount h.single, fun other hother => ?_, fun stack hstack => ?_⟩
    · change other ∈ (addTo item amount inventory.held).map Stack.item at hother
      rw [hitems] at hother
      split at hother
      · exact h.known other hother
      · rcases List.mem_append.mp hother with hother | hitem
        · exact h.known other hother
        · exact List.mem_singleton.mp hitem ▸ hknown
    · rcases mem_addTo hstack with hstack | hle
      · exact h.positive stack hstack
      · exact UInt32.le_trans (Amount.one_le_of_ne_zero hsome) hle

/-- What keeps some of the stacks, in order, or leaves new ones that are not empty. -/
theorem Sound.of_sublist (h : Sound known inventory)
    (hitems : inventory'.items.Sublist inventory.items)
    (hpositive : ∀ stack ∈ inventory'.held, 1 ≤ stack.amount) : Sound known inventory' where
  single := hitems.nodup h.single
  known item hitem := h.known item (hitems.subset hitem)
  positive := hpositive

/-- Taking from an inventory keeps it sound. -/
theorem Sound.consume? (h : Sound known inventory)
    (hheld : inventory.consume? item amount = some inventory') : Sound known inventory' := by
  unfold Inventory.consume? at hheld
  split at hheld
  · cases hheld
    exact h.of_sublist (items_takeFrom item amount inventory.held) fun stack hstack =>
      (mem_takeFrom hstack).elim (h.positive stack) id
  · nomatch hheld

/-- Removing an item keeps an inventory sound. -/
theorem Sound.remove? {stack : Stack} (h : Sound known inventory)
    (hheld : inventory.remove? item = some (stack, inventory')) : Sound known inventory' := by
  unfold Inventory.remove? at hheld
  split at hheld
  · cases hheld
    have hsub : (inventory.held.eraseP (·.item == item)).Sublist inventory.held :=
      List.eraseP_sublist
    exact h.of_sublist (hsub.map Stack.item) fun stack hstack =>
      h.positive stack (hsub.subset hstack)
  · nomatch hheld

/-! ## Crafting -/

/-- Takes the amounts of the stacks away one after the other, each if it is held. -/
def consumeAll (inventory : Inventory) (listed : List Stack) : Inventory :=
  listed.foldl (fun inv stack => (inv.consume? stack.item stack.amount).getD inv) inventory

/-- Adds the stacks one after the other. -/
def addAll (inventory : Inventory) (listed : List Stack) : Inventory :=
  listed.foldl (fun inv stack => inv.add stack.item stack.amount) inventory

/-- Crafting takes the ingredients and then adds the results. -/
theorem craft_eq (recipe : Recipe) (inventory : Inventory) :
    recipe.craft inventory =
      (inventory.consumeAll recipe.ingredients).addAll recipe.results := rfl

/-- Taking a list of stacks keeps an inventory sound, whichever of them are covered. -/
theorem Sound.consumeAll (listed : List Stack) :
    ∀ {inventory}, Sound known inventory → Sound known (inventory.consumeAll listed) := by
  induction listed with
  | nil => exact fun h => h
  | cons stack rest ih =>
      intro inventory h
      -- what is not held in full is not taken at all
      show Sound known
        (((inventory.consume? stack.item stack.amount).getD inventory).consumeAll rest)
      refine ih ?_
      cases hheld : inventory.consume? stack.item stack.amount with
      | none => exact h
      | some left => exact h.consume? hheld

/-- Adding a list of known items keeps an inventory sound. -/
theorem Sound.addAll (listed : List Stack) :
    ∀ {inventory}, Sound known inventory → (∀ stack ∈ listed, known stack.item) →
      Sound known (inventory.addAll listed) := by
  induction listed with
  | nil => exact fun h _ => h
  | cons stack rest ih =>
      intro inventory h hknown
      exact ih (h.add (hknown stack List.mem_cons_self) stack.amount) fun other hother =>
        hknown other (List.mem_cons_of_mem _ hother)

/-- Crafting a recipe of known results keeps an inventory sound. -/
theorem Sound.craft {recipe : Recipe} (h : Sound known inventory)
    (hresults : ∀ stack ∈ recipe.results, known stack.item) :
    Sound known (recipe.craft inventory) := by
  rw [craft_eq]
  exact (h.consumeAll recipe.ingredients).addAll recipe.results hresults

end Inventory

end Narrative
