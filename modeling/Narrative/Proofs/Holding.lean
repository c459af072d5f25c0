import Narrative.Proofs.Inventory

/-!
# How much is held

What the operations on inventories do to `amountOf`. Each of them changes the amount of one item
only, so a list of stacks that is taken or added one after the other changes every amount by what
the list has of the item, `listedOf`, over all its stacks.

* **`Inventory.amountOf_consumeAll`**, **`Inventory.amountOf_addAll`** — a whole list at once.
  Stacks are taken in turn, each in full or not at all (`leftOf`), and all are added.
* **`Recipe.canCraft_iff`** — a recipe that lists no ingredient twice can be crafted where as much
  as it lists is held.
* **`Recipe.amountOf_craft_eq`**, **`Recipe.amountOf_craft`** — what a craft comes to for every
  single item, in general and where all that is listed is held.
-/

namespace Narrative

/-! ## Amounts -/

namespace Amount

/-- No amount is above the greatest one. -/
theorem toNat_le (a : Amount) : a.toNat ≤ UInt32.size - 1 := Nat.le_sub_one_of_lt a.toNat_lt

/-- Nothing and an amount make up that amount. -/
theorem zero_addCapped (a : Amount) : Amount.addCapped 0 a = a := by
  refine UInt32.toNat_inj.mp ?_
  have hle := a.toNat_le
  rw [toNat_addCapped]
  show min (0 + a.toNat) (UInt32.size - 1) = a.toNat
  omega

/-- Adding nothing changes no amount. -/
theorem addCapped_zero (a : Amount) : a.addCapped 0 = a := by
  refine UInt32.toNat_inj.mp ?_
  have hle := a.toNat_le
  rw [toNat_addCapped]
  show min (a.toNat + 0) (UInt32.size - 1) = a.toNat
  omega

end Amount

/-! ## What a list has of an item -/

/-- How much a list has of an item, over all its stacks. -/
def listedOf : List Stack → String → Nat
  | [], _ => 0
  | stack :: rest, item =>
    (if stack.item = item then stack.amount.toNat else 0) + listedOf rest item

/-- An empty list has nothing of an item. -/
@[simp] theorem listedOf_nil (item : String) : listedOf [] item = 0 := rfl

/-- A list has what its first stack has of an item and what the others have. -/
@[simp] theorem listedOf_cons (stack : Stack) (rest : List Stack) (item : String) :
    listedOf (stack :: rest) item =
      (if stack.item = item then stack.amount.toNat else 0) + listedOf rest item := rfl

/-- A list without a stack of an item has nothing of it. -/
theorem listedOf_of_not_mem {listed : List Stack} {item : String}
    (h : item ∉ listed.map Stack.item) : listedOf listed item = 0 := by
  induction listed with
  | nil => rfl
  | cons stack rest ih =>
      rw [List.map_cons, List.mem_cons, not_or] at h
      rw [listedOf_cons, if_neg (Ne.symm h.1), ih h.2]

/-- In a list without repetitions an item has the amount of its stack. -/
theorem listedOf_of_mem {listed : List Stack} (hsingle : (listed.map Stack.item).Nodup)
    {stack : Stack} (h : stack ∈ listed) : listedOf listed stack.item = stack.amount.toNat := by
  induction listed with
  | nil => nomatch h
  | cons head rest ih =>
      obtain ⟨hfirst, hrest⟩ := List.nodup_cons.mp hsingle
      rw [listedOf_cons]
      rcases List.mem_cons.mp h with rfl | h
      · rw [if_pos rfl, listedOf_of_not_mem hfirst, Nat.add_zero]
      · have hother : head.item ≠ stack.item := fun heq =>
          hfirst (heq ▸ List.mem_map.mpr ⟨stack, h, rfl⟩)
        rw [if_neg hother, ih hrest h, Nat.zero_add]

/-- What is left of a count of an item when stacks are taken in turn, each in full or not at
all. -/
def leftOf (item : String) : Nat → List Stack → Nat
  | count, [] => count
  | count, stack :: rest =>
    if stack.item = item ∧ stack.amount.toNat ≤ count then
      leftOf item (count - stack.amount.toNat) rest
    else leftOf item count rest

/-- Stacks that are covered together are all taken. -/
theorem leftOf_add_listedOf {item : String} (listed : List Stack) :
    ∀ {count : Nat}, listedOf listed item ≤ count →
      leftOf item count listed + listedOf listed item = count := by
  induction listed with
  | nil => exact fun _ => Nat.add_zero _
  | cons stack rest ih =>
      intro count hle
      rw [listedOf_cons] at hle ⊢
      rw [leftOf]
      by_cases hitem : stack.item = item
      · rw [if_pos hitem] at hle ⊢
        -- all stacks together are covered, so this one is, and the others are by what it leaves
        have hfirst : stack.amount.toNat ≤ count := by omega
        have hrest : listedOf rest item ≤ count - stack.amount.toNat := by omega
        have hleft := ih hrest
        rw [if_pos ⟨hitem, hfirst⟩]
        omega
      · rw [if_neg hitem, Nat.zero_add] at hle ⊢
        rw [if_neg fun hboth => hitem hboth.1]
        exact ih hle

namespace Inventory

variable {known : String → Prop} {item : String} {amount : Amount} {held listed : List Stack}
  {inventory inventory' : Inventory}

/-! ## One stack -/

/-- An empty inventory holds nothing. -/
@[simp] theorem amountOf_nil (item : String) : (⟨[]⟩ : Inventory).amountOf item = 0 := rfl

/-- The first stack of an item is the one that counts. -/
@[simp] theorem amountOf_cons (stack : Stack) (held : List Stack) (item : String) :
    (⟨stack :: held⟩ : Inventory).amountOf item =
      if stack.item = item then stack.amount else (⟨held⟩ : Inventory).amountOf item := by
  unfold amountOf
  dsimp only
  rw [List.find?_cons]
  by_cases heq : stack.item = item
  · simp [heq]
  · rw [beq_false_of_ne heq, if_neg heq]

/-- Nothing is held of an item without a stack. -/
theorem amountOf_of_not_mem (h : item ∉ held.map Stack.item) :
    (⟨held⟩ : Inventory).amountOf item = 0 := by
  induction held with
  | nil => rfl
  | cons stack rest ih =>
      rw [List.map_cons, List.mem_cons, not_or] at h
      rw [amountOf_cons, if_neg (Ne.symm h.1), ih h.2]

/-- Adding to stacks adds to the item, up to the greatest amount, and to no other one. -/
theorem amountOf_addTo (item : String) (amount : Amount) (held : List Stack) (other : String) :
    (⟨addTo item amount held⟩ : Inventory).amountOf other =
      if item = other then ((⟨held⟩ : Inventory).amountOf item).addCapped amount
      else (⟨held⟩ : Inventory).amountOf other := by
  induction held with
  | nil => rw [addTo, amountOf_cons, amountOf_nil, amountOf_nil, Amount.zero_addCapped]
  | cons stack rest ih =>
      rw [addTo]
      by_cases hown : stack.item = item
      · subst hown
        simp only [if_true, amountOf_cons]
        split <;> rfl
      · by_cases hother : stack.item = other
        · -- the stack that is asked for is passed over
          subst hother
          simp only [hown, if_false, amountOf_cons, if_true, if_neg (Ne.symm hown)]
        · simp only [hown, hother, if_false, amountOf_cons, ih]

/-- Taking away as much as is held at most takes it off the one stack of the item. -/
theorem amountOf_takeFrom (item : String) (amount : Amount)
    (hsingle : (held.map Stack.item).Nodup) (other : String) :
    (⟨takeFrom item amount held⟩ : Inventory).amountOf other =
      if item = other ∧ item ∈ held.map Stack.item then
        (⟨held⟩ : Inventory).amountOf item - amount
      else (⟨held⟩ : Inventory).amountOf other := by
  induction held with
  | nil => simp [takeFrom]
  | cons stack rest ih =>
      obtain ⟨hfirst, hrest⟩ := List.nodup_cons.mp hsingle
      rw [takeFrom]
      by_cases hown : stack.item = item
      · subst hown
        have hmem : stack.item ∈ (stack :: rest).map Stack.item := List.mem_cons_self
        simp only [if_true, hmem, and_true, amountOf_cons]
        by_cases hother : stack.item = other
        · subst hother
          split
          · -- nothing is left, and no other stack holds the item
            rename_i hnone
            rw [amountOf_of_not_mem hfirst, if_pos rfl, hnone]
          · simp
        · split <;> simp [hother]
      · have hmem : item ∈ (stack :: rest).map Stack.item ↔ item ∈ rest.map Stack.item := by
          simp [Ne.symm hown]
        simp only [hown, if_false, amountOf_cons, ih hrest, hmem]
        by_cases hother : stack.item = other
        · subst hother
          simp [Ne.symm hown]
        · simp [hother]

/-- What stands on the stacks of other items is not touched, however often they occur. -/
theorem amountOf_takeFrom_of_ne {other : String} (h : item ≠ other) (amount : Amount)
    (held : List Stack) :
    (⟨takeFrom item amount held⟩ : Inventory).amountOf other =
      (⟨held⟩ : Inventory).amountOf other := by
  induction held with
  | nil => rfl
  | cons stack rest ih =>
      rw [takeFrom, amountOf_cons]
      by_cases hown : stack.item = item
      · have hother : stack.item ≠ other := fun heq => h (hown.symm.trans heq)
        -- the stack of the item is not the one that is looked for, whether it is emptied or not
        rw [if_pos hown, if_neg hother]
        split
        · rfl
        · rw [amountOf_cons, if_neg h]
      · rw [if_neg hown, amountOf_cons, ih]

/-- Taking a whole stack away is taking away all that is held of its item. -/
theorem eraseP_eq_takeFrom (item : String) (held : List Stack) :
    held.eraseP (·.item == item) = takeFrom item ((⟨held⟩ : Inventory).amountOf item) held := by
  induction held with
  | nil => rfl
  | cons head rest ih =>
      rw [List.eraseP_cons, takeFrom, amountOf_cons]
      by_cases heq : head.item = item
      · simp [heq]
      · rw [beq_false_of_ne heq, cond_false, if_neg heq, if_neg heq, ih]

/-- Taking from one item leaves the others alone. -/
theorem amountOf_consume?_of_ne {other : String} (h : item ≠ other)
    (hheld : inventory.consume? item amount = some inventory') :
    inventory'.amountOf other = inventory.amountOf other := by
  rw [consume?] at hheld
  split at hheld
  · cases hheld
    exact amountOf_takeFrom_of_ne h amount inventory.held
  · nomatch hheld

/-- Removing one item leaves the others alone. -/
theorem amountOf_remove?_of_ne {other : String} (h : item ≠ other) {stack : Stack}
    (hheld : inventory.remove? item = some (stack, inventory')) :
    inventory'.amountOf other = inventory.amountOf other := by
  rw [remove?] at hheld
  split at hheld
  · cases hheld
    rw [eraseP_eq_takeFrom]
    exact amountOf_takeFrom_of_ne h _ inventory.held
  · nomatch hheld

/-- Adding adds to the item, up to the greatest amount, and to no other one. -/
theorem amountOf_add (inventory : Inventory) (item : String) (amount : Amount) (other : String) :
    (inventory.add item amount).amountOf other =
      if item = other then (inventory.amountOf item).addCapped amount
      else inventory.amountOf other := by
  unfold add
  split
  · rename_i hzero
    rw [hzero, Amount.addCapped_zero]
    split
    · rename_i heq
      rw [heq]
    · rfl
  · exact amountOf_addTo item amount inventory.held other

/-- What is held in its amount can be taken away, and then there is that much less of it. -/
theorem amountOf_consume? (h : Sound known inventory) (hle : amount ≤ inventory.amountOf item) :
    ∃ left, inventory.consume? item amount = some left ∧
      ∀ other, left.amountOf other =
        if item = other then inventory.amountOf item - amount else inventory.amountOf other := by
  refine ⟨⟨takeFrom item amount inventory.held⟩, if_pos hle, fun other => ?_⟩
  rw [amountOf_takeFrom item amount h.single other]
  by_cases hmem : item ∈ inventory.held.map Stack.item
  · simp only [hmem, and_true]
  · -- of what is not held, nothing is taken
    have hzero : inventory.amountOf item = 0 := amountOf_of_not_mem hmem
    rw [hzero, UInt32.le_zero_iff] at hle
    rw [hzero, hle]
    simp only [hmem, and_false, if_false]
    split
    · rename_i heq
      rw [← heq]
      exact hzero
    · rfl

/-! ## A list of stacks -/

/-- **Stacks are taken in turn, each in full or not at all.** What happens to an item depends on
its own stacks only. -/
theorem amountOf_consumeAll (listed : List Stack) (item : String) :
    ∀ {inventory : Inventory}, inventory.Sound known →
      ((inventory.consumeAll listed).amountOf item).toNat =
        leftOf item (inventory.amountOf item).toNat listed := by
  induction listed with
  | nil => exact fun _ => rfl
  | cons stack rest ih =>
      intro inventory h
      show ((((inventory.consume? stack.item stack.amount).getD inventory).consumeAll
        rest).amountOf item).toNat = _
      rw [leftOf]
      by_cases hle : stack.amount ≤ inventory.amountOf stack.item
      · obtain ⟨left, hleft, hamounts⟩ := amountOf_consume? h hle
        rw [hleft, Option.getD_some, ih (h.consume? hleft), hamounts]
        by_cases hitem : stack.item = item
        · -- the amount covers the stack, so the subtraction does not wrap
          rw [if_pos hitem, UInt32.toNat_sub_of_le _ _ hle, ← hitem,
            if_pos ⟨rfl, UInt32.le_iff_toNat_le.mp hle⟩]
        · rw [if_neg hitem, if_neg fun hboth => hitem hboth.1]
      · -- the stack is left out
        have hnone : inventory.consume? stack.item stack.amount = none := if_neg hle
        have hnot : ¬ (stack.item = item ∧
            stack.amount.toNat ≤ (inventory.amountOf item).toNat) := by
          rintro ⟨rfl, hnat⟩
          exact hle (UInt32.le_iff_toNat_le.mpr hnat)
        rw [hnone, Option.getD_none, ih h, if_neg hnot]

/-- **What is added is added in full, up to the greatest amount.** -/
theorem amountOf_addAll (listed : List Stack) :
    ∀ (inventory : Inventory) (item : String),
      ((inventory.addAll listed).amountOf item).toNat =
        min ((inventory.amountOf item).toNat + listedOf listed item) (UInt32.size - 1) := by
  induction listed with
  | nil =>
      intro inventory item
      have hle := (inventory.amountOf item).toNat_le
      show (inventory.amountOf item).toNat = _
      rw [listedOf_nil]
      omega
  | cons stack rest ih =>
      intro inventory item
      show (((inventory.add stack.item stack.amount).addAll rest).amountOf item).toNat = _
      rw [ih, amountOf_add, listedOf_cons]
      split
      · -- an amount that is at the greatest one stays there
        rename_i heq
        rw [Amount.toNat_addCapped, heq]
        omega
      · rw [Nat.zero_add]

end Inventory

/-! ## A recipe -/

namespace Recipe

variable {recipe : Recipe} {inventory : Inventory}

/-- **A recipe can be crafted where as much as it lists is held**, if it lists nothing twice. -/
theorem canCraft_iff (hsingle : (recipe.ingredients.map Stack.item).Nodup) :
    recipe.canCraft inventory = true ↔
      ∀ item, listedOf recipe.ingredients item ≤ (inventory.amountOf item).toNat := by
  rw [canCraft, List.all_eq_true]
  constructor
  · intro h item
    -- what is not listed needs nothing; what is listed is listed once, so one stack is all it needs
    by_cases hmem : item ∈ recipe.ingredients.map Stack.item
    · obtain ⟨stack, hstack, rfl⟩ := List.mem_map.mp hmem
      have hle := UInt32.le_iff_toNat_le.mp (of_decide_eq_true (h stack hstack))
      rwa [listedOf_of_mem hsingle hstack]
    · rw [listedOf_of_not_mem hmem]
      exact Nat.zero_le _
  · intro h stack hstack
    have hle := h stack.item
    rw [listedOf_of_mem hsingle hstack] at hle
    exact decide_eq_true (UInt32.le_iff_toNat_le.mpr hle)

/-- **A craft takes what it can, and adds all results.** -/
theorem amountOf_craft_eq {known : String → Prop} (h : inventory.Sound known) (item : String) :
    ((recipe.craft inventory).amountOf item).toNat =
      min (leftOf item (inventory.amountOf item).toNat recipe.ingredients +
        listedOf recipe.results item) (UInt32.size - 1) := by
  rw [Inventory.craft_eq, Inventory.amountOf_addAll, Inventory.amountOf_consumeAll _ _ h]

/-- **A craft swaps exactly what is listed** where all that is listed is held. -/
theorem amountOf_craft {known : String → Prop} (h : inventory.Sound known)
    (hheld : ∀ item, listedOf recipe.ingredients item ≤ (inventory.amountOf item).toNat)
    (item : String) :
    ((recipe.craft inventory).amountOf item).toNat =
      min ((inventory.amountOf item).toNat - listedOf recipe.ingredients item +
        listedOf recipe.results item) (UInt32.size - 1) := by
  have hleft := leftOf_add_listedOf recipe.ingredients (hheld item)
  rw [amountOf_craft_eq h]
  omega

end Recipe

end Narrative
