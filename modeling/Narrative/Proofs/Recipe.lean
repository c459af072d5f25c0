import Narrative.Proofs.Holding

/-!
# Crafting by any recipe

A recipe may list an item in several stacks. Whether it can be crafted is asked of each stack on
its own, against all that is held; a craft takes the stacks in turn, and leaves out one that is not
held in full by then. So a recipe can pass for one that can be crafted although less is held than
it lists, and its craft then takes only some of its ingredients.

* **`Recipe.exact_iff`** — a craft is exact where all that the recipe lists is held.
* **`craft_is_exact_where_covered`** — how a craft that is possible differs from an exact one.
* **`craft_of_two_pairs_takes_one`** — a recipe that can be crafted, and whose craft is not exact.
-/

namespace Narrative

variable {known : String → Prop} {inventory : Inventory} {recipe : Recipe} {listed : List Stack}

/-! ## Exact crafts -/

/-- A craft takes all that the recipe lists as ingredients from every item, and then adds all that
it lists as results, up to the greatest amount. -/
structure Recipe.Exact (recipe : Recipe) (inventory : Inventory) : Prop where
  taken : ∀ item, ((inventory.consumeAll recipe.ingredients).amountOf item).toNat +
    listedOf recipe.ingredients item = (inventory.amountOf item).toNat
  added : ∀ item, ((recipe.craft inventory).amountOf item).toNat =
    min (((inventory.consumeAll recipe.ingredients).amountOf item).toNat +
      listedOf recipe.results item) (UInt32.size - 1)

namespace Recipe

/-- **A craft is exact where all that the recipe lists is held.** -/
theorem exact_iff (h : inventory.Sound known) :
    recipe.Exact inventory ↔
      ∀ item, listedOf recipe.ingredients item ≤ (inventory.amountOf item).toNat := by
  constructor
  · intro hexact item
    have htaken := hexact.taken item
    omega
  · intro hheld
    refine ⟨fun item => ?_, fun item => ?_⟩
    · rw [Inventory.amountOf_consumeAll _ _ h]
      exact leftOf_add_listedOf _ (hheld item)
    · rw [amountOf_craft_eq h, Inventory.amountOf_consumeAll _ _ h]

/-- A list has at least the amount of each of its stacks. -/
theorem toNat_amount_le_listedOf {stack : Stack} (h : stack ∈ listed) :
    stack.amount.toNat ≤ listedOf listed stack.item := by
  induction listed with
  | nil => nomatch h
  | cons head rest ih =>
      rw [listedOf_cons]
      rcases List.mem_cons.mp h with rfl | h
      · rw [if_pos rfl]
        omega
      · have hrest := ih h
        omega

/-- What is covered as a whole is covered stack by stack. -/
theorem canCraft_of_covered
    (h : ∀ item, listedOf recipe.ingredients item ≤ (inventory.amountOf item).toNat) :
    recipe.canCraft inventory = true := by
  rw [canCraft, List.all_eq_true]
  intro stack hstack
  have hle := Nat.le_trans (toNat_amount_le_listedOf hstack) (h stack.item)
  exact decide_eq_true (UInt32.le_iff_toNat_le.mpr hle)

end Recipe

/-- **A craft is exact exactly where all that the recipe lists is held.** There the recipe can be
crafted, and a recipe that lists no ingredient twice can be crafted nowhere else. Whatever is
held, a craft takes the stacks of an item in turn, each in full or not at all, and adds all
results. -/
theorem craft_is_exact_where_covered (recipe : Recipe) (inventory : Inventory)
    (h : inventory.Sound known) :
    (recipe.Exact inventory ↔
      ∀ item, listedOf recipe.ingredients item ≤ (inventory.amountOf item).toNat) ∧
    (recipe.Exact inventory → recipe.canCraft inventory = true) ∧
    ((recipe.ingredients.map Stack.item).Nodup →
      (recipe.canCraft inventory = true ↔ recipe.Exact inventory)) ∧
    ∀ item, ((recipe.craft inventory).amountOf item).toNat =
      min (leftOf item (inventory.amountOf item).toNat recipe.ingredients +
        listedOf recipe.results item) (UInt32.size - 1) := by
  have hiff : recipe.Exact inventory ↔ _ := Recipe.exact_iff h
  refine ⟨hiff, fun hexact => Recipe.canCraft_of_covered (hiff.mp hexact), fun hsingle => ?_,
    Recipe.amountOf_craft_eq h⟩
  rw [hiff, Recipe.canCraft_iff hsingle]

/-- A gem for two pairs of coins. -/
def Recipe.twoPairs : Recipe where
  name := "gem"
  ingredients := [⟨"coin", 2⟩, ⟨"coin", 2⟩]
  results := [⟨"gem", 1⟩]

/-- Five coins cover the two stacks of two, so crafting takes four. -/
theorem craft_of_two_pairs_takes_both :
    (⟨[⟨"coin", 5⟩]⟩ : Inventory).Sound (fun _ => True) ∧
      Recipe.twoPairs.Exact ⟨[⟨"coin", 5⟩]⟩ := by
  have hsound : (⟨[⟨"coin", 5⟩]⟩ : Inventory).Sound (fun _ => True) :=
    ⟨by decide, fun _ _ => trivial, by decide⟩
  refine ⟨hsound, (craft_is_exact_where_covered .twoPairs _ hsound).1.mpr fun item => ?_⟩
  by_cases hcoin : item = "coin"
  · subst hcoin
    decide
  · have hother : listedOf Recipe.twoPairs.ingredients item = 0 :=
      listedOf_of_not_mem (by simpa [Recipe.twoPairs] using hcoin)
    rw [hother]
    exact Nat.zero_le _

/-- Three coins pass for two pairs, and the craft takes only one. -/
theorem craft_of_two_pairs_takes_one :
    (⟨[⟨"coin", 3⟩]⟩ : Inventory).Sound (fun _ => True) ∧
      Recipe.twoPairs.canCraft ⟨[⟨"coin", 3⟩]⟩ = true ∧
      Recipe.twoPairs.craft ⟨[⟨"coin", 3⟩]⟩ = ⟨[⟨"coin", 1⟩, ⟨"gem", 1⟩]⟩ ∧
      ¬ Recipe.twoPairs.Exact ⟨[⟨"coin", 3⟩]⟩ := by
  refine ⟨⟨by decide, fun _ _ => trivial, by decide⟩, by decide, by decide, fun hexact => ?_⟩
  have htaken := hexact.taken "coin"
  revert htaken
  decide

end Narrative
