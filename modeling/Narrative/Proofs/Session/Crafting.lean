import Mathlib
import Narrative.Proofs.Registration
import Narrative.Proofs.Session.Representation
import Narrative.Proofs.Shorthand

/-!
# Crafting in a session

The player crafts by the position of an unlocked recipe. What a craft comes to is said in terms of
the document: the declaration of the recipe needs and yields certain amounts, a craft swaps exactly
these, and where they are not held nothing happens at all.

* **`State.Valid.exists_declared`** — every unlocked recipe is one that the document declares, and
  it lists the declared amounts.
* **`State.Valid.canUseRecipe_iff`** — a recipe can be used where all that its declaration needs is
  held.
* **`crafting_is_exact`** — the player crafts all or nothing.
-/

namespace Narrative

variable {quest : Quest} {settings : Settings} {s : State} {index : Nat}

/-- The declaration of the recipe at a position of the unlocked ones. -/
def Quest.unlocked? (quest : Quest) (s : State) (index : Nat) : Option RecipeDeclaration :=
  s.unlocked[index]?.bind quest.recipes.get?

/-- All that the declaration needs is held. -/
def RecipeDeclaration.HeldIn (declaration : RecipeDeclaration) (inventory : Inventory) : Prop :=
  ∀ item, declaration.need item ≤ (inventory.amountOf item).toNat

/-- A craft by this declaration leads from one state to the other and is told with this trace: the
inventory and the message have changed, and the host is told of the message. -/
structure RecipeDeclaration.Crafts (declaration : RecipeDeclaration) (s s' : State)
    (trace : Trace) : Prop where
  held : ∀ item, (s'.inventory.amountOf item).toNat =
    min (UInt32.size - 1)
      ((s.inventory.amountOf item).toNat - declaration.need item + declaration.yield item)
  rest : s' = { s with inventory := s'.inventory, message := s'.message }
  told : trace.events = [.messageChanged s'.message]

/-- In shorthand no name stands on one side as often as an amount cannot be. -/
def Quest.Countable (quest : Quest) : Prop :=
  ∀ name text, quest.recipes.get? name = some (.shorthand text) →
    (RecipeDeclaration.shorthand text).Countable

/-- The recipe lists what its declaration needs and yields. -/
theorem Quest.listedOf_recipe (hquest : quest.Countable) {name : String}
    {declaration : RecipeDeclaration} {recipe : Recipe}
    (hdeclared : quest.recipes.get? name = some declaration)
    (hrecipe : quest.recipe? name declaration = some recipe) :
    (recipe.ingredients.map Stack.item).Nodup ∧
      ∀ item, listedOf recipe.ingredients item = declaration.need item ∧
        listedOf recipe.results item = declaration.yield item := by
  obtain ⟨parts, hparts, -, rfl⟩ := recipe?_eq_some_iff.mp hrecipe
  -- only shorthand has to be counted; amounts in a table have their numbers already
  have hcount : declaration.Countable := by
    cases declaration with
    | shorthand text => exact hquest name text hdeclared
    | amounts ingredients results => exact RecipeDeclaration.countable_amounts ingredients results
  exact ⟨RecipeDeclaration.nodup_ingredients hparts,
    RecipeDeclaration.listedOf_parts hparts hcount⟩

/-- **Every unlocked recipe is declared**, and it lists the declared amounts. -/
theorem State.Valid.exists_declared (h : s.Valid quest.graph) (hquest : quest.Countable)
    (settings : Settings) (hindex : index < s.unlocked.length) :
    ∃ declaration recipe, quest.unlocked? s index = some declaration ∧
      s.unlockedRecipe? ⟨quest.graph, settings⟩ index = some recipe ∧
      (recipe.ingredients.map Stack.item).Nodup ∧
      ∀ item, listedOf recipe.ingredients item = declaration.need item ∧
        listedOf recipe.results item = declaration.yield item := by
  have hname : s.unlocked[index]? = some s.unlocked[index] := List.getElem?_eq_getElem hindex
  -- what is unlocked is in the graph, and what is in the graph was declared
  obtain ⟨recipe, hrecipe⟩ := Option.isSome_iff_exists.mp
    (h.unlocked s.unlocked[index] (List.getElem_mem hindex))
  change quest.graph.recipe? s.unlocked[index] = some recipe at hrecipe
  have hrecipe' := hrecipe
  rw [quest.recipe?_graph] at hrecipe'
  obtain ⟨declaration, hdeclared, hmade⟩ := Option.bind_eq_some_iff.mp hrecipe'
  refine ⟨declaration, recipe, ?_, ?_, Quest.listedOf_recipe hquest hdeclared hmade⟩
  · rw [Quest.unlocked?, hname, Option.bind_some, hdeclared]
  · rw [State.unlockedRecipe?, hname, Option.bind_some]
    exact hrecipe

/-- Beyond the unlocked recipes nothing is declared to craft by. -/
theorem Quest.unlocked?_eq_none (quest : Quest) (hindex : ¬ index < s.unlocked.length) :
    quest.unlocked? s index = none := by
  rw [Quest.unlocked?, List.getElem?_eq_none (Nat.le_of_not_lt hindex), Option.bind_none]

/-- Every unlocked position has a declared recipe, since a valid state unlocks known recipes
only. -/
theorem State.Valid.lt_length_iff (h : s.Valid quest.graph) (hquest : quest.Countable)
    (settings : Settings) :
    index < s.unlocked.length ↔ ∃ declaration, quest.unlocked? s index = some declaration := by
  constructor
  · intro hindex
    obtain ⟨declaration, -, hdeclared, -⟩ := h.exists_declared hquest settings hindex
    exact ⟨declaration, hdeclared⟩
  · rintro ⟨declaration, hdeclared⟩
    by_contra hindex
    rw [quest.unlocked?_eq_none hindex] at hdeclared
    nomatch hdeclared

/-- **The player can craft by a recipe exactly where all that its declaration needs is held.** -/
theorem State.Valid.canUseRecipe_iff (h : s.Valid quest.graph) (hquest : quest.Countable) :
    s.canUseRecipe ⟨quest.graph, settings⟩ index = true ↔
      ∃ declaration, quest.unlocked? s index = some declaration ∧
        declaration.HeldIn s.inventory := by
  by_cases hindex : index < s.unlocked.length
  · obtain ⟨declaration, recipe, hdeclared, hrecipe, hsingle, hlists⟩ :=
      h.exists_declared hquest settings hindex
    have hheld : recipe.canCraft s.inventory = true ↔ declaration.HeldIn s.inventory := by
      rw [Recipe.canCraft_iff hsingle]
      exact forall_congr' fun item => by rw [(hlists item).1]
    rw [State.canUseRecipe, hrecipe, Option.any_some, hheld, hdeclared]
    simp
  · -- beyond the unlocked recipes there is nothing to craft by
    have hnone : s.unlocked[index]? = none := List.getElem?_eq_none (Nat.le_of_not_lt hindex)
    rw [State.canUseRecipe, State.unlockedRecipe?, hnone, quest.unlocked?_eq_none hindex]
    simp

/-- A craft that is possible swaps the declared amounts. -/
theorem State.Valid.exists_crafts (h : s.Valid quest.graph) (hquest : quest.Countable)
    (hcan : s.canUseRecipe ⟨quest.graph, settings⟩ index = true) :
    ∃ s' trace, (Play.useRecipe index : Play SessionError Bool) ⟨quest.graph, settings⟩ s =
      ⟨.ok true, s', trace⟩ ∧
      ∀ declaration, quest.unlocked? s index = some declaration →
        declaration.Crafts s s' trace := by
  obtain ⟨declaration, hunlocked, hheld⟩ := (h.canUseRecipe_iff hquest).mp hcan
  have hindex := (h.lt_length_iff hquest settings).mpr ⟨declaration, hunlocked⟩
  obtain ⟨declared, recipe, hdeclared, hrecipe, hsingle, hlists⟩ :=
    h.exists_declared hquest settings hindex
  obtain rfl := Option.some.inj (hdeclared.symm.trans hunlocked)
  rw [State.canUseRecipe, hrecipe, Option.any_some] at hcan
  -- what comes of it is read off the run, and the amounts off the recipe
  refine ⟨_, _, Play.useRecipe_of_usable hrecipe hcan, fun other hother => ?_⟩
  obtain rfl := Option.some.inj (hdeclared.symm.trans hother)
  refine ⟨fun item => ?_, rfl, rfl⟩
  have hlisted : ∀ item, listedOf recipe.ingredients item ≤ (s.inventory.amountOf item).toNat :=
    fun item => (hlists item).1 ▸ hheld item
  have hcraft := Recipe.amountOf_craft h.inventory hlisted item
  obtain ⟨hneed, hyield⟩ := hlists item
  rw [hneed, hyield, Nat.min_comm] at hcraft
  exact hcraft

/-- **Crafting is exact, all or nothing.** Every unlocked recipe is declared. The player crafts by
one exactly where all that its declaration needs is held; then every held amount changes by what
the declaration needs and yields and the host is told once, and else nothing happens. -/
theorem crafting_is_exact (quest : Quest) (hquest : quest.Countable) (settings : Settings)
    (s : State) (h : State.Reachable ⟨quest.graph, settings⟩ (fun _ => True) s) (index : Nat) :
    (index < s.unlocked.length ↔ ∃ declaration, quest.unlocked? s index = some declaration) ∧
    ∃ result s' trace,
      (Play.useRecipe index : Play SessionError Bool) ⟨quest.graph, settings⟩ s =
        ⟨.ok result, s', trace⟩ ∧
      (result = true ↔ ∃ declaration, quest.unlocked? s index = some declaration ∧
        declaration.HeldIn s.inventory) ∧
      (result = false → s' = s ∧ trace = []) ∧
      ∀ declaration, result = true → quest.unlocked? s index = some declaration →
        declaration.Crafts s s' trace := by
  have hvalid : s.Valid quest.graph := .reachable quest.graph_sound h
  refine ⟨hvalid.lt_length_iff hquest settings, ?_⟩
  have hiff : s.canUseRecipe ⟨quest.graph, settings⟩ index = true ↔ _ :=
    hvalid.canUseRecipe_iff hquest
  -- the play asks once whether the recipe can be used, and that decides all the rest
  cases hcan : s.canUseRecipe ⟨quest.graph, settings⟩ index with
  | false =>
      refine ⟨false, s, [], Play.useRecipe_of_unusable hcan, ?_, fun _ => ⟨rfl, rfl⟩,
        fun _ htrue => nomatch htrue⟩
      rw [← hiff, hcan]
  | true =>
      obtain ⟨s', trace, hrun, hcrafts⟩ := hvalid.exists_crafts hquest hcan
      exact ⟨true, s', trace, hrun, iff_of_true rfl (hiff.mp hcan), nofun,
        fun declaration _ => hcrafts declaration⟩

/-- The forge after its once script: two pieces of ore, and the sword unlocked. -/
def State.atForge : State :=
  (HostCall.start.play ⟨Quest.forge.graph, {}⟩ (.initial ⟨Quest.forge.graph, {}⟩)).state

/-- A forge where the first recipe can be crafted. -/
theorem forge_crafting_is_exact :
    Quest.forge.Countable ∧ State.Reachable ⟨Quest.forge.graph, {}⟩ (fun _ => True) .atForge ∧
      ∃ s' trace, (Play.useRecipe 0 : Play SessionError Bool) ⟨Quest.forge.graph, {}⟩ .atForge =
        ⟨.ok true, s', trace⟩ ∧
        (RecipeDeclaration.shorthand "ore = sword").Crafts .atForge s' trace := by
  have hneed : ∀ item, (RecipeDeclaration.shorthand "ore = sword").need item =
      ["ore"].count item := by
    have hnames : Shorthand.names (Shorthand.left "ore = sword") = ["ore"] := by cbv
    intro item
    rw [RecipeDeclaration.need, hnames]
  have hyield : ∀ item, (RecipeDeclaration.shorthand "ore = sword").yield item =
      ["sword"].count item := by
    have hnames : Shorthand.names (Shorthand.right "ore = sword") = ["sword"] := by cbv
    intro item
    rw [RecipeDeclaration.yield, hnames]
  have hcountable : Quest.forge.Countable := by
    -- there is one recipe, and it names nothing more often than once
    intro name text hdeclared
    have hentry : (name, RecipeDeclaration.shorthand text) ∈
        [("sword", RecipeDeclaration.shorthand "ore = sword")] :=
      Registry.mem_entries_of_get? hdeclared
    obtain ⟨-, rfl⟩ : name = "sword" ∧ text = "ore = sword" := by simpa using hentry
    intro item
    rw [hneed, hyield]
    exact ⟨Nat.lt_of_le_of_lt List.count_le_length (by decide),
      Nat.lt_of_le_of_lt List.count_le_length (by decide)⟩
  have hreachable : State.Reachable ⟨Quest.forge.graph, {}⟩ (fun _ => True) .atForge :=
    .call .initial trivial
  have hdeclared : Quest.forge.unlocked? .atForge 0 = some (.shorthand "ore = sword") := by cbv
  have hheld : (RecipeDeclaration.shorthand "ore = sword").HeldIn State.atForge.inventory := by
    have hinventory : State.atForge.inventory = ⟨[⟨"ore", 2⟩]⟩ := by cbv
    intro item
    rw [hneed, hinventory, Inventory.amountOf_cons, List.count_singleton]
    by_cases hore : item = "ore"
    · subst hore
      decide
    · simp [Ne.symm hore]
  obtain ⟨-, result, s', trace, hrun, hresult, -, hcrafts⟩ :=
    crafting_is_exact Quest.forge hcountable {} .atForge hreachable 0
  obtain rfl := hresult.mpr ⟨_, hdeclared, hheld⟩
  exact ⟨hcountable, hreachable, s', trace, hrun, hcrafts _ rfl hdeclared⟩

end Narrative
