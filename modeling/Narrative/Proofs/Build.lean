import Narrative.Build

/-!
# Graphs that come from documents

What holds of every graph that a document is built into. Registering the recipes, the screens and
the relays keeps each of these facts, one lemma for each kind of registration.

* **`Graph.Filled`** — the graph comes of registering one thing after the other, whatever it is.
* **`Graph.Sound`** — names of screens lead to screens, and recipes name items of the graph only.
* **`Quest.graph_sound`** — every document makes a sound graph, with or without warnings.
* **`Quest.startIndex?_of_startFlaws`** — without a flaw at the name of the first screen there is a
  first screen.
-/

namespace Narrative

namespace Registry

variable {α : Type} {r : Registry α} {name : String} {value : α}

/-- What is found under a name is an entry. -/
theorem mem_entries_of_get? (h : r.get? name = some value) : (name, value) ∈ r.entries := by
  obtain ⟨front, rest, heq, -⟩ := List.lookup_eq_some_iff.mp h
  rw [heq]
  exact List.mem_append_right _ List.mem_cons_self

end Registry

namespace Graph

/-- A graph to which things were registered in some order, and nothing else was done. There are no
others: whoever wants a graph has to fill one. -/
inductive Filled : Graph → Prop
  | blank (name title start : String) : Filled { name, title, start }
  | item {graph : Graph} (h : Filled graph) (name title : String) :
      Filled (graph.addItem name title)
  | recipe {graph : Graph} (h : Filled graph) (recipe : Recipe) : Filled (graph.addRecipe recipe)
  | default {graph : Graph} (h : Filled graph) (name : String) (value : Value) :
      Filled (graph.addVariable name value)
  | screen {graph : Graph} (h : Filled graph) (screen : Screen) : Filled (graph.addScreen screen)
  | relay {graph : Graph} (h : Filled graph) (relay : Relay) : Filled (graph.addRelay relay)

/-- A relay stands under its own name. -/
theorem Filled.name_of_relay? {graph : Graph} (h : graph.Filled) {name : String} {relay : Relay}
    (hrelay : graph.relay? name = some relay) : relay.name = name := by
  induction h with
  | blank => nomatch hrelay
  | item _ _ _ ih => exact ih hrelay
  | recipe _ _ ih => exact ih hrelay
  | default _ _ _ ih => exact ih hrelay
  | screen _ _ ih => exact ih hrelay
  | @relay graph _ added ih =>
      change (graph.relays.insert added.name added).get? name = some relay at hrelay
      -- the name that was asked for is that of the added relay, or else the relay was there before
      rw [Registry.get?_insert] at hrelay
      split at hrelay
      · rename_i heq
        cases hrelay
        exact heq.symm
      · exact ih hrelay

/-- The names of screens lead to screens, and the recipes name items of the graph. -/
structure Sound (graph : Graph) : Prop where
  screens : ∀ {name index}, graph.screenIndex? name = some index → index < graph.screens.length
  recipes : ∀ {name recipe}, graph.recipe? name = some recipe →
    ∀ stack ∈ recipe.ingredients ++ recipe.results, graph.hasItem stack.item = true

variable {graph : Graph}

/-! ## One registration -/

/-- A recipe of known items keeps the graph sound. -/
theorem Sound.addRecipe (h : graph.Sound) {recipe : Recipe}
    (hitems : ∀ stack ∈ recipe.ingredients ++ recipe.results, graph.hasItem stack.item = true) :
    (graph.addRecipe recipe).Sound where
  screens := h.screens
  recipes {name found} hfound := by
    change (graph.recipes.insert recipe.name recipe).get? name = some found at hfound
    rw [Registry.get?_insert] at hfound
    split at hfound
    · cases hfound
      exact hitems
    · exact h.recipes hfound

/-- The position of a screen once another one has been appended. -/
theorem screenIndex?_addScreen (graph : Graph) (screen : Screen) (name : String) :
    (graph.addScreen screen).screenIndex? name =
      if screen.name = some name then some graph.screens.length else graph.screenIndex? name := by
  unfold screenIndex? addScreen
  cases hname : screen.name with
  | none => simp
  | some own =>
      dsimp only
      rw [Registry.get?_insert]
      by_cases heq : name = own
      · rw [if_pos heq, if_pos (congrArg some heq.symm)]
      · rw [if_neg heq, if_neg fun h => heq (Option.some.inj h).symm]

/-- A screen is appended, so the old positions still lead to screens, and its own does too. -/
theorem Sound.addScreen (h : graph.Sound) (screen : Screen) : (graph.addScreen screen).Sound where
  screens {name index} hindex := by
    have hlength : (graph.addScreen screen).screens.length = graph.screens.length + 1 :=
      List.length_append
    rw [screenIndex?_addScreen] at hindex
    rw [hlength]
    split at hindex
    · cases hindex
      exact Nat.lt_succ_self _
    · exact Nat.lt_succ_of_lt (h.screens hindex)
  recipes := h.recipes

/-- Nothing that soundness speaks of is touched by a relay. -/
theorem Sound.addRelay (h : graph.Sound) (relay : Relay) : (graph.addRelay relay).Sound where
  screens := h.screens
  recipes := h.recipes

/-! ## All registrations -/

/-- The graph of a document before anything is registered. -/
def bare (quest : Quest) : Graph :=
  { name := quest.name, title := quest.title, start := quest.start
    items := quest.items, defaults := quest.defaults }

/-- What holds of the graph to begin with and is kept by every registration of a recipe of the
document, of a screen and of a relay holds of the graph of the document. -/
theorem of_registrations {motive : Graph → Prop} (quest : Quest)
    (hbare : motive (bare quest))
    (hrecipe : ∀ graph, motive graph → ∀ recipe ∈ quest.recipeList,
      motive (graph.addRecipe recipe))
    (hscreen : ∀ graph, motive graph → ∀ screen ∈ quest.screens, motive (graph.addScreen screen))
    (hrelay : ∀ graph, motive graph → ∀ relay ∈ quest.relays, motive (graph.addRelay relay)) :
    motive quest.graph :=
  List.foldlRecOn _ _
    (List.foldlRecOn _ _ (List.foldlRecOn _ _ hbare hrecipe) hscreen) hrelay

/-- A name that leads somewhere, or is the name of one of the screens, leads somewhere once the
screens are appended. -/
theorem screenIndex?_isSome_foldl (screens : List Screen) (name : String) :
    ∀ graph : Graph, (graph.screenIndex? name).isSome ∨ name ∈ screens.filterMap (·.name) →
      ((screens.foldl addScreen graph).screenIndex? name).isSome := by
  induction screens with
  | nil =>
      intro graph h
      rcases h with h | h
      · exact h
      · nomatch h
  | cons screen rest ih =>
      intro graph h
      rw [List.foldl_cons]
      refine ih _ ?_
      -- a later screen of the same name takes it over, and then the name leads there
      rw [screenIndex?_addScreen]
      by_cases hown : screen.name = some name
      · rw [if_pos hown]
        exact .inl rfl
      · rw [if_neg hown]
        rcases h with h | h
        · exact .inl h
        · obtain ⟨found, hfound, hname⟩ := List.mem_filterMap.mp h
          rcases List.mem_cons.mp hfound with rfl | hfound
          · exact absurd hname hown
          · exact .inr (List.mem_filterMap.mpr ⟨found, hfound, hname⟩)

end Graph

namespace Quest

variable (quest : Quest)

/-- Registering screens and relays does not move the start. -/
@[simp] theorem graph_start : quest.graph.start = quest.start :=
  Graph.of_registrations (motive := fun graph => graph.start = quest.start) quest rfl
    (fun _ h _ _ => h) (fun _ h _ _ => h) (fun _ h _ _ => h)

/-- The recipes that are registered name declared items only. -/
theorem contains_of_mem_recipeList {recipe : Recipe} (h : recipe ∈ quest.recipeList) :
    ∀ stack ∈ recipe.ingredients ++ recipe.results, quest.items.contains stack.item = true := by
  -- a recipe is registered if it has parts and nothing among them is undeclared
  obtain ⟨entry, -, hentry⟩ := List.mem_filterMap.mp h
  unfold Quest.recipe? at hentry
  split at hentry
  · split at hentry
    · rename_i parts _ hdeclared
      cases hentry
      intro stack hstack
      have hnone : quest.undeclaredItems parts = [] := List.isEmpty_iff.mp hdeclared
      have hitem : stack.item ∈ (parts.ingredients ++ parts.results).map (·.item) :=
        List.mem_map.mpr ⟨stack, hstack, rfl⟩
      have hkept := List.filter_eq_nil_iff.mp hnone stack.item hitem
      simpa using hkept
    · nomatch hentry
  · nomatch hentry

/-- **Every document makes a sound graph.** -/
theorem graph_sound : quest.graph.Sound := by
  -- the recipes are checked against the items of the document, so the items have to come along
  have hboth : quest.graph.Sound ∧ quest.graph.items = quest.items := by
    refine Graph.of_registrations (motive := fun graph => graph.Sound ∧ graph.items = quest.items)
      quest ⟨?_, rfl⟩ ?_ ?_ ?_
    · exact ⟨nofun, nofun⟩
    · intro graph ⟨hsound, hitems⟩ recipe hrecipe
      refine ⟨hsound.addRecipe fun stack hstack => ?_, hitems⟩
      rw [Graph.hasItem, hitems]
      exact quest.contains_of_mem_recipeList hrecipe stack hstack
    · exact fun graph ⟨hsound, hitems⟩ screen _ => ⟨hsound.addScreen screen, hitems⟩
    · exact fun graph ⟨hsound, hitems⟩ relay _ => ⟨hsound.addRelay relay, hitems⟩
  exact hboth.1

/-- The relays do not touch the names of screens. -/
theorem screenIndex?_graph (name : String) :
    quest.graph.screenIndex? name =
      (quest.screens.foldl Graph.addScreen
        (quest.recipeList.foldl Graph.addRecipe (Graph.bare quest))).screenIndex? name :=
  List.foldlRecOn (motive := fun graph : Graph => graph.screenIndex? name =
      (quest.screens.foldl Graph.addScreen
        (quest.recipeList.foldl Graph.addRecipe (Graph.bare quest))).screenIndex? name)
    quest.relays Graph.addRelay rfl fun _ h _ _ => h

/-- **Without a flaw at its name there is a first screen.** -/
theorem startIndex?_of_startFlaws (h : quest.startFlaws = []) :
    ∃ index, quest.graph.screenIndex? quest.graph.start = some index := by
  unfold startFlaws at h
  split at h
  · nomatch h
  · split at h
    · rename_i hmem
      refine Option.isSome_iff_exists.mp ?_
      rw [graph_start, screenIndex?_graph]
      exact Graph.screenIndex?_isSome_foldl quest.screens quest.start _ (.inr hmem)
    · nomatch h

end Quest

end Narrative
