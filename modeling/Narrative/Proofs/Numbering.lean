import Narrative.Proofs.Console
import Narrative.Proofs.Session.Representation

/-!
# The numbers of recipes

The list of recipes leaves out names without a recipe, and a craft counts all names. The two agree
because no such name is ever unlocked: so a number means the same recipe in the list, for a craft
and at a console.

* **`Session.getElem?_recipeLines`** — a line stands where the name of its recipe does.
* **`Session.numbers_of_lt`** — what a position stands for, in the list and for a craft.
* **`HostCall.RemovesFirst`** — locking takes away the first entry, so the numbers behind it move
  up together.
* **`recipe_numbers_agree`** — all of it, in every reachable state.
-/

namespace Narrative

variable {w : World} {s : State} {session : Session} {index : Nat} {recipe : Recipe}

/-! ## Lines -/

/-- The line of a recipe with its status. -/
def World.listing (world : World) (recipe : Recipe) (status : String) : String :=
  world.stackList recipe.results ++ " (" ++ world.settings.texts.needs ++ ": " ++
    world.stackList recipe.ingredients ++ ", " ++ status ++ ")"

/-- The status of a recipe that can be used now, or cannot. -/
def Texts.status (texts : Texts) (usable : Bool) : String :=
  if usable then texts.craftable else texts.missing

/-- The line of a recipe is its listing with its status. -/
theorem World.recipeLine_eq (world : World) (inventory : Inventory) (recipe : Recipe) :
    world.recipeLine inventory recipe =
      world.listing recipe (world.settings.texts.status (recipe.canCraft inventory)) := rfl

/-- Lines of one recipe differ in the status and nowhere else. -/
theorem World.listing_inj {world : World} {status status' : String} :
    world.listing recipe status = world.listing recipe status' ↔ status = status' := by
  simp only [World.listing, String.append_left_inj, String.append_right_inj]

/-- Where different things are said of recipes that can be used and of those that cannot, a line
says of its recipe which of the two it is. -/
theorem Texts.status_eq_craftable_iff {texts : Texts} (h : texts.craftable ≠ texts.missing)
    (usable : Bool) : texts.status usable = texts.craftable ↔ usable = true := by
  cases usable with
  | true => exact iff_of_true rfl rfl
  | false => exact iff_of_false (fun heq => h heq.symm) Bool.false_ne_true

/-- No name is left out of a list of names that all mean something. -/
theorem getElem?_filterMap_of_forall_isSome {α β : Type} {f : α → Option β} :
    ∀ {names : List α}, (∀ name ∈ names, (f name).isSome = true) → ∀ index : Nat,
      (names.filterMap f)[index]? = names[index]?.bind f
  | [], _, _ => rfl
  | name :: rest, h, index => by
      obtain ⟨value, hvalue⟩ := Option.isSome_iff_exists.mp (h name List.mem_cons_self)
      rw [List.filterMap_cons_some hvalue]
      cases index with
      | zero => simp [hvalue]
      | succ index =>
          simpa using getElem?_filterMap_of_forall_isSome
            (fun other hother => h other (List.mem_cons_of_mem name hother)) index

namespace Session

/-- Every unlocked name is the name of a recipe. -/
def UnlockedKnown (session : Session) : Prop :=
  ∀ name ∈ session.state.unlocked, session.world.graph.recipes.contains name = true

/-- **A line stands where the name of its recipe does.** -/
theorem getElem?_recipeLines (h : session.UnlockedKnown) (index : Nat) :
    session.recipeLines[index]? =
      (session.state.unlockedRecipe? session.world index).map
        (session.world.recipeLine session.state.inventory) := by
  rw [recipeLines, List.getElem?_map,
    getElem?_filterMap_of_forall_isSome (f := session.world.graph.recipe?) h]
  rfl

/-- There is one line for each unlocked name, repetitions included. -/
theorem length_recipeLines (h : session.UnlockedKnown) :
    session.recipeLines.length = session.state.unlocked.length := by
  rw [recipeLines, List.length_map, List.filterMap_length_eq_length]
  exact h

/-! ## Positions -/

/-- A position stands for this recipe, in the list and for a craft. -/
structure Numbers (session : Session) (index : Nat) (recipe : Recipe) : Prop where
  unlocked : session.state.unlockedRecipe? session.world index = some recipe
  usable : session.state.canUseRecipe session.world index =
    recipe.canCraft session.state.inventory
  /-- The line at the position lists the recipe, and says whether it can be used. -/
  line : session.recipeLines[index]? = some (session.world.listing recipe
    (session.world.settings.texts.status (session.state.canUseRecipe session.world index)))
  reply : ((HostCall.useRecipe index).play session.world session.state).result =
    .ok (.answer (session.state.canUseRecipe session.world index))
  /-- A craft at the position swaps the ingredients of the recipe for its results and says so. -/
  used : session.state.canUseRecipe session.world index = true →
    session.after [.useRecipe index] = { session with
      state := { session.state with
        inventory := recipe.craft session.state.inventory
        message := session.world.craftedMessage recipe } } ∧
    session.told [.useRecipe index] = [.messageChanged (session.world.craftedMessage recipe)]
  unused : session.state.canUseRecipe session.world index = false →
    session.after [.useRecipe index] = session ∧ session.told [.useRecipe index] = []

/-- A position stands for no recipe: no line is there, and a craft does nothing. -/
structure Vacant (session : Session) (index : Nat) : Prop where
  line : session.recipeLines[index]? = none
  reply : ((HostCall.useRecipe index).play session.world session.state).result =
    .ok (.answer false)
  unused : session.after [.useRecipe index] = session ∧ session.told [.useRecipe index] = []

/-- A craft is replied to by whether the recipe can be used. -/
theorem useRecipe_reply (session : Session) (index : Nat) :
    ((HostCall.useRecipe index).play session.world session.state).result =
      .ok (.answer (session.state.canUseRecipe session.world index)) := by
  rw [HostCall.play, HostCall.playBy, Play.reported, Play.useRecipe_result]
  rfl

/-- A craft that is not possible does nothing. -/
theorem useRecipe_of_unusable (h : session.state.canUseRecipe session.world index = false) :
    session.after [.useRecipe index] = session ∧ session.told [.useRecipe index] = [] := by
  rw [after_cons, told_cons, HostCall.play, HostCall.playBy, Play.reported,
    Play.useRecipe_of_unusable h]
  exact ⟨rfl, rfl⟩

/-- **What a position stands for**, in the list and for a craft. -/
theorem numbers_of_lt (h : session.UnlockedKnown)
    (hindex : index < session.state.unlocked.length) :
    ∃ recipe, session.Numbers index recipe := by
  obtain ⟨recipe, hrecipe⟩ := State.exists_unlockedRecipe? h hindex
  -- the status shown in the list and the answer to the call ask for the same thing
  have husable : session.state.canUseRecipe session.world index =
      recipe.canCraft session.state.inventory := by
    rw [State.canUseRecipe, hrecipe, Option.any_some]
  refine ⟨recipe, hrecipe, husable, ?_, session.useRecipe_reply index, fun hcan => ?_,
    useRecipe_of_unusable⟩
  · rw [getElem?_recipeLines h, hrecipe, Option.map_some, World.recipeLine_eq, husable]
  · rw [husable] at hcan
    rw [after_cons, told_cons, HostCall.play, HostCall.playBy, Play.reported,
      Play.useRecipe_of_usable hrecipe hcan]
    exact ⟨rfl, rfl⟩

/-- A position behind the last unlocked recipe has no recipe. -/
theorem vacant_of_ge (h : session.UnlockedKnown)
    (hindex : session.state.unlocked.length ≤ index) : session.Vacant index := by
  have hnone : session.state.unlockedRecipe? session.world index = none := by
    rw [State.unlockedRecipe?, List.getElem?_eq_none hindex, Option.bind_none]
  have hunusable : session.state.canUseRecipe session.world index = false := by
    rw [State.canUseRecipe, hnone, Option.any_none]
  refine ⟨?_, ?_, useRecipe_of_unusable hunusable⟩
  · rw [getElem?_recipeLines h, hnone, Option.map_none]
  · rw [useRecipe_reply, hunusable]

/-- Of a recipe that is said to be craftable, it is true. -/
theorem Numbers.line_eq_craftable_iff (h : session.Numbers index recipe)
    (htexts : session.world.settings.texts.craftable ≠ session.world.settings.texts.missing) :
    session.recipeLines[index]? = some (session.world.listing recipe
        session.world.settings.texts.craftable) ↔
      session.state.canUseRecipe session.world index = true := by
  rw [h.line, Option.some_inj, World.listing_inj, Texts.status_eq_craftable_iff htexts]

end Session

/-! ## Locking and unlocking -/

namespace HostCall

/-- The call takes the first entry of a recipe from the unlocked ones, if there is one, and does
nothing else. -/
structure RemovesFirst (call : HostCall) (name : String) (w : World) (s : State) : Prop where
  present : ∀ front back, s.unlocked = front ++ name :: back → name ∉ front →
    (call.play w s).state = { s with unlocked := front ++ back }
  absent : name ∉ s.unlocked → (call.play w s).state = s

/-- The call puts a recipe behind the unlocked ones, if it is known, and does nothing else. -/
structure Appends (call : HostCall) (name : String) (w : World) (s : State) : Prop where
  known : w.graph.recipes.contains name = true →
    (call.play w s).state = { s with unlocked := s.unlocked ++ [name] }
  unknown : w.graph.recipes.contains name = false → (call.play w s).state = s

/-- Erasing a name from the unlocked recipes takes its first position away, and the later ones move
up. -/
theorem removesFirst_of_erase {call : HostCall} {name : String}
    (h : (call.play w s).state = { s with unlocked := s.unlocked.erase name }) :
    call.RemovesFirst name w s where
  present front back hunlocked hfront := by
    rw [h, hunlocked, List.erase_append_right _ hfront, List.erase_cons_head]
  absent hname := by rw [h, List.erase_of_not_mem hname]

/-- The call that locks a recipe takes its first position away. -/
theorem lockRecipe_removesFirst (name : String) (w : World) (s : State) :
    (HostCall.lockRecipe name).RemovesFirst name w s := by
  refine removesFirst_of_erase ?_
  rw [play, playBy, Play.reported, Play.lockRecipe_run]
  by_cases hname : name ∈ s.unlocked
  · rw [if_pos hname]
  · rw [if_neg hname, List.erase_of_not_mem hname]

/-- The command refuses an unknown recipe, but that is not an unlocked one either. -/
theorem dispatch_lock_removesFirst
    (h : ∀ name ∈ s.unlocked, w.graph.recipes.contains name = true) (name : String) :
    (HostCall.dispatch (.lock name)).RemovesFirst name w s := by
  refine removesFirst_of_erase ?_
  rw [play, playBy, Play.reported, Play.perform, Play.lock, Play.world_bind, Play.state_bind]
  cases hknown : w.graph.recipes.contains name with
  | true => rfl
  | false =>
      have hname : name ∉ s.unlocked := fun hmem => by
        rw [h name hmem] at hknown
        cases hknown
      rw [List.erase_of_not_mem hname]
      rfl

/-- The call that unlocks a recipe appends it, unless it was unlocked before. -/
theorem unlockRecipe_appends (name : String) (w : World) (s : State) :
    (HostCall.unlockRecipe name).Appends name w s := by
  constructor <;> intro hknown
  · rw [play, playBy, Play.reported, Play.unlockRecipe_run, if_pos hknown]
  · rw [play, playBy, Play.reported, Play.unlockRecipe_run, if_neg (ne_true_of_eq_false hknown)]

/-- The command that unlocks a recipe appends it, unless it was unlocked before. -/
theorem dispatch_unlock_appends (name : String) (w : World) (s : State) :
    (HostCall.dispatch (.unlock name)).Appends name w s := by
  constructor <;> intro hknown
  · rw [play, playBy, Play.reported, Play.perform, Play.unlock, Play.world_bind, Play.state_bind,
      hknown]
    rfl
  · rw [play, playBy, Play.reported, Play.perform, Play.unlock, Play.world_bind, Play.state_bind,
      hknown]
    rfl

end HostCall

/-! ## At a console -/

namespace Console

/-- A player asks for a craft by its number as it is printed. -/
theorem Input.parse_craft {word : String} (hword : word ∈ ["craft", "c"]) {number : Nat}
    (h : number < UInt64.size) : Input.parse (word ++ " " ++ toString number) = .craft number := by
  have hfirst : Text.words word.toList = [word.toList] := by
    rcases List.mem_pair.mp hword with rfl | rfl <;> decide +kernel
  have hwords : Text.words (word ++ " " ++ toString number).toList =
      [word.toList, (toString number).toList] := by
    have hspace : " ".toList ++ (toString number).toList = ' ' :: (toString number).toList := rfl
    rw [String.toList_append, String.toList_append, List.append_assoc, hspace,
      Text.words_append_cons (by decide +kernel), hfirst, words_toString]
    rfl
  rw [Input.parse, hwords, List.map_cons, List.map_cons, List.map_nil, String.ofList_toList,
    String.ofList_toList, Input.ofWords, if_pos hword, Input.number?_toString h]
  rfl

/-- The recipes stand behind the numbers that craft them. -/
structure RecipesNumbered (session : Session) : Prop where
  /-- Every unlocked recipe has a number, counted from one. -/
  shown : recipeList session =
    if session.state.unlocked = [] then line "No recipes unlocked."
    else String.join (session.recipeLines.mapIdx fun index text =>
      line (toString (index + 1) ++ ". " ++ text))
  /-- A player sees this list who asks for the recipes. -/
  listed : ∀ finished typed, Input.parse typed = .recipes →
    respond ⟨session, finished⟩ typed = some (recipeList session, ⟨session, finished⟩)
  /-- A player who asks for a craft by number makes the call for the position. -/
  crafted : ∀ finished typed number, Input.parse typed = .craft (number + 1) →
    respond ⟨session, finished⟩ typed =
      some (if session.state.canUseRecipe session.world number then ""
        else line "You can't craft that right now.", heard ⟨session, finished⟩ [.useRecipe number])

/-- What is shown for a recipe and what is crafted by its number belong together. -/
theorem recipesNumbered (h : session.UnlockedKnown) : RecipesNumbered session where
  shown := by
    have hempty : session.recipeLines.isEmpty = true ↔ session.state.unlocked = [] := by
      rw [List.isEmpty_iff_length_eq_zero, session.length_recipeLines h, List.length_eq_zero_iff]
    simp only [recipeList, hempty]
  listed finished typed hparse := by
    rw [respond_eq, hparse]
    simp [answer, Input.call?]
  crafted finished typed number hparse := by
    rw [respond_eq, hparse, if_neg (by simp), answer, session.useRecipe_reply number]
    cases session.state.canUseRecipe session.world number <;> rfl

end Console

/-- **Recipe numbers mean the same thing everywhere.** In every reachable state, over whatever
graph, there is one line for each unlocked name, and each position stands for one recipe: its line
lists the recipe that a craft at the position swaps, and says whether it can be used. Locking takes
the first entry away and unlocking adds one behind the others, for a host and for a script. At a
console the number in front of a line is the number that crafts its recipe, and it is read as it is
printed. -/
theorem recipe_numbers_agree (w : World) (s : State) (h : State.Reachable w (fun _ => True) s) :
    (Session.recipeLines ⟨w, s⟩).length = s.unlocked.length ∧
    (∀ index < s.unlocked.length, ∃ recipe, Session.Numbers ⟨w, s⟩ index recipe) ∧
    (∀ index ≥ s.unlocked.length, Session.Vacant ⟨w, s⟩ index) ∧
    (w.settings.texts.craftable ≠ w.settings.texts.missing →
      ∀ index recipe, s.unlockedRecipe? w index = some recipe →
        ((Session.recipeLines ⟨w, s⟩)[index]? =
            some (w.listing recipe w.settings.texts.craftable) ↔
          s.canUseRecipe w index = true)) ∧
    (∀ name,
      (HostCall.lockRecipe name).RemovesFirst name w s ∧
      (HostCall.dispatch (.lock name)).RemovesFirst name w s ∧
      (HostCall.unlockRecipe name).Appends name w s ∧
      (HostCall.dispatch (.unlock name)).Appends name w s) ∧
    Console.RecipesNumbered ⟨w, s⟩ ∧
    ∀ word ∈ ["craft", "c"], ∀ number < UInt64.size,
      Console.Input.parse (word ++ " " ++ toString number) = .craft number := by
  have hknown : Session.UnlockedKnown ⟨w, s⟩ := h.unlocked_known
  refine ⟨Session.length_recipeLines hknown,
    fun index hindex => Session.numbers_of_lt hknown hindex,
    fun index hindex => Session.vacant_of_ge hknown hindex,
    fun htexts index recipe hrecipe => ?_, fun name => ⟨HostCall.lockRecipe_removesFirst name w s,
      HostCall.dispatch_lock_removesFirst hknown name, HostCall.unlockRecipe_appends name w s,
      HostCall.dispatch_unlock_appends name w s⟩, Console.recipesNumbered hknown,
    fun word hword number hnumber => Console.Input.parse_craft hword hnumber⟩
  -- a position with a recipe is one of the unlocked names, and stands for that recipe
  have hindex : index < s.unlocked.length := by
    obtain ⟨name, hname, -⟩ := Option.bind_eq_some_iff.mp hrecipe
    exact (List.getElem?_eq_some_iff.mp hname).1
  obtain ⟨numbered, hnumbers⟩ := Session.numbers_of_lt hknown hindex
  obtain rfl := Option.some.inj (hnumbers.unlocked.symm.trans hrecipe)
  exact hnumbers.line_eq_craftable_iff htexts

/-- A story in which one of two recipes is unlocked twice and locked once. -/
def Quest.foundry : Quest where
  name := "foundry"
  start := "yard"
  items := .ofList [("ore", "Ore"), ("sword", "Sword"), ("shield", "Shield")]
  recipes := .ofList
    [("sword", .shorthand "ore = sword"), ("shield", .shorthand "ore + ore = shield")]
  screens :=
    [{ name := some "yard"
       scripts :=
        { once := ["give ore", "unlock sword", "unlock shield", "unlock sword", "lock sword"] } }]

/-- The foundry after its once script. -/
def State.inFoundry : State :=
  (HostCall.start.play ⟨Quest.foundry.graph, {}⟩ (.initial ⟨Quest.foundry.graph, {}⟩)).state

/-- Two unlocked recipes, of which the second one is numbered two and can be crafted. -/
theorem foundry_recipe_numbers :
    State.Reachable ⟨Quest.foundry.graph, {}⟩ (fun _ => True) .inFoundry ∧
      State.inFoundry.unlocked = ["shield", "sword"] ∧
      Session.recipeLines ⟨⟨Quest.foundry.graph, {}⟩, .inFoundry⟩ =
        ["Shield (needs: Ore x2, missing ingredients)", "Sword (needs: Ore, can craft)"] ∧
      (∃ recipe, recipe.name = "sword" ∧
        Session.Numbers ⟨⟨Quest.foundry.graph, {}⟩, .inFoundry⟩ 1 recipe) ∧
      Console.Input.parse "craft 2" = .craft 2 := by
  have hreachable : State.Reachable ⟨Quest.foundry.graph, {}⟩ (fun _ => True) .inFoundry :=
    .call .initial trivial
  have hunlocked : State.inFoundry.unlocked = ["shield", "sword"] := by cbv
  have hname : (State.inFoundry.unlockedRecipe? ⟨Quest.foundry.graph, {}⟩ 1).map (·.name) =
      some "sword" := by cbv
  obtain ⟨-, hnumbers, -, -, -, -, hparse⟩ := recipe_numbers_agree _ _ hreachable
  obtain ⟨recipe, hrecipe⟩ := hnumbers 1 (by rw [hunlocked]; decide)
  refine ⟨hreachable, hunlocked, by cbv, ⟨recipe, ?_, hrecipe⟩, ?_⟩
  · rw [hrecipe.unlocked] at hname
    exact Option.some.inj hname
  · exact hparse "craft" (by decide) 2 (by decide)

end Narrative
