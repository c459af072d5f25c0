import Mathlib
import Narrative.Proofs.Build
import Narrative.Proofs.Document
import Narrative.Proofs.Session.Arrival

/-!
# What a graph holds

The graph of a document holds what the document declares, each thing in one form, and of several
declarations of one name the last one.

* **`Registry.get?_foldl_insert`** — registering one thing after the other leaves the last one of
  each name.
* **`Quest.graph_eq_registered`** — the graph is what comes of registering the declared items,
  recipes, variables, screens and relays one by one, with each recipe checked against the items
  that are registered by then.
* **`Quest.graph_filled`** — so it is a graph like all others.
* **`Graph.NamesLast`** — a name leads to the last screen that has it, whatever is appended.
-/

namespace Narrative

/-! ## Registering one after the other -/

namespace Registry

variable {α β : Type}

/-- An entry whose name is above all others goes behind them. -/
theorem insertByName_of_forall_lt {name : String} {value : α} {entries : List (String × α)}
    (h : ∀ entry ∈ entries, entry.1 < name) :
    insertByName name value entries = entries ++ [(name, value)] := by
  induction entries with
  | nil => rfl
  | cons head rest ih =>
      obtain ⟨other, kept⟩ := head
      obtain ⟨hother, hrest⟩ := List.forall_mem_cons.mp h
      have hnotBelow : ¬ name < other := fun hbelow =>
        String.lt_irrefl _ (String.lt_trans hbelow hother)
      have hne : name ≠ other := fun heq => String.lt_irrefl _ (heq ▸ hother)
      simp only [insertByName, if_neg hnotBelow, if_neg hne, ih hrest, List.cons_append]

/-- Registering the entries of a registry in their order makes that registry. -/
theorem ofList_entries (r : Registry α) : ofList r.entries = r := by
  -- what is registered so far is a first part of the entries, and what follows is above it
  have hfold : ∀ (rest : List (String × α)) (front : Registry α),
      (front.entries ++ rest).Pairwise (·.1 < ·.1) →
      (rest.foldl (fun r entry => r.insert entry.1 entry.2) front).entries =
        front.entries ++ rest := by
    intro rest
    induction rest with
    | nil => simp
    | cons entry rest ih =>
        intro front hsorted
        have hbelow : ∀ other ∈ front.entries, other.1 < entry.1 := fun other hother =>
          (List.pairwise_append.mp hsorted).2.2 other hother entry List.mem_cons_self
        have hinsert : (front.insert entry.1 entry.2).entries = front.entries ++ [entry] :=
          insertByName_of_forall_lt hbelow
        rw [List.foldl_cons, ih, hinsert, List.append_assoc, List.singleton_append]
        rw [hinsert, List.append_assoc, List.singleton_append]
        exact hsorted
  have hentries : (ofList r.entries).entries = r.entries := hfold r.entries empty r.sorted
  generalize ofList r.entries = made at hentries
  cases made
  cases r
  cases hentries
  rfl

/-- What is found under a name after registering one thing after the other: the last one of that
name, or what was there before. -/
theorem get?_foldl_insert (key : β → String) (value : β → α) (declared : List β) (name : String) :
    ∀ r : Registry α,
      (declared.foldl (fun r thing => r.insert (key thing) (value thing)) r).get? name =
        ((declared.filter (key · = name)).getLast?.map value).or (r.get? name) := by
  induction declared with
  | nil => exact fun _ => rfl
  | cons thing rest ih =>
      intro r
      rw [List.foldl_cons, ih, get?_insert]
      by_cases hname : key thing = name
      · -- a later one of the name wins over this one, and this one over what was there
        rw [if_pos hname.symm, List.filter_cons_of_pos (by simpa using hname), List.getLast?_cons]
        cases (rest.filter (key · = name)).getLast? <;> rfl
      · rw [if_neg (Ne.symm hname), List.filter_cons_of_neg (by simpa using hname)]

/-- What is found among entries that were read anew, each under its own name. -/
theorem getLast?_filter_filterMap {γ : Type} (r : Registry α) (read : String → α → Option γ)
    (key : γ → String)
    (hkey : ∀ {name value thing}, read name value = some thing → key thing = name)
    (name : String) :
    ((r.entries.filterMap fun entry => read entry.1 entry.2).filter (key · = name)).getLast? =
      (r.get? name).bind (read name) := by
  obtain ⟨entries, hsorted⟩ := r
  show ((entries.filterMap fun entry => read entry.1 entry.2).filter (key · = name)).getLast? =
    (entries.lookup name).bind (read name)
  induction entries with
  | nil => rfl
  | cons entry rest ih =>
      obtain ⟨own, value⟩ := entry
      obtain ⟨habove, hrest⟩ := List.pairwise_cons.mp hsorted
      rw [lookup_cons_ite, List.filterMap_cons]
      by_cases hname : name = own
      · subst hname
        -- no later entry has the name, so nothing of the name comes of the rest
        have hnone :
            (rest.filterMap fun entry => read entry.1 entry.2).filter (key · = name) = [] := by
          refine List.filter_eq_nil_iff.mpr fun thing hthing => ?_
          obtain ⟨other, hother, hread⟩ := List.mem_filterMap.mp hthing
          have hne : name ≠ other.1 := fun heq => String.lt_irrefl _ (heq ▸ habove other hother)
          simpa [hkey hread] using hne.symm
        cases hread : read name value with
        | none => simp [hread, hnone]
        | some thing => simp [hread, hnone, hkey hread]
      · rw [if_neg hname, ← ih hrest]
        cases hread : read own value with
        | none => simp
        | some thing =>
            have hother : key thing ≠ name := fun h => hname (h.symm.trans (hkey hread))
            simp [hother]

end Registry

namespace Graph

/-! ## Names of screens -/

/-- The name leads to this position: the screen there has it, and no later one does. -/
def LeadsTo (screens : List Screen) (name : String) (index : Nat) : Prop :=
  screens[index]?.bind Screen.name = some name ∧
    ∀ later, index < later → screens[later]?.bind Screen.name ≠ some name

/-- The names of the screens lead to the last screens that have them. -/
structure NamesLast (graph : Graph) : Prop where
  some_iff : ∀ name index, graph.screenIndex? name = some index ↔ LeadsTo graph.screens name index
  none_iff : ∀ name, graph.screenIndex? name = none ↔ name ∉ graph.screens.filterMap Screen.name

/-- A name leads to the last screen if it is its name. -/
theorem leadsTo_append_of_eq {screens : List Screen} {screen : Screen} {name : String}
    (h : screen.name = some name) (index : Nat) :
    LeadsTo (screens ++ [screen]) name index ↔ screens.length = index := by
  constructor
  · rintro ⟨hname, hlast⟩
    have hbound : index < (screens ++ [screen]).length := by
      by_contra hbeyond
      simp [List.getElem?_eq_none (Nat.le_of_not_lt hbeyond)] at hname
    -- in front of the last screen it would not be the last one with the name
    by_contra hne
    have hbefore : index < screens.length := by
      simp only [List.length_append, List.length_singleton] at hbound
      omega
    exact hlast screens.length hbefore (by simp [h])
  · rintro rfl
    refine ⟨by simp [h], fun later hlater => ?_⟩
    have hbeyond : (screens ++ [screen]).length ≤ later := by
      simp only [List.length_append, List.length_singleton]
      omega
    simp [List.getElem?_eq_none hbeyond]

/-- A last screen of another name does not change where a name leads. -/
theorem leadsTo_append_of_ne {screens : List Screen} {screen : Screen} {name : String}
    (h : screen.name ≠ some name) (index : Nat) :
    LeadsTo (screens ++ [screen]) name index ↔ LeadsTo screens name index := by
  -- at no position does the name appear or disappear
  have hsame : ∀ position : Nat, (screens ++ [screen])[position]?.bind Screen.name = some name ↔
      screens[position]?.bind Screen.name = some name := by
    intro position
    rcases Nat.lt_trichotomy position screens.length with hlt | rfl | hgt
    · rw [List.getElem?_append_left hlt]
    · simp [h]
    · have hbeyond : (screens ++ [screen]).length ≤ position := by
        simp only [List.length_append, List.length_singleton]
        omega
      simp [List.getElem?_eq_none hbeyond, List.getElem?_eq_none (Nat.le_of_lt hgt)]
  simp only [LeadsTo, ne_eq, hsame]

/-- Appending a screen keeps it so: its name leads to it from then on, and no other name does. -/
theorem NamesLast.addScreen {graph : Graph} (h : graph.NamesLast) (screen : Screen) :
    (graph.addScreen screen).NamesLast where
  some_iff name index := by
    rw [screenIndex?_addScreen]
    show _ ↔ LeadsTo (graph.screens ++ [screen]) name index
    by_cases hname : screen.name = some name
    · -- a screen of that name at the end takes the name over, whoever had it before
      rw [if_pos hname, leadsTo_append_of_eq hname, Option.some.injEq]
    · rw [if_neg hname, leadsTo_append_of_ne hname, h.some_iff]
  none_iff name := by
    rw [screenIndex?_addScreen]
    show _ ↔ name ∉ (graph.screens ++ [screen]).filterMap Screen.name
    rw [List.filterMap_append, List.mem_append, not_or]
    by_cases hname : screen.name = some name
    · simp [hname]
    · rw [if_neg hname, h.none_iff]
      -- a screen without that name leaves it as it was
      simp [hname]

/-! ## What registering comes to -/

section

variable (graph : Graph)

/-- Registering items changes the items and nothing else. -/
theorem addItem_foldl (entries : List (String × String)) :
    entries.foldl (fun g entry => g.addItem entry.1 entry.2) graph =
      { graph with
        items := entries.foldl (fun r entry => r.insert entry.1 entry.2) graph.items } := by
  induction entries generalizing graph with
  | nil => rfl
  | cons entry rest ih => rw [List.foldl_cons, ih]; rfl

/-- Registering variables changes the defaults and nothing else. -/
theorem addVariable_foldl (entries : List (String × Value)) :
    entries.foldl (fun g entry => g.addVariable entry.1 entry.2) graph =
      { graph with
        defaults := entries.foldl (fun r entry => r.insert entry.1 entry.2) graph.defaults } := by
  induction entries generalizing graph with
  | nil => rfl
  | cons entry rest ih => rw [List.foldl_cons, ih]; rfl

/-- Registering recipes changes the recipes and nothing else. -/
theorem addRecipe_foldl (recipes : List Recipe) :
    recipes.foldl addRecipe graph =
      { graph with
        recipes := recipes.foldl (fun r recipe => r.insert recipe.name recipe) graph.recipes } := by
  induction recipes generalizing graph with
  | nil => rfl
  | cons recipe rest ih => rw [List.foldl_cons, ih]; rfl

/-- Registering relays changes the relays and nothing else. -/
theorem addRelay_foldl (relays : List Relay) :
    relays.foldl addRelay graph =
      { graph with
        relays := relays.foldl (fun r relay => r.insert relay.name relay) graph.relays } := by
  induction relays generalizing graph with
  | nil => rfl
  | cons relay rest ih => rw [List.foldl_cons, ih]; rfl

/-- Screens are appended, and nothing but their names is touched besides. -/
theorem addScreen_foldl (screens : List Screen) :
    screens.foldl addScreen graph =
      { graph with
        screens := graph.screens ++ screens
        screenNames := (screens.foldl addScreen graph).screenNames } := by
  induction screens generalizing graph with
  | nil => simp
  | cons screen rest ih =>
      rw [List.foldl_cons, ih]
      simp [addScreen]

end

/-- Registers a declared recipe, unless it is malformed or names an item that is not registered. -/
def addDeclared (graph : Graph) (name : String) (declaration : RecipeDeclaration) : Graph :=
  match declaration.parts with
  | .ok parts =>
    if (parts.ingredients ++ parts.results).all fun stack => graph.hasItem stack.item then
      graph.addRecipe { name, ingredients := parts.ingredients, results := parts.results }
    else graph
  | .error _ => graph

end Graph

/-! ## What becomes of declarations -/

/-- The lines that are declared: one text is one line, many texts are their lines. -/
inductive Lines.Lists : Lines → List String → Prop
  | one (line : String) : Lists (.one line) [line]
  | many (lines : List String) : Lists (.many lines) lines

/-- A declaration lists the lines that it is converted to, and no others. -/
theorem Lines.lists_iff {declared : Lines} {lines : List String} :
    declared.Lists lines ↔ declared.toList = lines := by
  constructor
  · rintro (line | lines) <;> rfl
  · rintro rfl
    cases declared with
    | one line => exact .one line
    | many lines => exact .many lines

/-- A declaration lists the lines that it is converted to. -/
theorem Lines.lists_toList (declared : Lines) : declared.Lists declared.toList := lists_iff.mpr rfl

/-- The title of an item, in either form. -/
inductive ItemDeclaration.Titled : ItemDeclaration → String → Prop
  | short (title : String) : Titled (.short title) title
  | detailed (title : String) : Titled (.detailed title) title

/-- An item has the title that its declaration gives it. -/
theorem ItemDeclaration.titled_title (declared : ItemDeclaration) :
    declared.Titled declared.title := by
  cases declared with
  | short title => exact .short title
  | detailed title => exact .detailed title

/-- The value that a variable starts with. -/
inductive VariableDeclaration.Starts : VariableDeclaration → Value → Prop
  | bool (b : Bool) : Starts (.bool b) (.bool b)
  | number (x : Float) : Starts (.number x) (.number x)
  | text (s : String) : Starts (.text s) (.text s)

/-- A variable starts at the value of its declaration. -/
theorem VariableDeclaration.starts_value (declared : VariableDeclaration) :
    declared.Starts declared.value := by
  cases declared with
  | bool b => exact .bool b
  | number x => exact .number x
  | text s => exact .text s

/-- A choice is offered as it is declared: its title, its guard and its commands, in their order. -/
structure ChoiceDeclaration.Offered (declared : ChoiceDeclaration) (choice : Choice) : Prop where
  title : choice.title = declared.title
  condition : declared.condition.Lists choice.condition
  action : declared.action.Lists choice.action

/-- A choice is offered as it is declared. -/
theorem ChoiceDeclaration.offered_choice (declared : ChoiceDeclaration) :
    declared.Offered declared.choice :=
  ⟨rfl, declared.condition.lists_toList, declared.action.lists_toList⟩

/-- A screen is shown as it is declared. -/
structure ScreenDeclaration.Shown (declared : ScreenDeclaration) (screen : Screen) : Prop where
  name : screen.name = declared.name
  title : screen.title = declared.title
  text : declared.text.Lists screen.text
  once : declared.scripts.once.Lists screen.scripts.once
  always : declared.scripts.always.Lists screen.scripts.always
  choices : List.Forall₂ ChoiceDeclaration.Offered declared.choices screen.choices

/-- A screen is shown as it is declared. -/
theorem ScreenDeclaration.shown_screen (declared : ScreenDeclaration) :
    declared.Shown declared.screen where
  name := rfl
  title := rfl
  text := declared.text.lists_toList
  once := declared.scripts.once.lists_toList
  always := declared.scripts.always.lists_toList
  choices := List.forall₂_map_right_iff.mpr
    (List.forall₂_same.mpr fun choice _ => choice.offered_choice)

/-- A fork leads on as it is declared. -/
structure ForkDeclaration.Leads (declared : ForkDeclaration) (fork : Fork) : Prop where
  condition : declared.condition.Lists fork.condition
  action : declared.action.Lists fork.action

/-- A relay routes as it is declared. -/
structure RelayDeclaration.Routes (declared : RelayDeclaration) (relay : Relay) : Prop where
  name : relay.name = declared.name
  once : declared.scripts.once.Lists relay.scripts.once
  always : declared.scripts.always.Lists relay.scripts.always
  forks : List.Forall₂ ForkDeclaration.Leads declared.forks relay.forks

/-- A relay routes as it is declared. -/
theorem RelayDeclaration.routes_relay (declared : RelayDeclaration) :
    declared.Routes declared.relay where
  name := rfl
  once := declared.scripts.once.lists_toList
  always := declared.scripts.always.lists_toList
  forks := List.forall₂_map_right_iff.mpr <| List.forall₂_same.mpr fun fork _ =>
    ⟨fork.condition.lists_toList, fork.action.lists_toList⟩

/-- What holds of every value and what it is mapped to holds of all entries of a registry. -/
theorem Registry.forall₂_entries_map {α β : Type} {R : α → β → Prop} {f : α → β}
    (h : ∀ a, R a (f a)) (r : Registry α) :
    List.Forall₂ (fun declared entry => entry.1 = declared.1 ∧ R declared.2 entry.2)
      r.entries (r.map f).entries :=
  List.forall₂_map_right_iff.mpr (List.forall₂_same.mpr fun entry _ => ⟨rfl, h entry.2⟩)

/-! ## Moving on by position -/

/-- Where there is a screen at the offset from the current one, `next` goes there. -/
theorem Play.dispatch_next {w : World} {s : State} {current : Nat} {offset : Amount}
    (hcurrent : s.current = some current)
    (hbound : current + offset.toNat < w.graph.screens.length) :
    Play.dispatch (.next offset) w s =
      (Play.go (.screen (current + offset.toNat)) w s).after
        [⟨.notice (.deed (.next offset.toNat (current + offset.toNat))), s⟩] := by
  show Play.next Play.go offset.toNat w s = _
  rw [Play.next, world_bind, state_bind, hcurrent]
  simp only [hbound, if_true, note_bind]

namespace Quest

variable (quest : Quest)

/-- The graph that comes of registering what a document declares, one thing after the other. -/
def registered : Graph :=
  let graph : Graph := { name := quest.name, title := quest.title, start := quest.start }
  let graph := quest.items.entries.foldl (fun g entry => g.addItem entry.1 entry.2) graph
  let graph := quest.recipes.entries.foldl (fun g entry => g.addDeclared entry.1 entry.2) graph
  let graph := quest.defaults.entries.foldl (fun g entry => g.addVariable entry.1 entry.2) graph
  let graph := quest.screens.foldl Graph.addScreen graph
  quest.relays.foldl Graph.addRelay graph

variable {quest}

/-- A declaration makes a recipe if it is well formed and all items that it names are declared. -/
theorem recipe?_eq_some_iff {name : String} {declaration : RecipeDeclaration} {recipe : Recipe} :
    quest.recipe? name declaration = some recipe ↔
      ∃ parts, declaration.parts = .ok parts ∧
        (∀ stack ∈ parts.ingredients ++ parts.results, quest.items.contains stack.item = true) ∧
        recipe = { name, ingredients := parts.ingredients, results := parts.results } := by
  unfold Quest.recipe?
  cases hparts : declaration.parts with
  | error reason => simp
  | ok parts =>
      -- the test counts undeclared items, the statement asks each item in turn
      have hdeclared : (quest.undeclaredItems parts).isEmpty = true ↔
          ∀ stack ∈ parts.ingredients ++ parts.results,
            quest.items.contains stack.item = true := by
        rw [List.isEmpty_iff, undeclaredItems, List.filter_eq_nil_iff, List.forall_mem_map]
        simp only [Bool.not_eq_true, Bool.not_eq_false']
      dsimp only
      constructor
      · intro h
        split at h
        · rename_i hempty
          cases h
          exact ⟨parts, rfl, hdeclared.mp hempty, rfl⟩
        · nomatch h
      · rintro ⟨parts', hparts', hall, rfl⟩
        cases hparts'
        rw [if_pos (hdeclared.mpr hall)]

/-- Where the items of the document are registered, a declaration is registered as the recipe that
it makes, if it makes one. -/
theorem addDeclared_eq {graph : Graph} (hitems : graph.items = quest.items) (name : String)
    (declaration : RecipeDeclaration) :
    graph.addDeclared name declaration =
      ((quest.recipe? name declaration).map graph.addRecipe).getD graph := by
  unfold Graph.addDeclared
  cases hparts : declaration.parts with
  | error reason => simp [Quest.recipe?, hparts]
  | ok parts =>
      dsimp only
      split
      · rename_i hall
        rw [List.all_eq_true] at hall
        have hdeclared : ∀ stack ∈ parts.ingredients ++ parts.results,
            quest.items.contains stack.item = true := fun stack hstack => by
          rw [← hitems]
          exact hall stack hstack
        rw [recipe?_eq_some_iff.mpr ⟨parts, hparts, hdeclared, rfl⟩]
        rfl
      · rename_i hall
        cases hrecipe : quest.recipe? name declaration with
        | none => rfl
        | some recipe =>
            -- a recipe that is made names declared items only
            obtain ⟨parts', hparts', hdeclared, -⟩ := recipe?_eq_some_iff.mp hrecipe
            cases hparts.symm.trans hparts'
            refine absurd (List.all_eq_true.mpr fun stack hstack => ?_) hall
            rw [Graph.hasItem, hitems]
            exact hdeclared stack hstack

/-- Registering declared recipes registers those that can be made, in the order of their names. -/
theorem addDeclared_foldl (entries : List (String × RecipeDeclaration)) :
    ∀ graph : Graph, graph.items = quest.items →
      entries.foldl (fun g entry => g.addDeclared entry.1 entry.2) graph =
        (entries.filterMap fun entry => quest.recipe? entry.1 entry.2).foldl Graph.addRecipe
          graph := by
  induction entries with
  | nil => exact fun _ _ => rfl
  | cons entry rest ih =>
      intro graph hitems
      rw [List.foldl_cons, addDeclared_eq hitems, List.filterMap_cons]
      cases quest.recipe? entry.1 entry.2 with
      | none => exact ih graph hitems
      | some recipe => exact ih (graph.addRecipe recipe) hitems

/-- **The graph of a document is what comes of registering all that it declares, one thing after
the other.** -/
theorem graph_eq_registered (quest : Quest) : quest.graph = quest.registered := by
  have hitems : quest.items.entries.foldl (fun r entry => r.insert entry.1 entry.2) .empty =
      quest.items := quest.items.ofList_entries
  have hdefaults : quest.defaults.entries.foldl (fun r entry => r.insert entry.1 entry.2) .empty =
      quest.defaults := quest.defaults.ofList_entries
  unfold registered Quest.graph recipeList
  dsimp only
  -- all items are there when the recipes are checked, so each check is against the document's
  rw [Graph.addItem_foldl, addDeclared_foldl quest.recipes.entries _ hitems,
    Graph.addRecipe_foldl, Graph.addRecipe_foldl, Graph.addVariable_foldl]
  dsimp only
  rw [hitems, hdefaults]

/-- The graph of a document is filled by registering, and so is as any other graph. -/
theorem graph_filled (quest : Quest) : quest.graph.Filled := by
  rw [graph_eq_registered]
  -- one fold for each kind of thing, each from what the one before it left
  refine List.foldlRecOn _ _ (List.foldlRecOn _ _ (List.foldlRecOn _ _ (List.foldlRecOn _ _
    (List.foldlRecOn _ _ (.blank ..) fun graph h entry _ => h.item ..) fun graph h entry _ => ?_)
    fun graph h entry _ => h.default ..) fun graph h screen _ => h.screen screen)
    fun graph h relay _ => h.relay relay
  unfold Graph.addDeclared
  split
  · split
    · exact h.recipe _
    · exact h
  · exact h

variable (quest)

/-- The graph field by field, but for the names of the screens. -/
theorem graph_eq :
    quest.graph =
      { name := quest.name
        title := quest.title
        start := quest.start
        items := quest.items
        recipes := quest.recipeList.foldl (fun r recipe => r.insert recipe.name recipe) .empty
        defaults := quest.defaults
        screens := quest.screens
        screenNames := quest.graph.screenNames
        relays := quest.relays.foldl (fun r relay => r.insert relay.name relay) .empty } := by
  unfold Quest.graph
  dsimp only
  -- each of the three loops adds to fields of its own and leaves the others alone
  rw [Graph.addRelay_foldl, Graph.addScreen_foldl, Graph.addRecipe_foldl]
  rfl

/-- The graph has the items of the document. -/
@[simp] theorem graph_items : quest.graph.items = quest.items :=
  congrArg Graph.items quest.graph_eq

/-- The graph has the defaults of the document. -/
@[simp] theorem graph_defaults : quest.graph.defaults = quest.defaults :=
  congrArg Graph.defaults quest.graph_eq

/-- The graph has the screens of the document in their order. -/
@[simp] theorem graph_screens : quest.graph.screens = quest.screens :=
  congrArg Graph.screens quest.graph_eq

/-- A name leads to the last relay that is declared under it. -/
theorem relay?_graph (name : String) :
    quest.graph.relay? name = (quest.relays.filter (·.name = name)).getLast? := by
  have hrelays := congrArg Graph.relays quest.graph_eq
  have hlast := Registry.get?_foldl_insert Relay.name id quest.relays name .empty
  rw [Graph.relay?, hrelays]
  simpa using hlast

/-- A name leads to the recipe that its declaration makes. -/
theorem recipe?_graph (name : String) :
    quest.graph.recipe? name = (quest.recipes.get? name).bind (quest.recipe? name) := by
  have hrecipes := congrArg Graph.recipes quest.graph_eq
  have hlast := Registry.get?_foldl_insert Recipe.name id quest.recipeList name .empty
  have hown : ∀ {own declaration recipe}, quest.recipe? own declaration = some recipe →
      recipe.name = own := by
    intro own declaration recipe hrecipe
    obtain ⟨parts, -, -, rfl⟩ := recipe?_eq_some_iff.mp hrecipe
    rfl
  have hfound := quest.recipes.getLast?_filter_filterMap quest.recipe? Recipe.name hown name
  rw [Graph.recipe?, hrecipes, ← hfound, ← recipeList]
  simpa using hlast

/-- The names of the screens lead to the last screens that have them. -/
theorem graph_namesLast : quest.graph.NamesLast := by
  refine Graph.of_registrations (motive := Graph.NamesLast) quest ⟨?_, ?_⟩
    (fun _ h _ _ => ⟨h.some_iff, h.none_iff⟩) (fun _ h screen _ => h.addScreen screen)
    (fun _ h _ _ => ⟨h.some_iff, h.none_iff⟩)
  · intro name index
    show none = some index ↔ Graph.LeadsTo [] name index
    simp [Graph.LeadsTo]
  · intro name
    show none = none ↔ name ∉ [].filterMap Screen.name
    simp

/-- Moving on by position reaches every screen, also one whose name was taken over. -/
theorem dispatch_next_graph (settings : Settings) {s : State} {current : Nat} {offset : Amount}
    (hcurrent : s.current = some current)
    (hbound : current + offset.toNat < quest.screens.length) :
    (∃ deed, Play.dispatch (.next offset) ⟨quest.graph, settings⟩ s =
      (Play.go (.screen (current + offset.toNat)) ⟨quest.graph, settings⟩ s).after
        [⟨.notice (.deed deed), s⟩]) ∧
    ((Play.dispatch (.next offset) ⟨quest.graph, settings⟩ s).result = .ok () →
      (Play.dispatch (.next offset) ⟨quest.graph, settings⟩ s).state.currentScreen?
        ⟨quest.graph, settings⟩ = quest.graph.screens[current + offset.toNat]?) := by
  rw [← graph_screens] at hbound
  -- screens are numbered as they stand in the document, so the next one is found by counting
  have hnext := Play.dispatch_next (w := ⟨quest.graph, settings⟩) hcurrent hbound
  refine ⟨⟨_, hnext⟩, fun hok => ?_⟩
  rw [hnext] at hok ⊢
  exact Play.currentScreen_of_go_ok hok

end Quest

namespace Document

/-- The name leads to this position of a document: the screen there has it, and no later one
does. -/
def LeadsTo (document : Document) (name : String) (index : Nat) : Prop :=
  document.screens[index]?.bind ScreenDeclaration.name = some name ∧
    ∀ later, index < later → document.screens[later]?.bind ScreenDeclaration.name ≠ some name

variable (document : Document)

/-- The story has the names of the document at the same positions. -/
theorem leadsTo_quest (name : String) (index : Nat) :
    Graph.LeadsTo document.quest.screens name index ↔ document.LeadsTo name index := by
  have hname (position : Nat) : document.quest.screens[position]?.bind Screen.name =
      document.screens[position]?.bind ScreenDeclaration.name := by
    show (document.screens.map ScreenDeclaration.screen)[position]?.bind Screen.name = _
    rw [List.getElem?_map, Option.bind_map]
    rfl
  simp only [Graph.LeadsTo, LeadsTo, hname]

theorem relay?_graph (name : String) :
    document.quest.graph.relay? name =
      (document.relays.filter (·.name = name)).getLast?.map RelayDeclaration.relay := by
  rw [Quest.relay?_graph]
  show ((document.relays.map RelayDeclaration.relay).filter (·.name = name)).getLast? = _
  rw [List.filter_map, List.getLast?_map]
  rfl

/-- **The graph is the document, the last declaration winning.** A document is read from data as
what they say. Its graph has the items with their titles, the variables with their values and the
screens in their order, each with the name, the title, the lines, the scripts and the choices that
are declared for it; a name leads to the last screen and the last relay that have it, and to the
recipe that its declaration makes, with the amounts in the declared order. A screen whose name was
taken over is still there for moving on by position. -/
theorem graph_is_document :
    let graph := document.quest.graph
    (∀ conv datum, Decode.document conv datum = some document ↔
      Datum.SaysDocument conv datum document) ∧
    graph = document.quest.registered ∧
    (graph.name = document.name ∧ graph.title = document.title ∧ graph.start = document.start) ∧
    List.Forall₂ (fun declared entry => entry.1 = declared.1 ∧ declared.2.Titled entry.2)
      document.items.entries graph.items.entries ∧
    List.Forall₂ (fun declared entry => entry.1 = declared.1 ∧ declared.2.Starts entry.2)
      document.defaults.entries graph.defaults.entries ∧
    List.Forall₂ ScreenDeclaration.Shown document.screens graph.screens ∧
    (∀ name index, graph.screenIndex? name = some index ↔ document.LeadsTo name index) ∧
    (∀ name, graph.screenIndex? name = none ↔
      ∀ screen ∈ document.screens, screen.name ≠ some name) ∧
    (∀ name, Option.Rel RelayDeclaration.Routes
      (document.relays.filter (·.name = name)).getLast? (graph.relay? name)) ∧
    (∀ name recipe, graph.recipe? name = some recipe ↔
      ∃ declaration parts, document.recipes.get? name = some declaration ∧
        declaration.parts = .ok parts ∧
        (∀ stack ∈ parts.ingredients ++ parts.results,
          document.items.contains stack.item = true) ∧
        recipe = { name, ingredients := parts.ingredients, results := parts.results }) ∧
    ∀ settings s current offset, s.current = some current →
      current + offset.toNat < document.screens.length →
      (∃ deed, Play.dispatch (.next offset) ⟨graph, settings⟩ s =
        (Play.go (.screen (current + offset.toNat)) ⟨graph, settings⟩ s).after
          [⟨.notice (.deed deed), s⟩]) ∧
      ((Play.dispatch (.next offset) ⟨graph, settings⟩ s).result = .ok () →
        (Play.dispatch (.next offset) ⟨graph, settings⟩ s).state.currentScreen?
          ⟨graph, settings⟩ = graph.screens[current + offset.toNat]?) := by
  have hnames := document.quest.graph_namesLast
  refine ⟨fun conv datum => Decode.document_reads conv datum document,
    document.quest.graph_eq_registered, ⟨?_, ?_, ?_⟩, ?_, ?_, ?_, fun name index => ?_,
    fun name => ?_, fun name => ?_, fun name recipe => ?_,
    fun settings s current offset hcurrent hbound => ?_⟩
  · exact congrArg Graph.name document.quest.graph_eq
  · exact congrArg Graph.title document.quest.graph_eq
  · exact congrArg Graph.start document.quest.graph_eq
  · rw [Quest.graph_items]
    exact Registry.forall₂_entries_map ItemDeclaration.titled_title document.items
  · rw [Quest.graph_defaults]
    exact Registry.forall₂_entries_map VariableDeclaration.starts_value document.defaults
  · rw [Quest.graph_screens]
    exact List.forall₂_map_right_iff.mpr
      (List.forall₂_same.mpr fun screen _ => screen.shown_screen)
  · rw [hnames.some_iff, Quest.graph_screens, leadsTo_quest]
  · rw [hnames.none_iff, Quest.graph_screens, List.mem_filterMap]
    simp [quest, ScreenDeclaration.screen]
  · rw [relay?_graph]
    cases (document.relays.filter (·.name = name)).getLast? with
    | none => exact .none
    | some declared => exact .some declared.routes_relay
  · rw [Quest.recipe?_graph, Option.bind_eq_some_iff]
    simp only [Quest.recipe?_eq_some_iff]
    -- an item is declared whatever its title is
    have hitem (item : String) :
        document.quest.items.contains item = document.items.contains item :=
      Registry.contains_map ItemDeclaration.title document.items item
    simp only [hitem]
    constructor
    · rintro ⟨declaration, hdeclaration, parts, hparts⟩
      exact ⟨declaration, parts, hdeclaration, hparts⟩
    · rintro ⟨declaration, parts, hdeclaration, hparts⟩
      exact ⟨declaration, hdeclaration, parts, hparts⟩
  · have hlength : document.quest.screens.length = document.screens.length := List.length_map _
    exact document.quest.dispatch_next_graph settings hcurrent (hlength ▸ hbound)

end Document

/-- A story that declares much twice, in all the forms that there are: a screen and a relay of one
name each, one recipe that is none and one with an item that is not there. -/
def Document.annex : Document where
  name := "annex"
  start := "hall"
  items := .ofList [("ore", .short "Ore"), ("ore", .detailed "Iron ore")]
  recipes := .ofList
    [("bar", .shorthand "ore + ore = ore"), ("ghost", .shorthand "ore = ghost"),
      ("stub", .shorthand "ore")]
  defaults := .ofList [("lit", .bool false)]
  screens :=
    [{ name := some "hall", title := "Old hall", text := .one "Dust." }, { title := "Passage" },
      { name := some "hall", title := "New hall", text := .many ["Light.", "Air."] }]
  relays := [{ name := "gate" }, { name := "gate", forks := [{ action := .one "exit" }] }]

/-- In the old hall, which no name leads to any more. -/
def State.inOldHall : State :=
  { State.initial ⟨Document.annex.quest.graph, {}⟩ with current := some 0 }

/-- The later hall is the one that its name leads to, the recipe with an unknown item is left out,
and the offset of `next` counts all screens. -/
theorem annex_is_document :
    let graph := Document.annex.quest.graph
    graph.screenIndex? "hall" = some 2 ∧
      graph.relay? "gate" = some { name := "gate", forks := [{ action := ["exit"] }] } ∧
      graph.recipe? "bar" =
        some { name := "bar", ingredients := [⟨"ore", 2⟩], results := [⟨"ore", 1⟩] } ∧
      graph.recipe? "ghost" = none ∧
      (graph.screens.map Screen.text) = [["Dust."], [], ["Light.", "Air."]] ∧
      State.inOldHall.current = some 0 ∧
      (Play.dispatch (.next 0) ⟨graph, {}⟩ State.inOldHall).result = .ok () ∧
      (Play.dispatch (.next 0) ⟨graph, {}⟩ State.inOldHall).state.currentScreen? ⟨graph, {}⟩ =
        some { name := some "hall", title := "Old hall", text := ["Dust."] } := by
  intro graph
  obtain ⟨-, -, -, -, -, hscreens, hindex, -, -, hrecipe, hnext⟩ :=
    Document.annex.graph_is_document
  have hlast : Document.annex.LeadsTo "hall" 2 := by
    refine ⟨rfl, fun later hlater => ?_⟩
    have hbeyond : Document.annex.screens.length ≤ later := hlater
    simp [List.getElem?_eq_none hbeyond]
  have hbar : (RecipeDeclaration.shorthand "ore + ore = ore").parts =
      .ok ⟨[⟨"ore", 2⟩], [⟨"ore", 1⟩]⟩ := by cbv
  have hghost : graph.recipe? "ghost" = none := by cbv
  have hok : (Play.dispatch (.next 0) ⟨graph, {}⟩ State.inOldHall).result = .ok () := by cbv
  -- the texts of all screens at once, from the relation between the lists
  have htexts : List.Forall₂ (· = ·) (Document.annex.screens.map (·.text.toList))
      (graph.screens.map Screen.text) := by
    rw [List.forall₂_map_left_iff, List.forall₂_map_right_iff]
    exact hscreens.imp fun _ _ h => Lines.lists_iff.mp h.text
  rw [List.forall₂_eq_eq_eq] at htexts
  refine ⟨(hindex "hall" 2).mpr hlast, by cbv, (hrecipe "bar" _).mpr ⟨_, _, by cbv, hbar, ?_, rfl⟩,
    hghost, htexts.symm, rfl, hok, (hnext {} State.inOldHall 0 0 rfl (by decide)).2 hok⟩
  intro stack hstack
  have hore : stack.item = "ore" := by
    rcases List.mem_cons.mp hstack with rfl | hstack
    · rfl
    · exact congrArg Stack.item (List.mem_singleton.mp hstack)
  rw [hore]
  cbv

end Narrative
