import Mathlib
import Narrative.Proofs.Registration
import Narrative.Proofs.Warning

/-!
# What the report says about what was built

The report about a document and its graph are made apart from one another: the report is read off
the document, and the graph comes of registering one thing after the other. They agree nevertheless.
A declared recipe is missing in the graph if and only if the report says why, and the repeated names
in the report are those of the registrations that replaced something.

* **`Quest.reported`** — what is read off the flaws in the report; `Quest.reported_eq` is the report
  by its parts.
* **`Quest.reported_missingItem`** — the undeclared items of one recipe, told apart from those of
  all other recipes by the text of their place.
* **`repeatedNames_eq_repeats`**, **`Graph.map_replacing`** — the repeated names by position and by
  registration, both by induction on what is still to come.
-/

namespace Narrative

variable {α β : Type} {name : String}

namespace Registry

/-- What is read off the entries comes from a single one if all others give nothing. -/
theorem flatMap_entries_of_get? {r : Registry α} {value : α} {read : String → α → List β}
    (h : r.get? name = some value) (hother : ∀ own other, own ≠ name → read own other = []) :
    (r.entries.flatMap fun entry => read entry.1 entry.2) = read name value := by
  obtain ⟨front, rest, heq⟩ := List.append_of_mem (mem_entries_of_get? h)
  have hsorted := r.sorted
  rw [heq] at hsorted
  obtain ⟨-, hrest, hacross⟩ := List.pairwise_append.mp hsorted
  -- the other entries are below or above this one, so they have other names
  have hbelow : (front.flatMap fun entry => read entry.1 entry.2) = [] :=
    List.flatMap_eq_nil_iff.mpr fun entry hentry => hother _ _ fun hsame =>
      String.lt_irrefl name (hsame ▸ hacross entry hentry (name, value) List.mem_cons_self)
  have habove : (rest.flatMap fun entry => read entry.1 entry.2) = [] :=
    List.flatMap_eq_nil_iff.mpr fun entry hentry => hother _ _ fun hsame =>
      String.lt_irrefl name (hsame ▸ (List.pairwise_cons.mp hrest).1 entry hentry)
  rw [heq, List.flatMap_append, List.flatMap_cons, hbelow, habove, List.nil_append,
    List.append_nil]

end Registry

/-! ## Names that repeat -/

/-- The names that things have in common with a thing in front of them, in order. -/
def repeats (key : α → Option String) (things : List α) : List String :=
  things.zipIdx.filterMap fun entry =>
    (key entry.1).filter fun name => name ∈ (things.take entry.2).filterMap key

/-- What was seen is what the things in front are called. Induction on the things that are left. -/
theorem repeatedNames_eq_filterMap (key : α → Option String) (rest : List α) :
    ∀ front seen, (∀ name, name ∈ seen ↔ name ∈ front.filterMap key) →
      repeatedNames seen (rest.filterMap key) =
        (rest.zipIdx front.length).filterMap fun entry =>
          (key entry.1).filter fun name =>
            name ∈ ((front ++ rest).take entry.2).filterMap key := by
  induction rest with
  | nil => exact fun _ _ _ => rfl
  | cons thing rest ih =>
      intro front seen hseen
      have hsplit : front ++ thing :: rest = (front ++ [thing]) ++ rest := by simp
      have hlength : front.length + 1 = (front ++ [thing]).length := by simp
      -- the names in front of the next thing: those seen so far and that of this one
      have hnext (name : String) :
          name ∈ (front ++ [thing]).filterMap key ↔ name ∈ seen ∨ key thing = some name := by
        rw [hseen, List.filterMap_append, List.mem_append, List.mem_filterMap]
        simp
      rw [List.zipIdx_cons, List.filterMap_cons, List.filterMap_cons, List.take_left, hsplit,
        hlength]
      cases hkey : key thing with
      | none =>
          refine ih (front ++ [thing]) seen fun name => ?_
          rw [hnext, hkey]
          simp
      | some own =>
          rw [repeatedNames, Option.filter_some]
          by_cases hown : own ∈ seen
          · rw [if_pos hown, if_pos (by simpa using (hseen own).mp hown)]
            refine congrArg _ (ih (front ++ [thing]) seen fun name => ?_)
            rw [hnext, hkey, Option.some.injEq]
            exact ⟨.inl, fun h => h.elim id fun hsame => hsame ▸ hown⟩
          · rw [if_neg hown, if_neg (by simpa using mt (hseen own).mpr hown)]
            refine ih (front ++ [thing]) (own :: seen) fun name => ?_
            rw [hnext, hkey, Option.some.injEq, List.mem_cons, eq_comm, or_comm]

/-- The names that are repeated are the names of the things that repeat one. -/
theorem repeatedNames_eq_repeats (key : α → Option String) (things : List α) :
    repeatedNames [] (things.filterMap key) = repeats key things :=
  repeatedNames_eq_filterMap key things [] [] fun _ => .rfl

namespace Graph

/-- Of things that are registered one after the other, those that replace something. -/
def replacing (replaces : Graph → α → Bool) (add : Graph → α → Graph) :
    Graph → List α → List α
  | _, [] => []
  | graph, thing :: rest =>
    if replaces graph thing then thing :: replacing replaces add (add graph thing) rest
    else replacing replaces add (add graph thing) rest

/-- Whether a relay would take over the name of an earlier one. -/
def repeatsRelay (graph : Graph) (relay : Relay) : Bool := graph.relays.contains relay.name

/-- Where things are registered under their names and replace what has the same name, the names of
those that replace something are the repeated ones. Induction on the things that are left: what was
seen is what is registered. -/
theorem map_replacing {key : α → Option String} {registered : Graph → String → Bool}
    {replaces : Graph → α → Bool} {add : Graph → α → Graph}
    (hreplaces : ∀ graph thing, replaces graph thing = (key thing).any (registered graph))
    (hadd : ∀ graph thing name, registered (add graph thing) name = true ↔
      key thing = some name ∨ registered graph name = true) (things : List α) :
    ∀ graph seen, (∀ name, name ∈ seen ↔ registered graph name = true) →
      (graph.replacing replaces add things).map key =
        (repeatedNames seen (things.filterMap key)).map some := by
  induction things with
  | nil => exact fun _ _ _ => rfl
  | cons thing rest ih =>
      intro graph seen hseen
      rw [replacing, hreplaces, List.filterMap_cons]
      cases hkey : key thing with
      | none =>
          refine ih (add graph thing) seen fun name => ?_
          rw [hseen, hadd, hkey]
          simp
      | some own =>
          rw [Option.any_some, repeatedNames]
          by_cases hown : own ∈ seen
          · -- the name is there already, so registering it again adds no name
            rw [if_pos hown, if_pos ((hseen own).mp hown), List.map_cons, List.map_cons, hkey]
            refine congrArg _ (ih (add graph thing) seen fun name => ?_)
            rw [hadd, hkey, ← hseen, Option.some.injEq]
            exact ⟨.inr, fun h => h.elim (fun hsame => hsame ▸ hown) id⟩
          · rw [if_neg hown, if_neg (mt (hseen own).mpr hown)]
            refine ih (add graph thing) (own :: seen) fun name => ?_
            rw [hadd, hkey, ← hseen, Option.some.injEq, List.mem_cons, eq_comm]

/-- The screens that replace something when they are registered. -/
theorem map_replacing_screens {graph : Graph} (hnames : graph.screenNames = .empty)
    (screens : List Screen) :
    (graph.replacing repeatsScreen addScreen screens).map Screen.name =
      (repeatedNames [] (screens.filterMap Screen.name)).map some := by
  refine map_replacing (fun _ _ => rfl) (fun graph screen name => ?_) screens graph []
    fun name => ?_
  · -- a name is taken after a screen was added iff it is the name of the screen or was taken before
    show ((graph.addScreen screen).screenIndex? name).isSome = true ↔ _
    rw [screenIndex?_addScreen]
    split
    · rename_i hname
      simp [hname]
    · rename_i hname
      exact ⟨.inr, fun h => h.resolve_left hname⟩
  · -- and no name is taken at first
    rw [hnames]
    simp [Registry.contains]

/-- The relays that replace something when they are registered. -/
theorem map_replacing_relays {graph : Graph} (hrelays : graph.relays = .empty)
    (relays : List Relay) :
    (graph.replacing repeatsRelay addRelay relays).map Relay.name =
      repeatedNames [] (relays.map Relay.name) := by
  -- every relay has a name, so the case of things without one does not come up
  have hall : (graph.replacing repeatsRelay addRelay relays).map (fun relay => some relay.name) =
      (repeatedNames [] (relays.filterMap fun relay => some relay.name)).map some := by
    refine map_replacing (fun _ _ => rfl) (fun graph relay name => ?_) relays graph []
      fun name => ?_
    · show ((graph.relays.insert relay.name relay).get? name).isSome = true ↔ _
      rw [Registry.get?_insert]
      split
      · rename_i hname
        simp [hname]
      · rename_i hname
        rw [Option.some.injEq]
        exact ⟨.inr, fun h => h.resolve_left fun hsame => hname hsame.symm⟩
    · rw [hrelays]
      simp [Registry.contains]
  rw [List.filterMap_eq_map'] at hall
  refine List.map_injective_iff.mpr (Option.some_injective _) ?_
  rw [List.map_map]
  exact hall

end Graph

/-! ## Reading the report -/

/-- The flaw that a warning is about, if it is not about a script. -/
def LoadWarning.flaw? : LoadWarning → Option Flaw
  | .flaw found => some found
  | .script _ _ => none

namespace Flaw

variable {flaw : Flaw}

/-- The name that repeats according to a flaw of this kind. -/
def duplicate? (kind : EntryKind) : Flaw → Option String
  | .duplicate found name => if found = kind then some name else none
  | _ => none

/-- The item that is missing according to a flaw at the place with this text. -/
def missingItem? (context : String) : Flaw → Option String
  | .missingReference .item item place => if place.text = context then some item else none
  | _ => none

/-- Why this recipe is malformed according to a flaw. -/
def malformed? (recipe : String) : Flaw → Option ShorthandError
  | .malformedRecipe found reason => if found = recipe then some reason else none
  | _ => none

/-- Which flaws are read as a missing item. -/
theorem missingItem?_eq_some_iff {context item : String} :
    flaw.missingItem? context = some item ↔
      ∃ place, flaw = .missingReference .item item place ∧ place.text = context := by
  constructor
  · intro h
    unfold missingItem? at h
    split at h
    · split at h
      · rename_i place htext
        cases h
        exact ⟨place, rfl, htext⟩
      · nomatch h
    · nomatch h
  · rintro ⟨place, rfl, htext⟩
    exact if_pos htext

/-- Which flaws are read as a malformed recipe. -/
theorem malformed?_eq_some_iff {recipe : String} {reason : ShorthandError} :
    flaw.malformed? recipe = some reason ↔ flaw = .malformedRecipe recipe reason := by
  constructor
  · intro h
    unfold malformed? at h
    split at h
    · split at h
      · rename_i hfound
        cases h
        rw [hfound]
      · nomatch h
    · nomatch h
  · rintro rfl
    exact if_pos rfl

end Flaw

/-- The texts of the places of two recipes differ. -/
theorem ReferencePlace.text_recipe_injective {own other : String}
    (h : (ReferencePlace.recipe own).text = (ReferencePlace.recipe other).text) : own = other :=
  (String.append_right_inj _).mp ((String.append_left_inj _).mp h)

namespace Quest

variable (quest : Quest)

/-- What is read off the flaws in the report about a document. -/
def reported (read : Flaw → Option β) : List β :=
  quest.warnings.filterMap fun warning => warning.flaw?.bind read

variable {quest} {read : Flaw → Option β}

/-- What is reported was read off a warning. -/
theorem mem_reported {value : β} :
    value ∈ quest.reported read ↔
      ∃ flaw, .flaw flaw ∈ quest.warnings ∧ read flaw = some value := by
  rw [reported, List.mem_filterMap]
  constructor
  · rintro ⟨warning, hmem, hread⟩
    cases warning with
    | flaw flaw => exact ⟨flaw, hmem, hread⟩
    | script place problem => nomatch hread
  · rintro ⟨flaw, hmem, hread⟩
    exact ⟨_, hmem, hread⟩

/-- The warnings about scripts are not about flaws, so only the flaws of the document are read. -/
theorem reported_eq_flaws (read : Flaw → Option β) :
    quest.reported read = quest.flaws.filterMap read := by
  have hlint : quest.graph.lint.filterMap (fun warning => warning.flaw?.bind read) = [] := by
    refine List.filterMap_eq_nil_iff.mpr fun warning hmem => ?_
    obtain ⟨site, -, hwarning⟩ := List.mem_flatMap.mp hmem
    obtain ⟨problem, -, rfl⟩ := List.mem_map.mp hwarning
    rfl
  rw [reported, warnings, List.filterMap_append, hlint, List.append_nil, List.filterMap_map]
  rfl

/-- What is read of repeated names and of recipes, where nothing is read of other flaws. -/
theorem reported_eq (hname : ∀ missing, read (.missingName missing) = none)
    (hscreen : ∀ name place, read (.missingReference .screen name place) = none) :
    quest.reported read =
      (repeatedNames [] quest.screenNames).filterMap (fun name => read (.duplicate .screen name)) ++
      (repeatedNames [] quest.relayNames).filterMap (fun name => read (.duplicate .relay name)) ++
      quest.recipes.entries.flatMap fun entry =>
        (quest.recipeFlaws entry.1 entry.2).filterMap read := by
  have hquest : (if isBlankName quest.name then [Flaw.missingName .quest] else []).filterMap read =
      [] := by
    split
    · rw [List.filterMap_cons, hname]
      rfl
    · rfl
  have hstart : quest.startFlaws.filterMap read = [] := by
    unfold startFlaws
    split
    · rw [List.filterMap_cons, hname]
      rfl
    · split
      · rfl
      · rw [List.filterMap_cons, hscreen]
        rfl
  -- the only flaw of a relay is its missing name
  have hrelays : quest.relayFlaws.filterMap read = [] := by
    refine List.filterMap_eq_nil_iff.mpr fun flaw hmem => ?_
    obtain ⟨flaws, hflaws, hflaw⟩ := List.mem_flatten.mp hmem
    obtain ⟨index, relay, -, rfl⟩ := mem_mapIdx_iff.mp hflaws
    split at hflaw
    · rw [List.mem_singleton.mp hflaw, hname]
    · nomatch hflaw
  rw [reported_eq_flaws, flaws]
  simp only [List.filterMap_append, hquest, hstart, hrelays, List.append_nil, List.filterMap_map,
    List.filterMap_flatMap]
  rfl

/-- What can be said of a recipe. -/
theorem recipeFlaws_cases {declaration : RecipeDeclaration} {flaw : Flaw}
    (h : flaw ∈ quest.recipeFlaws name declaration) :
    (∃ item, flaw = .missingReference .item item (.recipe name)) ∨
      ∃ reason, flaw = .malformedRecipe name reason := by
  unfold recipeFlaws at h
  split at h
  · obtain ⟨item, -, rfl⟩ := List.mem_map.mp h
    exact .inl ⟨item, rfl⟩
  · rename_i reason _
    exact .inr ⟨reason, List.mem_singleton.mp h⟩

/-! ### Repeated names -/

/-- Nothing that is said of a recipe is about repeated names. -/
theorem duplicate?_recipeFlaws (kind : EntryKind) :
    (quest.recipes.entries.flatMap fun entry =>
      (quest.recipeFlaws entry.1 entry.2).filterMap (Flaw.duplicate? kind)) = [] := by
  refine List.flatMap_eq_nil_iff.mpr fun entry _ => List.filterMap_eq_nil_iff.mpr ?_
  intro flaw hflaw
  obtain ⟨item, rfl⟩ | ⟨reason, rfl⟩ := recipeFlaws_cases hflaw <;> rfl

/-- Duplicate screens are reported once for each screen that repeats a name. -/
theorem reported_duplicate_screen :
    quest.reported (Flaw.duplicate? .screen) = repeats Screen.name quest.screens := by
  rw [reported_eq (fun _ => rfl) (fun _ _ => rfl), duplicate?_recipeFlaws, List.append_nil,
    ← repeatedNames_eq_repeats]
  simp [Flaw.duplicate?, screenNames]

/-- Duplicate relays are reported once for each relay that repeats a name. -/
theorem reported_duplicate_relay :
    quest.reported (Flaw.duplicate? .relay) =
      repeats (fun relay => some relay.name) quest.relays := by
  rw [reported_eq (fun _ => rfl) (fun _ _ => rfl), duplicate?_recipeFlaws, List.append_nil,
    ← repeatedNames_eq_repeats]
  simp [Flaw.duplicate?, relayNames]

/-! ### Recipes -/

section

variable {declaration : RecipeDeclaration} (h : quest.recipes.get? name = some declaration)
include h

/-- What is said of one recipe, where nothing is read of the others. -/
theorem reported_recipe (hname : ∀ missing, read (.missingName missing) = none)
    (hscreen : ∀ name place, read (.missingReference .screen name place) = none)
    (hduplicate : ∀ kind name, read (.duplicate kind name) = none)
    (hother : ∀ own declaration, own ≠ name →
      (quest.recipeFlaws own declaration).filterMap read = []) :
    quest.reported read = (quest.recipeFlaws name declaration).filterMap read := by
  rw [reported_eq hname hscreen, Registry.flatMap_entries_of_get? h hother]
  simp [hduplicate]

/-- The undeclared items of a recipe are reported in the order in which it names them. -/
theorem reported_missingItem :
    quest.reported (Flaw.missingItem? ("recipe '" ++ name ++ "'")) =
      match declaration.parts with
      | .ok parts => quest.undeclaredItems parts
      | .error _ => [] := by
  rw [reported_recipe h (fun _ => rfl) (fun _ _ => rfl) (fun _ _ => rfl)]
  · unfold recipeFlaws
    cases declaration.parts with
    | error reason => rfl
    | ok parts =>
        have hread : Flaw.missingItem? ("recipe '" ++ name ++ "'") ∘
            (fun item => .missingReference .item item (.recipe name)) = some :=
          funext fun item => if_pos rfl
        dsimp only
        rw [List.filterMap_map, hread, List.filterMap_some]
  · -- the texts of two recipes differ, so nothing is read off the flaws of another one
    intro own other hown
    refine List.filterMap_eq_nil_iff.mpr fun flaw hflaw => ?_
    obtain ⟨item, rfl⟩ | ⟨reason, rfl⟩ := recipeFlaws_cases hflaw
    · exact if_neg fun htext => hown (ReferencePlace.text_recipe_injective htext)
    · rfl

/-- A recipe that cannot be read is reported with the reason. -/
theorem reported_malformed :
    quest.reported (Flaw.malformed? name) =
      match declaration.parts with
      | .ok _ => []
      | .error reason => [reason] := by
  rw [reported_recipe h (fun _ => rfl) (fun _ _ => rfl) (fun _ _ => rfl)]
  · unfold recipeFlaws
    cases declaration.parts with
    | error reason => simp [Flaw.malformed?]
    | ok parts =>
        dsimp only
        rw [List.filterMap_map]
        exact List.filterMap_eq_nil_iff.mpr fun _ _ => rfl
  · -- the flaws of another recipe carry its own name
    intro own other hown
    refine List.filterMap_eq_nil_iff.mpr fun flaw hflaw => ?_
    obtain ⟨item, rfl⟩ | ⟨reason, rfl⟩ := recipeFlaws_cases hflaw
    · rfl
    · exact if_neg hown

/-- A declared recipe is not in the graph if and only if something is said of it. -/
theorem recipe?_graph_eq_none_iff :
    quest.graph.recipe? name = none ↔
      quest.reported (Flaw.malformed? name) ≠ [] ∨
        quest.reported (Flaw.missingItem? ("recipe '" ++ name ++ "'")) ≠ [] := by
  rw [recipe?_graph, h, Option.bind_some, reported_malformed h, reported_missingItem h]
  unfold Quest.recipe?
  cases declaration.parts with
  | error reason => simp
  | ok parts => simp

end

/-- A recipe is reported as malformed exactly if there is a warning that says so. -/
theorem exists_malformedRecipe_iff :
    quest.reported (Flaw.malformed? name) ≠ [] ↔
      ∃ reason, .flaw (.malformedRecipe name reason) ∈ quest.warnings := by
  rw [Ne, List.eq_nil_iff_forall_not_mem, not_forall_not]
  simp only [mem_reported, Flaw.malformed?_eq_some_iff, exists_eq_right]

/-- A place is reported to miss an item exactly if there is a warning that says so. -/
theorem exists_missingReference_iff {context : String} :
    quest.reported (Flaw.missingItem? context) ≠ [] ↔
      ∃ item place, .flaw (.missingReference .item item place) ∈ quest.warnings ∧
        place.text = context := by
  rw [Ne, List.eq_nil_iff_forall_not_mem, not_forall_not]
  simp only [mem_reported, Flaw.missingItem?_eq_some_iff]
  constructor
  · rintro ⟨item, flaw, hmem, place, rfl, htext⟩
    exact ⟨item, place, hmem, htext⟩
  · rintro ⟨item, place, hmem, htext⟩
    exact ⟨item, _, hmem, place, rfl, htext⟩

/-! ### Registrations that replace something -/

variable (quest)

/-- The graph before any place is registered. -/
def withoutPlaces : Graph :=
  let graph : Graph := { name := quest.name, title := quest.title, start := quest.start }
  let graph := quest.items.entries.foldl (fun g entry => g.addItem entry.1 entry.2) graph
  let graph := quest.recipes.entries.foldl (fun g entry => g.addDeclared entry.1 entry.2) graph
  quest.defaults.entries.foldl (fun g entry => g.addVariable entry.1 entry.2) graph

/-- The graph before any relay is registered. -/
def withoutRelays : Graph := quest.screens.foldl Graph.addScreen quest.withoutPlaces

/-- The relays are registered last. -/
theorem graph_eq_addRelay : quest.graph = quest.relays.foldl Graph.addRelay quest.withoutRelays :=
  quest.graph_eq_registered

/-- Before the screens are registered, no name leads anywhere. -/
theorem withoutPlaces_bare :
    quest.withoutPlaces.screenNames = .empty ∧ quest.withoutPlaces.relays = .empty := by
  have hitems : quest.items.entries.foldl (fun r entry => r.insert entry.1 entry.2) .empty =
      quest.items := quest.items.ofList_entries
  unfold withoutPlaces
  dsimp only
  rw [Graph.addItem_foldl, addDeclared_foldl quest.recipes.entries _ hitems,
    Graph.addRecipe_foldl, Graph.addVariable_foldl]
  exact ⟨rfl, rfl⟩

/-- Before the relays are registered, there are none. -/
theorem relays_withoutRelays : quest.withoutRelays.relays = .empty := by
  rw [withoutRelays, Graph.addScreen_foldl]
  exact quest.withoutPlaces_bare.2

/-- **The report and the graph agree.** A declared recipe is missing in the graph if and only if it
is reported to be malformed or to name an item that is not declared; these items are reported one by
one, ingredients first. The repeated names of screens and of relays are reported in declared order,
one for each registration that replaced something while the graph was built. -/
theorem report_agrees_with_graph :
    (∀ name declaration, quest.recipes.get? name = some declaration →
      (quest.graph.recipe? name = none ↔
        (∃ reason, .flaw (.malformedRecipe name reason) ∈ quest.warnings) ∨
          ∃ item place, .flaw (.missingReference .item item place) ∈ quest.warnings ∧
            place.text = "recipe '" ++ name ++ "'") ∧
      (∀ parts, declaration.parts = .ok parts →
        quest.reported (Flaw.malformed? name) = [] ∧
          quest.reported (Flaw.missingItem? ("recipe '" ++ name ++ "'")) =
            ((parts.ingredients ++ parts.results).map Stack.item).filter
              fun item => !quest.items.contains item) ∧
      ∀ reason, declaration.parts = .error reason →
        quest.reported (Flaw.malformed? name) = [reason] ∧
          quest.reported (Flaw.missingItem? ("recipe '" ++ name ++ "'")) = []) ∧
    quest.graph = quest.relays.foldl Graph.addRelay quest.withoutRelays ∧
    (quest.reported (Flaw.duplicate? .screen) = repeats Screen.name quest.screens ∧
      (quest.withoutPlaces.replacing Graph.repeatsScreen Graph.addScreen quest.screens).map
        Screen.name = (quest.reported (Flaw.duplicate? .screen)).map some) ∧
    quest.reported (Flaw.duplicate? .relay) =
        repeats (fun relay => some relay.name) quest.relays ∧
      (quest.withoutRelays.replacing Graph.repeatsRelay Graph.addRelay quest.relays).map
        Relay.name = quest.reported (Flaw.duplicate? .relay) := by
  refine ⟨fun name declaration h => ⟨?_, fun parts hparts => ?_, fun reason hparts => ?_⟩,
    quest.graph_eq_addRelay, ⟨reported_duplicate_screen, ?_⟩, reported_duplicate_relay, ?_⟩
  · -- a recipe is left out if it cannot be read, or names an item that is not there
    rw [recipe?_graph_eq_none_iff h, exists_malformedRecipe_iff, exists_missingReference_iff]
  · rw [reported_malformed h, reported_missingItem h, hparts]
    exact ⟨rfl, rfl⟩
  · rw [reported_malformed h, reported_missingItem h, hparts]
    exact ⟨rfl, rfl⟩
  · rw [Graph.map_replacing_screens quest.withoutPlaces_bare.1, reported_duplicate_screen,
      repeatedNames_eq_repeats]
  · rw [Graph.map_replacing_relays quest.relays_withoutRelays, reported_duplicate_relay,
      ← repeatedNames_eq_repeats, List.filterMap_eq_map']

end Quest

/-- A story where one recipe names two items that are not there, one of them on both sides, and one
recipe is none. -/
def Quest.smithy : Quest where
  name := "smithy"
  start := "hearth"
  items := .ofList [("coal", "Coal")]
  recipes := .ofList
    [("ash", .shorthand "coal"), ("sword", .shorthand "iron + coal + iron = sword + iron")]
  screens :=
    [{ name := some "hearth" }, {}, { name := some "hearth" }, { name := some "yard" },
      { name := some "hearth" }]
  relays := [{ name := "bellows" }, { name := "bellows" }]

/-- A smithy with a recipe that is no shorthand, one that names unknown items, a screen declared
three times and a relay declared twice. -/
theorem smithy_agrees_with_graph :
    Quest.smithy.graph.recipe? "ash" = none ∧
      Quest.smithy.reported (Flaw.malformed? "ash") = [.missingEquals "coal"] ∧
      Quest.smithy.graph.recipe? "sword" = none ∧
      Quest.smithy.reported (Flaw.missingItem? "recipe 'sword'") = ["iron", "sword", "iron"] ∧
      Quest.smithy.reported (Flaw.duplicate? .screen) = ["hearth", "hearth"] ∧
      Quest.smithy.reported (Flaw.duplicate? .relay) = ["bellows"] := by
  obtain ⟨hrecipes, -, ⟨hscreens, -⟩, hrelays, -⟩ := Quest.smithy.report_agrees_with_graph
  have hash : Quest.smithy.recipes.get? "ash" = some (.shorthand "coal") := by cbv
  have hsword : Quest.smithy.recipes.get? "sword" =
      some (.shorthand "iron + coal + iron = sword + iron") := by cbv
  have hmalformed : (RecipeDeclaration.shorthand "coal").parts =
      .error (.missingEquals "coal") := by cbv
  have hparts : (RecipeDeclaration.shorthand "iron + coal + iron = sword + iron").parts =
      .ok ⟨[⟨"iron", 2⟩, ⟨"coal", 1⟩], [⟨"sword", 1⟩, ⟨"iron", 1⟩]⟩ := by cbv
  obtain ⟨hashGone, -, hashError⟩ := hrecipes "ash" _ hash
  obtain ⟨hswordGone, hswordParts, -⟩ := hrecipes "sword" _ hsword
  have hashFlaw := (hashError _ hmalformed).1
  have hswordFlaws : Quest.smithy.reported (Flaw.missingItem? "recipe 'sword'") =
      ["iron", "sword", "iron"] := (hswordParts _ hparts).2.trans (by cbv)
  refine ⟨hashGone.mpr (.inl ?_), hashFlaw, hswordGone.mpr (.inr ?_), hswordFlaws,
    hscreens.trans (by cbv), hrelays.trans (by cbv)⟩
  · exact Quest.exists_malformedRecipe_iff.mp (hashFlaw ▸ List.cons_ne_nil _ _)
  · exact Quest.exists_missingReference_iff.mp (hswordFlaws ▸ List.cons_ne_nil _ _)

end Narrative
