import Mathlib
import Narrative.Proofs.Lint

/-!
# What the warnings of a graph say

The checks of a graph go through a list of sites. Here the sites are held against the places that
scripts stand at, and the warnings against what is wrong there.

* **`Graph.mem_sites_iff`** — the sites are the scripts of the screens, the choices, the relays and
  the forks, and nothing else.
* **`Graph.places_nodup`** — no two sites are at the same place.
* **`Graph.commandProblem?_eq_some_iff`** — the problems of sources are the ways in which a graph
  refuses them.
* **`Graph.reported_lint`** — every refused command has one warning of its own.
* **`Graph.reports_at_place`** — what the graph has to say about the commands at a place is one
  warning for each command there that is refused.
* **`Graph.varCount_le_count_lint`** — so has every reading of an unknown variable.
-/

namespace Narrative

variable {graph : Graph} {place : ScriptPlace} {condition : Condition} {script : Script}
  {source name : String}

/-! ## Places -/

/-- What stands at the places of a graph: a script behind a guard. Scripts without a guard have the
empty one. -/
inductive Graph.Places (graph : Graph) : ScriptPlace → Condition → Script → Prop
  | screenOnce {index : Nat} {screen : Screen} (h : graph.screen? index = some screen) :
      Places graph (.screen index screen.label .once) [] screen.scripts.once
  | screenAlways {index : Nat} {screen : Screen} (h : graph.screen? index = some screen) :
      Places graph (.screen index screen.label .always) [] screen.scripts.always
  | choice {index number : Nat} {screen : Screen} {choice : Choice}
      (h : graph.screen? index = some screen) (hchoice : screen.choices[number]? = some choice) :
      Places graph (.choice index screen.label number choice.title) choice.condition choice.action
  | relayOnce {name : String} {relay : Relay} (h : graph.relay? name = some relay) :
      Places graph (.relay relay.name .once) [] relay.scripts.once
  | relayAlways {name : String} {relay : Relay} (h : graph.relay? name = some relay) :
      Places graph (.relay relay.name .always) [] relay.scripts.always
  | fork {name : String} {number : Nat} {relay : Relay} {fork : Fork}
      (h : graph.relay? name = some relay) (hfork : relay.forks[number]? = some fork) :
      Places graph (.fork relay.name number) fork.condition fork.action

theorem mem_mapIdx_iff {α β : Type} {f : Nat → α → β} {xs : List α} {y : β} :
    y ∈ xs.mapIdx f ↔ ∃ i x, xs[i]? = some x ∧ f i x = y := by
  rw [List.mem_mapIdx]
  constructor
  · rintro ⟨i, hi, heq⟩
    exact ⟨i, xs[i], List.getElem?_eq_getElem hi, heq⟩
  · rintro ⟨i, x, hget, heq⟩
    obtain ⟨hi, rfl⟩ := List.getElem?_eq_some_iff.mp hget
    exact ⟨i, hi, heq⟩

namespace Registry

variable {α : Type} {r : Registry α} {value : α}

/-- An entry is found under its name, as no other entry has that name. -/
theorem get?_of_mem_entries (h : (name, value) ∈ r.entries) : r.get? name = some value := by
  obtain ⟨front, rest, heq⟩ := List.append_of_mem h
  refine List.lookup_eq_some_iff.mpr ⟨front, rest, heq, fun entry hentry => ?_⟩
  have hsorted := r.sorted
  rw [heq] at hsorted
  have hbelow : entry.1 < name :=
    (List.pairwise_append.mp hsorted).2.2 entry hentry (name, value) List.mem_cons_self
  exact bne_iff_ne.mpr fun hsame => String.lt_irrefl name (hsame ▸ hbelow)

/-- The entries are what is found under their names. -/
theorem mem_entries_iff : (name, value) ∈ r.entries ↔ r.get? name = some value :=
  ⟨get?_of_mem_entries, mem_entries_of_get?⟩

/-- The names are those under which something is found. -/
theorem mem_names_iff : name ∈ r.names ↔ r.contains name = true := by
  rw [names, contains, Option.isSome_iff_exists, List.mem_map]
  simp only [← mem_entries_iff, Prod.exists, exists_and_right, exists_eq_right]

end Registry

/-- The sites of a screen: its two scripts and its choices. -/
theorem Screen.mem_sites_iff {screen : Screen} {index : Nat} {site : ScriptSite} :
    site ∈ screen.sites index ↔
      site = ⟨.screen index screen.label .once, [], screen.scripts.once⟩ ∨
      site = ⟨.screen index screen.label .always, [], screen.scripts.always⟩ ∨
      ∃ number choice, screen.choices[number]? = some choice ∧
        ⟨.choice index screen.label number choice.title, choice.condition, choice.action⟩ =
          site := by
  rw [Screen.sites, List.mem_cons, List.mem_cons, mem_mapIdx_iff]

/-- The sites of a relay: its two scripts and its forks. -/
theorem Relay.mem_sites_iff {relay : Relay} {site : ScriptSite} :
    site ∈ relay.sites ↔
      site = ⟨.relay relay.name .once, [], relay.scripts.once⟩ ∨
      site = ⟨.relay relay.name .always, [], relay.scripts.always⟩ ∨
      ∃ number fork, relay.forks[number]? = some fork ∧
        ⟨.fork relay.name number, fork.condition, fork.action⟩ = site := by
  rw [Relay.sites, List.mem_cons, List.mem_cons, mem_mapIdx_iff]

namespace Graph

/-- **The sites are the places.** Nothing is left out, and nothing else is looked at. -/
theorem mem_sites_iff : ⟨place, condition, script⟩ ∈ graph.sites ↔
    graph.Places place condition script := by
  constructor
  · intro h
    rcases List.mem_append.mp h with h | h
    · obtain ⟨sites, hsites, hmem⟩ := List.mem_flatten.mp h
      obtain ⟨index, screen, hscreen, rfl⟩ := mem_mapIdx_iff.mp hsites
      rcases Screen.mem_sites_iff.mp hmem with hsite | hsite | ⟨number, choice, hchoice, hsite⟩
      · cases hsite
        exact .screenOnce hscreen
      · cases hsite
        exact .screenAlways hscreen
      · cases hsite
        exact .choice hscreen hchoice
    · obtain ⟨⟨name, relay⟩, hentry, hmem⟩ := List.mem_flatMap.mp h
      have hrelay : graph.relay? name = some relay := Registry.get?_of_mem_entries hentry
      rcases Relay.mem_sites_iff.mp hmem with hsite | hsite | ⟨number, fork, hfork, hsite⟩
      · cases hsite
        exact .relayOnce hrelay
      · cases hsite
        exact .relayAlways hrelay
      · cases hsite
        exact .fork hrelay hfork
  · intro h
    -- each place of the relation is a site of its screen or relay
    cases h with
    | screenOnce h => exact mem_sites_of_screen? h _ (Screen.mem_sites_iff.mpr (.inl rfl))
    | screenAlways h => exact mem_sites_of_screen? h _ (Screen.mem_sites_iff.mpr (.inr (.inl rfl)))
    | choice h hchoice =>
        exact mem_sites_of_screen? h _
          (Screen.mem_sites_iff.mpr (.inr (.inr ⟨_, _, hchoice, rfl⟩)))
    | relayOnce h => exact mem_sites_of_relay? h _ (Relay.mem_sites_iff.mpr (.inl rfl))
    | relayAlways h => exact mem_sites_of_relay? h _ (Relay.mem_sites_iff.mpr (.inr (.inl rfl)))
    | fork h hfork =>
        exact mem_sites_of_relay? h _ (Relay.mem_sites_iff.mpr (.inr (.inr ⟨_, _, hfork, rfl⟩)))

end Graph

/-! ## Every place is looked at once -/

/-- What tells apart the screens and relays that places belong to: the position of a screen, or the
name of a relay. -/
def ScriptPlace.owner : ScriptPlace → Nat ⊕ String
  | .screen index _ _ | .choice index _ _ _ => .inl index
  | .relay name _ | .fork name _ => .inr name

theorem pairwise_mapIdx {α β : Type} {f : Nat → α → β} {R : β → β → Prop}
    (h : ∀ i j x y, i < j → R (f i x) (f j y)) (xs : List α) : (xs.mapIdx f).Pairwise R := by
  rw [List.pairwise_iff_getElem]
  intro i j hi hj hlt
  rw [List.getElem_mapIdx, List.getElem_mapIdx]
  exact h i j _ _ hlt

/-- Two scripts and a numbered list of others are at places of their own, if the two are told apart
from each other and from all others, and these by their numbers. -/
theorem ScriptSite.pairwise_cons_cons_mapIdx {α : Type} {once always : ScriptSite}
    {numbered : Nat → α → ScriptSite} (hstages : once.place ≠ always.place)
    (honce : ∀ i x, once.place ≠ (numbered i x).place)
    (halways : ∀ i x, always.place ≠ (numbered i x).place)
    (hnumbers : ∀ i j x y, i < j → (numbered i x).place ≠ (numbered j y).place) (xs : List α) :
    (once :: always :: xs.mapIdx numbered).Pairwise (·.place ≠ ·.place) := by
  rw [List.pairwise_cons, List.pairwise_cons]
  refine ⟨fun site hsite => ?_, fun site hsite => ?_, pairwise_mapIdx ?_ xs⟩
  · rcases List.mem_cons.mp hsite with rfl | hnumbered
    · exact hstages
    · obtain ⟨number, x, -, rfl⟩ := mem_mapIdx_iff.mp hnumbered
      exact honce number x
  · obtain ⟨number, x, -, rfl⟩ := mem_mapIdx_iff.mp hsite
    exact halways number x
  · exact hnumbers

namespace Screen

variable {screen : Screen} {index : Nat} {site : ScriptSite}

theorem owner_of_mem_sites (h : site ∈ screen.sites index) : site.place.owner = .inl index := by
  rcases mem_sites_iff.mp h with rfl | rfl | ⟨number, choice, -, rfl⟩ <;> rfl

/-- The choices of a screen have their numbers, and its own scripts are no choices. -/
theorem places_nodup (screen : Screen) (index : Nat) :
    (screen.sites index).Pairwise (·.place ≠ ·.place) := by
  refine ScriptSite.pairwise_cons_cons_mapIdx (by simp) (by simp) (by simp) ?_ _
  intro number other choice choice' hlt heq
  exact Nat.ne_of_lt hlt (ScriptPlace.choice.inj heq).2.2.1

end Screen

namespace Relay

variable {relay : Relay} {site : ScriptSite}

theorem owner_of_mem_sites (h : site ∈ relay.sites) : site.place.owner = .inr relay.name := by
  rcases mem_sites_iff.mp h with rfl | rfl | ⟨number, fork, -, rfl⟩ <;> rfl

/-- The forks of a relay have their numbers, and its own scripts are no forks. -/
theorem places_nodup (relay : Relay) : relay.sites.Pairwise (·.place ≠ ·.place) := by
  refine ScriptSite.pairwise_cons_cons_mapIdx (by simp) (by simp) (by simp) ?_ _
  intro number other fork fork' hlt heq
  exact Nat.ne_of_lt hlt (ScriptPlace.fork.inj heq).2

end Relay

namespace Graph

/-- **No place is looked at twice**, in a graph that was filled by registering: what is within one
screen or relay is told apart there, and no two screens have a position in common and no two relays
a name. -/
theorem places_nodup (h : graph.Filled) : (graph.sites.map (·.place)).Nodup := by
  rw [List.Nodup, List.pairwise_map, sites, List.pairwise_append, List.pairwise_flatten,
    List.pairwise_flatMap]
  refine ⟨⟨?_, pairwise_mapIdx ?_ _⟩, ⟨fun entry _ => entry.2.places_nodup, ?_⟩, ?_⟩
  · intro sites hsites
    obtain ⟨index, screen, -, rfl⟩ := mem_mapIdx_iff.mp hsites
    exact screen.places_nodup index
  · intro index other screen screen' hlt site hsite site' hsite' heq
    have howner := congrArg ScriptPlace.owner heq
    rw [Screen.owner_of_mem_sites hsite, Screen.owner_of_mem_sites hsite'] at howner
    exact Nat.ne_of_lt hlt (Sum.inl.inj howner)
  · -- the entries are in the order of their names, which are those of the relays
    refine graph.relays.sorted.imp_of_mem fun hentry hother hlt site hsite site' hsite' heq => ?_
    have howner := congrArg ScriptPlace.owner heq
    rw [Relay.owner_of_mem_sites hsite, Relay.owner_of_mem_sites hsite',
      h.name_of_relay? (Registry.get?_of_mem_entries hentry),
      h.name_of_relay? (Registry.get?_of_mem_entries hother)] at howner
    exact String.lt_irrefl _ (Sum.inr.inj howner ▸ hlt)
  · intro site hsite site' hsite' heq
    obtain ⟨sites, hsites, hmem⟩ := List.mem_flatten.mp hsite
    obtain ⟨index, screen, -, rfl⟩ := mem_mapIdx_iff.mp hsites
    obtain ⟨entry, -, hmem'⟩ := List.mem_flatMap.mp hsite'
    have howner := congrArg ScriptPlace.owner heq
    rw [Screen.owner_of_mem_sites hmem, Relay.owner_of_mem_sites hmem'] at howner
    nomatch howner

/-! ## Warnings about commands -/

/-- The graph refuses the source: what the checks have to say about it, and how it fails. -/
inductive Refuses (graph : Graph) (source : String) : ScriptProblem → ActionError → Prop
  | unreadable {error : CommandError} (h : Command.parse source = .error error) :
      Refuses graph source (.badCommand source error) (.command error)
  | jump {screen : String} (h : Command.parse source = .ok (.jump screen))
      (hunknown : graph.screenIndex? screen = none) :
      Refuses graph source (.unknownTarget source .screen screen) (.unknownScreen screen)
  | relay {name : String} (h : Command.parse source = .ok (.relay name))
      (hunknown : graph.relays.contains name = false) :
      Refuses graph source (.unknownTarget source .relay name) (.unknownRelay name)
  | give {item : String} {amount : Amount} (h : Command.parse source = .ok (.give item amount))
      (hunknown : graph.hasItem item = false) :
      Refuses graph source (.unknownTarget source .item item) (.unknownItem item)
  | consume {item : String} {amount : Amount}
      (h : Command.parse source = .ok (.consume item amount))
      (hunknown : graph.hasItem item = false) :
      Refuses graph source (.unknownTarget source .item item) (.unknownItem item)
  | unlock {recipe : String} (h : Command.parse source = .ok (.unlock recipe))
      (hunknown : graph.recipes.contains recipe = false) :
      Refuses graph source (.unknownTarget source .recipe recipe) (.unknownRecipe recipe)
  | lock {recipe : String} (h : Command.parse source = .ok (.lock recipe))
      (hunknown : graph.recipes.contains recipe = false) :
      Refuses graph source (.unknownTarget source .recipe recipe) (.unknownRecipe recipe)
  | set {name expression : String} {assignment : Assignment} {error : ExprError}
      (h : Command.parse source = .ok (.set name assignment expression))
      (hexpression : Expr.parse expression = .error error) :
      Refuses graph source (.badExpression source error) (.expr error)

/-- A problem is reported exactly where something was not found. -/
theorem problemUnless_eq_some {found : Bool} {problem reported : ScriptProblem} :
    problemUnless found problem = some reported ↔ found = false ∧ problem = reported := by
  cases found <;> simp [problemUnless]

/-- A command with a problem is refused. -/
theorem exists_refuses_of_problem {problem : ScriptProblem}
    (h : graph.commandProblem? source = some problem) :
    ∃ error, graph.Refuses source problem error := by
  unfold commandProblem? at h
  cases hparse : Command.parse source with
  | error error =>
      rw [hparse] at h
      cases h
      exact ⟨_, .unreadable hparse⟩
  | ok command =>
      rw [hparse] at h
      cases command with
      | message text => nomatch h
      | exit => nomatch h
      | next offset => nomatch h
      | jump screen =>
          -- a verb that names something is refused where that is not there
          obtain ⟨hunknown, rfl⟩ := problemUnless_eq_some.mp h
          have hnone := Option.not_isSome_iff_eq_none.mp (ne_true_of_eq_false hunknown)
          exact ⟨_, .jump hparse hnone⟩
      | relay name =>
          obtain ⟨hunknown, rfl⟩ := problemUnless_eq_some.mp h
          exact ⟨_, .relay hparse hunknown⟩
      | give item amount =>
          obtain ⟨hunknown, rfl⟩ := problemUnless_eq_some.mp h
          exact ⟨_, .give hparse hunknown⟩
      | consume item amount =>
          obtain ⟨hunknown, rfl⟩ := problemUnless_eq_some.mp h
          exact ⟨_, .consume hparse hunknown⟩
      | unlock recipe =>
          obtain ⟨hunknown, rfl⟩ := problemUnless_eq_some.mp h
          exact ⟨_, .unlock hparse hunknown⟩
      | lock recipe =>
          obtain ⟨hunknown, rfl⟩ := problemUnless_eq_some.mp h
          exact ⟨_, .lock hparse hunknown⟩
      | set name assignment expression =>
          dsimp only at h
          cases hexpression : Expr.parse expression with
          | ok e => rw [hexpression] at h; nomatch h
          | error error =>
              rw [hexpression] at h
              cases h
              exact ⟨_, .set hparse hexpression⟩

/-- A command that is refused has the problem that is reported for it. -/
theorem Refuses.problem_eq {problem : ScriptProblem} {error : ActionError}
    (h : graph.Refuses source problem error) : graph.commandProblem? source = some problem := by
  unfold commandProblem?
  cases h with
  | unreadable h => rw [h]
  | jump h hunknown => rw [h]; simp [hunknown, problemUnless]
  | relay h hunknown => rw [h]; simp [hunknown, problemUnless]
  | give h hunknown => rw [h]; simp [hunknown, problemUnless]
  | consume h hunknown => rw [h]; simp [hunknown, problemUnless]
  | unlock h hunknown => rw [h]; simp [hunknown, problemUnless]
  | lock h hunknown => rw [h]; simp [hunknown, problemUnless]
  | set h hexpression => rw [h]; simp [hexpression]

/-- **The checks find the problems of the sources that the graph refuses**, and no others. -/
theorem commandProblem?_eq_some_iff {problem : ScriptProblem} :
    graph.commandProblem? source = some problem ↔ ∃ error, graph.Refuses source problem error :=
  ⟨exists_refuses_of_problem, fun ⟨_, h⟩ => h.problem_eq⟩

/-- The warnings about the commands of a script, in order: one for each that is refused. -/
inductive Reports (graph : Graph) (place : ScriptPlace) : Script → List LoadWarning → Prop
  | nil : Reports graph place [] []
  | refused {source : String} {rest : Script} {problem : ScriptProblem} {error : ActionError}
      {warnings : List LoadWarning} (h : graph.Refuses source problem error)
      (hrest : Reports graph place rest warnings) :
      Reports graph place (source :: rest) (.script place problem :: warnings)
  | accepted {source : String} {rest : Script} {warnings : List LoadWarning}
      (h : ∀ problem error, ¬ graph.Refuses source problem error)
      (hrest : Reports graph place rest warnings) :
      Reports graph place (source :: rest) warnings

/-- The problems of the commands are reported one by one, in the order of the script. -/
theorem reports_commandProblems (graph : Graph) (place : ScriptPlace) (script : Script) :
    graph.Reports place script ((script.filterMap graph.commandProblem?).map (.script place)) := by
  induction script with
  | nil => exact .nil
  | cons source rest ih =>
      rw [List.filterMap_cons]
      -- at most one warning for a source, in the order of the script
      cases hproblem : graph.commandProblem? source with
      | none =>
          refine .accepted (fun problem error h => ?_) ih
          rw [h.problem_eq] at hproblem
          nomatch hproblem
      | some problem =>
          obtain ⟨error, h⟩ := commandProblem?_eq_some_iff.mp hproblem
          exact .refused h ih

end Graph

/-- Whether a problem is one of guards and not of commands. -/
def ScriptProblem.isOfGuard : ScriptProblem → Bool
  | .badGuard _ | .undefinedVariable _ _ => true
  | _ => false

/-- Whether a warning is about a command at this place. -/
def LoadWarning.isOfCommandAt (place : ScriptPlace) : LoadWarning → Bool
  | .script own problem => own = place && !problem.isOfGuard
  | .flaw _ => false

namespace Graph

/-- The problems of a guard are of the kinds that are about guards. -/
theorem isOfGuard_of_mem_guardProblems {known : List String} {problem : ScriptProblem}
    (h : problem ∈ guardProblems known source) : problem.isOfGuard = true := by
  unfold guardProblems at h
  cases hparse : Expr.parse source with
  | ok e =>
      rw [hparse] at h
      obtain ⟨name, -, rfl⟩ := List.mem_map.mp h
      rfl
  | error error =>
      rw [hparse] at h
      rw [List.mem_singleton.mp h]
      rfl

/-- The problems of a command are of the kinds that are about commands. -/
theorem isOfGuard_of_commandProblem? {problem : ScriptProblem}
    (h : graph.commandProblem? source = some problem) : problem.isOfGuard = false := by
  obtain ⟨error, hrefuses⟩ := commandProblem?_eq_some_iff.mp h
  cases hrefuses <;> rfl

/-- The warnings about some sites, in order: at each site those about the guard come first, and
then those about the commands. -/
inductive Reported (graph : Graph) : List ScriptSite → List LoadWarning → Prop
  | nil : Reported graph [] []
  | site {site : ScriptSite} {rest : List ScriptSite} {guard : List ScriptProblem}
      {commands warnings : List LoadWarning} (hguard : ∀ problem ∈ guard, problem.isOfGuard = true)
      (hcommands : graph.Reports site.place site.script commands)
      (hrest : Reported graph rest warnings) :
      Reported graph (site :: rest) (guard.map (.script site.place) ++ commands ++ warnings)

/-- **Every refused command has one warning**, and the others have none. -/
theorem reported_lint (graph : Graph) : graph.Reported graph.sites graph.lint := by
  unfold lint
  induction graph.sites with
  | nil => exact .nil
  | cons site rest ih =>
      rw [List.flatMap_cons, siteWarnings, List.map_append]
      refine .site (fun problem hproblem => ?_) (reports_commandProblems _ _ _) ih
      obtain ⟨source, -, hmem⟩ := List.mem_flatMap.mp hproblem
      exact isOfGuard_of_mem_guardProblems hmem

/-- At another place there is no warning about the commands of this one. -/
theorem filter_siteWarnings_of_ne {known : List String} {site : ScriptSite}
    (h : site.place ≠ place) :
    (graph.siteWarnings known site).filter (·.isOfCommandAt place) = [] := by
  refine List.filter_eq_nil_iff.mpr fun warning hwarning => ?_
  obtain ⟨problem, -, rfl⟩ := List.mem_map.mp hwarning
  simp [LoadWarning.isOfCommandAt, h]

/-- Of the warnings about a site, those about the commands are the problems of the sources. -/
theorem filter_siteWarnings_self (graph : Graph) (known : List String) (site : ScriptSite) :
    (graph.siteWarnings known site).filter (·.isOfCommandAt site.place) =
      (site.script.filterMap graph.commandProblem?).map (.script site.place) := by
  -- the kinds of the problems keep those of the guard and those of the script apart
  have hguard : ∀ problem ∈ site.condition.flatMap (guardProblems known),
      problem.isOfGuard = true := fun problem hproblem => by
    obtain ⟨source, -, hmem⟩ := List.mem_flatMap.mp hproblem
    exact isOfGuard_of_mem_guardProblems hmem
  have hcommand : ∀ problem ∈ site.script.filterMap graph.commandProblem?,
      problem.isOfGuard = false := fun problem hproblem => by
    obtain ⟨source, -, hsource⟩ := List.mem_filterMap.mp hproblem
    exact isOfGuard_of_commandProblem? hsource
  rw [siteWarnings, List.map_append, List.filter_append, List.filter_map, List.filter_map,
    List.filter_eq_nil_iff.mpr, List.filter_eq_self.mpr]
  · rfl
  · intro problem hproblem
    simp [LoadWarning.isOfCommandAt, hcommand problem hproblem]
  · intro problem hproblem
    simp [LoadWarning.isOfCommandAt, hguard problem hproblem]

/-- **At every place there is one warning for each command that is refused there**, in the order of
the commands, and none for the others. -/
theorem reports_at_place (h : graph.Filled) (hplaces : graph.Places place condition script) :
    graph.Reports place script (graph.lint.filter (·.isOfCommandAt place)) := by
  -- the place has one site, and the sites around it are at other places
  obtain ⟨front, rest, hsites⟩ := List.append_of_mem (mem_sites_iff.mpr hplaces)
  have hnodup := places_nodup h
  rw [hsites, List.map_append, List.map_cons, List.nodup_append, List.nodup_cons] at hnodup
  obtain ⟨-, ⟨hrest, -⟩, hfront⟩ := hnodup
  have hnone : ∀ site, site ∈ front ∨ site ∈ rest →
      (graph.siteWarnings graph.knownVariables site).filter (·.isOfCommandAt place) = [] := by
    rintro site (hsite | hsite)
    · exact filter_siteWarnings_of_ne
        (hfront _ (List.mem_map_of_mem hsite) _ List.mem_cons_self)
    · exact filter_siteWarnings_of_ne fun heq => hrest (List.mem_map.mpr ⟨site, hsite, heq⟩)
  have hlint : graph.lint.filter (·.isOfCommandAt place) =
      (script.filterMap graph.commandProblem?).map (.script place) := by
    rw [lint, hsites, List.flatMap_append, List.flatMap_cons, List.filter_append,
      List.filter_append, List.filter_flatMap, List.filter_flatMap,
      List.flatMap_eq_nil_iff.mpr fun site hsite => hnone site (.inl hsite),
      List.flatMap_eq_nil_iff.mpr fun site hsite => hnone site (.inr hsite),
      List.nil_append, List.append_nil]
    exact filter_siteWarnings_self graph _ ⟨place, condition, script⟩
  rw [hlint]
  exact reports_commandProblems graph place script

end Graph

/-! ## Warnings about variables -/

/-- How often a tree reads a variable. -/
def Expr.varCount (name : String) : Expr → Nat
  | .literal _ => 0
  | .access .var other => if other = name then 1 else 0
  | .access .item _ => 0
  | .unary _ operand => operand.varCount name
  | .binary _ lhs rhs => lhs.varCount name + rhs.varCount name

/-- A variable is named as often as it is read. -/
theorem Expr.count_variableNames (name : String) (e : Expr) :
    e.variableNames.count name = e.varCount name := by
  unfold variableNames
  induction e with
  | literal value => rfl
  | access accessor other =>
      cases accessor with
      | item => rfl
      | var =>
          rw [reads, if_pos rfl, varCount, List.count_singleton]
          simp only [beq_iff_eq]
  | unary op operand ih => exact ih
  | binary op lhs rhs ihleft ihright => rw [reads, List.count_append, ihleft, ihright, varCount]

namespace Graph

theorem mem_flatMap_setTarget {sites : List ScriptSite} :
    (name ∈ sites.flatMap fun site => site.script.filterMap setTarget?) ↔
      ∃ site ∈ sites, ∃ source ∈ site.script, ∃ assignment expression,
        Command.parse source = .ok (.set name assignment expression) := by
  have htarget (source : String) : setTarget? source = some name ↔
      ∃ assignment expression, Command.parse source = .ok (.set name assignment expression) := by
    unfold setTarget?
    split
    · rename_i other assignment expression hparse
      rw [hparse]
      simp
    · rename_i hother
      simp only [reduceCtorEq, false_iff, not_exists]
      exact fun assignment expression hparse => hother _ _ _ hparse
  simp only [List.mem_flatMap, List.mem_filterMap, htarget]

/-- **The known variables** are those with a default and those that some script sets. -/
theorem mem_knownVariables_iff :
    name ∈ graph.knownVariables ↔ graph.defaults.contains name = true ∨
      ∃ place condition script, graph.Places place condition script ∧
        ∃ source ∈ script, ∃ assignment expression,
          Command.parse source = .ok (.set name assignment expression) := by
  rw [knownVariables, List.mem_append, Registry.mem_names_iff, mem_flatMap_setTarget]
  refine or_congr Iff.rfl ⟨?_, ?_⟩
  · rintro ⟨site, hsite, hset⟩
    exact ⟨site.place, site.condition, site.script, mem_sites_iff.mp hsite, hset⟩
  · rintro ⟨place, condition, script, hplaces, hset⟩
    exact ⟨⟨place, condition, script⟩, mem_sites_iff.mpr hplaces, hset⟩

/-- Every reading of an unknown variable is a problem of its own. -/
theorem count_guardProblems {known : List String} {e : Expr} (hparse : Expr.parse source = .ok e)
    (hunknown : name ∉ known) :
    (guardProblems known source).count (.undefinedVariable source name) = e.varCount name := by
  have hinj : Function.Injective (ScriptProblem.undefinedVariable source) :=
    fun _ _ h => (ScriptProblem.undefinedVariable.inj h).2
  have hkept : (e.variableNames.filter (!known.contains ·)).count name =
      e.variableNames.count name := List.count_filter (by simpa using hunknown)
  rw [guardProblems, hparse]
  dsimp only
  rw [List.count_map_of_injective _ _ hinj, hkept, Expr.count_variableNames]

theorem count_le_count_flatMap {α β : Type} [BEq β] {f : α → List β} {xs : List α} {x : α}
    (h : x ∈ xs) (y : β) : (f x).count y ≤ (xs.flatMap f).count y := by
  obtain ⟨front, rest, rfl⟩ := List.append_of_mem h
  rw [List.flatMap_append, List.flatMap_cons, List.count_append, List.count_append]
  omega

/-- **Every reading of an unknown variable has a warning.** -/
theorem varCount_le_count_lint {e : Expr} (hplaces : graph.Places place condition script)
    (hsource : source ∈ condition) (hparse : Expr.parse source = .ok e)
    (hunknown : name ∉ graph.knownVariables) :
    e.varCount name ≤ graph.lint.count (.script place (.undefinedVariable source name)) := by
  -- the place is the same for all of them, so warnings of a site are counted by their problems
  have hinj : Function.Injective (LoadWarning.script place) :=
    fun _ _ h => (LoadWarning.script.inj h).2
  let problem : ScriptProblem := .undefinedVariable source name
  calc e.varCount name
      = (guardProblems graph.knownVariables source).count problem :=
        (count_guardProblems hparse hunknown).symm
    _ ≤ (condition.flatMap (guardProblems graph.knownVariables)).count problem :=
        count_le_count_flatMap hsource problem
    _ ≤ (condition.flatMap (guardProblems graph.knownVariables) ++
          script.filterMap graph.commandProblem?).count problem :=
        (List.sublist_append_left _ _).count_le problem
    _ = (graph.siteWarnings graph.knownVariables ⟨place, condition, script⟩).count
          (.script place problem) := (List.count_map_of_injective _ _ hinj problem).symm
    _ ≤ graph.lint.count (.script place problem) :=
        count_le_count_flatMap (mem_sites_iff.mpr hplaces) _

/-- **Warnings about variables name unknown ones**, and guards that read them. -/
theorem undefinedVariable_mem_lint
    (h : .script place (.undefinedVariable source name) ∈ graph.lint) :
    name ∉ graph.knownVariables ∧ ∃ condition script, graph.Places place condition script ∧
      source ∈ condition ∧ ∃ e, Expr.parse source = .ok e ∧ 0 < e.varCount name := by
  obtain ⟨site, hsite, hwarning⟩ := List.mem_flatMap.mp h
  obtain ⟨problem, hproblem, heq⟩ := List.mem_map.mp hwarning
  obtain ⟨rfl, rfl⟩ := LoadWarning.script.inj heq
  rcases List.mem_append.mp hproblem with hguard | hcommand
  · obtain ⟨other, hother, hmem⟩ := List.mem_flatMap.mp hguard
    unfold guardProblems at hmem
    cases hparse : Expr.parse other with
    | error error =>
        rw [hparse] at hmem
        nomatch List.mem_singleton.mp hmem
    | ok e =>
        -- the name was found among those of the expression that are not known
        rw [hparse] at hmem
        obtain ⟨found, hfound, hname⟩ := List.mem_map.mp hmem
        obtain ⟨rfl, rfl⟩ := ScriptProblem.undefinedVariable.inj hname
        obtain ⟨hreads, hunknown⟩ := List.mem_filter.mp hfound
        refine ⟨by simpa using hunknown, site.condition, site.script, mem_sites_iff.mp hsite,
          hother, e, hparse, ?_⟩
        rw [← Expr.count_variableNames]
        exact List.count_pos_iff.mpr hreads
  · -- the problems of commands are of other kinds
    obtain ⟨other, -, hother⟩ := List.mem_filterMap.mp hcommand
    nomatch isOfGuard_of_commandProblem? hother

end Graph

end Narrative
