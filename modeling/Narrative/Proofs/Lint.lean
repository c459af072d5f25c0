import Narrative.Proofs.Build

/-!
# What it means that a graph has no warnings

The checks of a graph look at every script and every guard that a play can come to, so a graph
without warnings is `Graph.Clean`: all of them can be read, and all that they name is there.

* **`Graph.mem_sites_of_screen?`, `Graph.mem_sites_of_relay?`** — no script and no guard is
  forgotten.
* **`Graph.commandProblem?_eq_none`** — a command without a problem is one that resolves.
* **`Choice.available_of_readable`, `Fork.first_of_readable`** — guards that can be read have a
  value in every context.
-/

namespace Narrative

variable {graph : Graph}

/-! ## Every script has its site -/

/-- Something with this guard and this script is among the sites. -/
def HasSite (sites : List ScriptSite) (condition : Condition) (script : Script) : Prop :=
  ∃ site ∈ sites, site.condition = condition ∧ site.script = script

namespace Screen

variable (screen : Screen) (index : Nat)

/-- The script that a screen runs once is among its sites. -/
theorem hasSite_once : HasSite (screen.sites index) [] screen.scripts.once :=
  ⟨_, List.mem_cons_self, rfl, rfl⟩

/-- The script that a screen always runs is among its sites. -/
theorem hasSite_always : HasSite (screen.sites index) [] screen.scripts.always :=
  ⟨_, List.mem_cons_of_mem _ List.mem_cons_self, rfl, rfl⟩

/-- The guard and the action of each choice are a site of the screen. -/
theorem hasSite_choice {choice : Choice} (h : choice ∈ screen.choices) :
    HasSite (screen.sites index) choice.condition choice.action := by
  obtain ⟨number, hnumber, hget⟩ := List.mem_iff_getElem.mp h
  let site : ScriptSite :=
    ⟨.choice index screen.label number choice.title, choice.condition, choice.action⟩
  refine ⟨site, List.mem_cons_of_mem _ (List.mem_cons_of_mem _ ?_), rfl, rfl⟩
  exact List.mem_mapIdx.mpr ⟨number, hnumber, by rw [hget]⟩

end Screen

namespace Relay

variable (relay : Relay)

/-- The script that a relay runs once is among its sites. -/
theorem hasSite_once : HasSite relay.sites [] relay.scripts.once :=
  ⟨_, List.mem_cons_self, rfl, rfl⟩

/-- The script that a relay always runs is among its sites. -/
theorem hasSite_always : HasSite relay.sites [] relay.scripts.always :=
  ⟨_, List.mem_cons_of_mem _ List.mem_cons_self, rfl, rfl⟩

/-- The guard and the action of each fork are a site of the relay. -/
theorem hasSite_fork {fork : Fork} (h : fork ∈ relay.forks) :
    HasSite relay.sites fork.condition fork.action := by
  obtain ⟨number, hnumber, hget⟩ := List.mem_iff_getElem.mp h
  let site : ScriptSite := ⟨.fork relay.name number, fork.condition, fork.action⟩
  refine ⟨site, List.mem_cons_of_mem _ (List.mem_cons_of_mem _ ?_), rfl, rfl⟩
  exact List.mem_mapIdx.mpr ⟨number, hnumber, by rw [hget]⟩

end Relay

/-- What is among some sites is among all sites. -/
theorem HasSite.mono {sites others : List ScriptSite} {condition : Condition} {script : Script}
    (h : HasSite sites condition script) (hsub : ∀ site ∈ sites, site ∈ others) :
    HasSite others condition script := by
  obtain ⟨site, hsite, hboth⟩ := h
  exact ⟨site, hsub site hsite, hboth⟩

namespace Graph

/-- The sites of each screen are sites of the graph. -/
theorem mem_sites_of_screen? {index : Nat} {screen : Screen}
    (h : graph.screen? index = some screen) : ∀ site ∈ screen.sites index, site ∈ graph.sites := by
  intro site hsite
  obtain ⟨hindex, rfl⟩ := List.getElem?_eq_some_iff.mp h
  refine List.mem_append_left _ (List.mem_flatten.mpr ⟨_, ?_, hsite⟩)
  exact List.mem_mapIdx.mpr ⟨index, hindex, rfl⟩

/-- The sites of each relay are sites of the graph. -/
theorem mem_sites_of_relay? {name : String} {relay : Relay} (h : graph.relay? name = some relay) :
    ∀ site ∈ relay.sites, site ∈ graph.sites := by
  intro site hsite
  have hentry := Registry.mem_entries_of_get? h
  exact List.mem_append_right _ (List.mem_flatMap.mpr ⟨(name, relay), hentry, hsite⟩)

end Graph

/-! ## Clean graphs -/

/-- Whether everything that the command names is there. -/
def Command.ResolvesIn (graph : Graph) : Command → Prop
  | .jump screen => (graph.screenIndex? screen).isSome = true
  | .relay name => graph.relays.contains name = true
  | .give item _ | .consume item _ => graph.hasItem item = true
  | .unlock recipe | .lock recipe => graph.recipes.contains recipe = true
  | .set _ _ expression => ∃ e, Expr.parse expression = .ok e
  | .message _ | .exit | .next _ => True

/-- Whether every expression of the guard can be read. -/
def Condition.Readable (condition : Condition) : Prop :=
  ∀ source ∈ condition, ∃ e, Expr.parse source = .ok e

namespace Graph

/-- A reference has a problem exactly if it was not found. -/
theorem problemUnless_eq_none {found : Bool} {problem : ScriptProblem} :
    problemUnless found problem = none ↔ found = true := by
  cases found <;> simp [problemUnless]

/-- **A source has no problem if it is a command that resolves.** -/
theorem commandProblem?_eq_none {source : String} :
    graph.commandProblem? source = none ↔
      ∃ command, Command.parse source = .ok command ∧ command.ResolvesIn graph := by
  unfold commandProblem?
  cases Command.parse source with
  | error error => simp
  | ok command =>
      have hsame : (∃ found, (Except.ok command : Except CommandError Command) = .ok found ∧
          found.ResolvesIn graph) ↔ command.ResolvesIn graph := by simp
      rw [hsame]
      cases command with
      -- three verbs have nothing to look up
      | message text => exact iff_of_true rfl trivial
      | exit => exact iff_of_true rfl trivial
      | next offset => exact iff_of_true rfl trivial
      | set name assignment expression =>
          simp only [Command.ResolvesIn]
          cases Expr.parse expression <;> simp
      | _ => exact problemUnless_eq_none

/-- A source without a problem can be read. -/
theorem readable_of_guardProblems {known : List String} {source : String}
    (h : guardProblems known source = []) : ∃ e, Expr.parse source = .ok e := by
  unfold guardProblems at h
  cases hparse : Expr.parse source with
  | ok e => exact ⟨e, rfl⟩
  | error error =>
      rw [hparse] at h
      nomatch h

/-- Every command of every script resolves, and every guard can be read. -/
structure Clean (graph : Graph) : Prop where
  commands : ∀ site ∈ graph.sites, ∀ source ∈ site.script,
    ∃ command, Command.parse source = .ok command ∧ command.ResolvesIn graph
  guards : ∀ site ∈ graph.sites, site.condition.Readable

/-- **A graph without warnings is clean.** -/
theorem clean_of_lint (h : graph.lint = []) : graph.Clean := by
  have hsites : ∀ site ∈ graph.sites,
      site.condition.flatMap (guardProblems graph.knownVariables) = [] ∧
        site.script.filterMap graph.commandProblem? = [] := by
    intro site hsite
    have hwarnings := List.flatMap_eq_nil_iff.mp h site hsite
    exact List.append_eq_nil_iff.mp (List.map_eq_nil_iff.mp hwarnings)
  -- no warning at a site means none about its guards and none about its commands
  constructor
  · intro site hsite source hsource
    have hproblem := List.filterMap_eq_nil_iff.mp (hsites site hsite).2 source hsource
    exact commandProblem?_eq_none.mp hproblem
  · intro site hsite source hsource
    have hproblems := List.flatMap_eq_nil_iff.mp (hsites site hsite).1 source hsource
    exact readable_of_guardProblems hproblems

/-- The guard of whatever has a site in a clean graph can be read. -/
theorem Clean.readable (hclean : graph.Clean) {condition : Condition} {script : Script}
    (h : HasSite graph.sites condition script) : condition.Readable := by
  obtain ⟨site, hsite, rfl, -⟩ := h
  exact hclean.guards site hsite

end Graph

/-! ## Guards that can be read -/

/-- A condition of readable sources can be read. -/
theorem Condition.parse_of_readable {condition : Condition} (h : condition.Readable) :
    ∃ alternatives, condition.parse = .ok alternatives := by
  unfold Condition.parse
  induction condition with
  | nil => exact ⟨[], rfl⟩
  | cons source rest ih =>
      obtain ⟨e, he⟩ := h source List.mem_cons_self
      obtain ⟨others, hothers⟩ := ih fun other hother => h other (List.mem_cons_of_mem _ hother)
      refine ⟨e :: others, ?_⟩
      rw [List.mapM_cons, he, hothers]
      rfl

/-- A condition of readable sources never fails. -/
theorem Condition.evaluate_of_readable {condition : Condition} (h : condition.Readable)
    (ctx : Context) : ∃ holds, condition.evaluate ctx = .ok holds := by
  obtain ⟨alternatives, hparse⟩ := parse_of_readable h
  refine ⟨Condition.anyHolds ctx alternatives, ?_⟩
  rw [evaluate, hparse]
  rfl

/-- Where the guards can be read, the available choices can be found. -/
theorem Choice.available_of_readable {choices : List Choice}
    (h : ∀ choice ∈ choices, choice.condition.Readable) (ctx : Context) :
    ∃ others, Choice.available ctx choices = .ok others := by
  induction choices with
  | nil => exact ⟨[], rfl⟩
  | cons choice rest ih =>
      obtain ⟨holds, hholds⟩ := Condition.evaluate_of_readable (h choice List.mem_cons_self) ctx
      obtain ⟨others, hothers⟩ := ih fun other hother => h other (List.mem_cons_of_mem _ hother)
      refine ⟨if holds then choice :: others else others, ?_⟩
      rw [available, hholds, hothers]
      rfl

/-- Where the guards can be read, finding a fork does not fail. -/
theorem Fork.first_of_readable {forks : List Fork} (h : ∀ fork ∈ forks, fork.condition.Readable)
    (ctx : Context) : ∃ found, Fork.first ctx forks = .ok found := by
  induction forks with
  | nil => exact ⟨none, rfl⟩
  | cons fork rest ih =>
      obtain ⟨holds, hholds⟩ := Condition.evaluate_of_readable (h fork List.mem_cons_self) ctx
      obtain ⟨found, hfound⟩ := ih fun other hother => h other (List.mem_cons_of_mem _ hother)
      refine ⟨if holds then some 0 else found.map (· + 1), ?_⟩
      rw [first, hholds, hfound]
      cases holds <;> rfl

end Narrative
