import Mathlib
import Narrative.Proofs.Expr.Runtime
import Narrative.Proofs.Lint
import Narrative.Proofs.Session.Representation
import Narrative.Proofs.Session.Skipping

/-!
# What a document without warnings promises

The checks of a document and the performing of its scripts are two readings of the same scripts.
This module holds them against each other: whatever fails in a play over a clean graph fails for a
reason that no check could have seen beforehand.

* **`Licence.own`** — plays that use the scripts of the graph and nothing from outside.
* **`Failure.remaining`** — of all failures, those that are left: moving on where there is no
  screen, the hop limit, and assignments that fail at runtime.
* **`clean_documents_play_clean`** — so nothing else comes out of any call.
-/

namespace Narrative

variable {w : World} {s : State}

/-- Some assignment in a script of the graph can fail with this error, although its expression is
well formed. -/
def Graph.SetFails (graph : Graph) (error : ExprError) : Prop :=
  ∃ site ∈ graph.sites, ∃ source ∈ site.script, ∃ name assignment expression old,
    Command.parse source = .ok (.set name assignment expression) ∧
      Play.assignedValue old assignment expression = .error error ∧ error.isRuntime = true

/-- The errors that are left where every check was passed. -/
inductive ActionError.Remaining (w : World) : ActionError → Prop
  | nowhere : Remaining w .noCurrentScreen
  | beyond (offset : Nat) : Remaining w (.outOfRange offset)
  | loop : Remaining w (.navigationLoop w.settings.maxHops)
  | assignment {error : ExprError} (h : w.graph.SetFails error) : Remaining w (.expr error)

namespace ActionError.Remaining

/-- Of the remaining errors, two end a script. -/
theorem of_fatal {error : ActionError} (h : error.Remaining w) (hfatal : error.isFatal = true) :
    error = .navigationLoop w.settings.maxHops ∨
      ∃ found, error = .expr found ∧ w.graph.SetFails found := by
  cases h with
  | nowhere => nomatch hfatal
  | beyond offset => nomatch hfatal
  | loop => exact .inl rfl
  | assignment h => exact .inr ⟨_, rfl, h⟩

/-- Of the remaining errors, two only skip a command. -/
theorem of_harmless {error : ActionError} (h : error.Remaining w)
    (hfatal : error.isFatal = false) :
    error = .noCurrentScreen ∨ ∃ offset, error = .outOfRange offset := by
  cases h with
  | nowhere => exact .inl rfl
  | beyond offset => exact .inr ⟨offset, rfl⟩
  | loop => nomatch hfatal
  | assignment h => nomatch hfatal

end ActionError.Remaining

/-! ## Plays over the scripts of the graph -/

/-- The licence for the scripts of the graph. -/
def Licence.own (graph : Graph) : Licence where
  source text := ∃ site ∈ graph.sites, text ∈ site.script
  command command :=
    ∃ site ∈ graph.sites, ∃ text ∈ site.script, Command.parse text = .ok command
  target _ := True
  place destination := destination.ExistsIn graph
  parsed := by
    rintro text command ⟨site, hsite, htext⟩ hparse
    exact ⟨site, hsite, text, htext, hparse⟩
  assigned _ := trivial

/-- The sources of a site are sources of the graph. -/
theorem Licence.source_of_hasSite {sites : List ScriptSite} {graph : Graph}
    {condition : Condition} {script : Script} (h : HasSite sites condition script)
    (hsub : ∀ site ∈ sites, site ∈ graph.sites) :
    ∀ source ∈ script, (Licence.own graph).source source := by
  obtain ⟨site, hsite, -, rfl⟩ := h
  exact fun source hsource => ⟨site, hsub site hsite, hsource⟩

/-- No script that a play can come to is forgotten by the checks, so a licence for the scripts of
the graph covers it if it admits the places that come up. -/
theorem Licence.covers_of_own {L : Licence}
    (hsource : ∀ source, (Licence.own w.graph).source source → L.source source)
    (hplaces : ∀ {s command destination}, L.command command → command.Leads w s destination →
      L.place destination)
    (hstart : ∀ {index}, w.graph.screenIndex? w.graph.start = some index →
      L.place (.screen index)) : L.Covers w where
  screens {index screen} hscreen := by
    -- scripts of screens and relays are sites of the graph, so their sources are its own
    have hsub := Graph.mem_sites_of_screen? hscreen
    have hown {condition script} (h : HasSite (screen.sites index) condition script) :
        ∀ source ∈ script, L.source source := fun source hmem =>
      hsource source (source_of_hasSite h hsub source hmem)
    exact ⟨hown (screen.hasSite_once index), hown (screen.hasSite_always index),
      fun choice hchoice => hown (screen.hasSite_choice index hchoice)⟩
  relays {name relay} hrelay := by
    have hsub := Graph.mem_sites_of_relay? hrelay
    have hown {condition script} (h : HasSite relay.sites condition script) :
        ∀ source ∈ script, L.source source := fun source hmem =>
      hsource source (source_of_hasSite h hsub source hmem)
    exact ⟨hown relay.hasSite_once, hown relay.hasSite_always,
      fun fork hfork => hown (relay.hasSite_fork hfork)⟩
  places := hplaces
  start := hstart

/-- What a sound graph does by itself is admitted by its own licence. -/
theorem Licence.own_covers (hg : w.graph.Sound) : (Licence.own w.graph).Covers w :=
  covers_of_own (fun _ h => h) (fun _ hleads => hleads.existsIn hg) hg.screens

/-- A call without a command brings nothing in from outside. -/
theorem HostCall.IsCommandFree.admittedBy_own {call : HostCall} (h : call.IsCommandFree)
    (graph : Graph) : call.AdmittedBy (.own graph) := by
  cases call with
  | dispatch command => exact h.elim
  | execute script => exact h.elim
  | _ => trivial

/-! ## What is left to fail -/

/-- A command that resolves fails only by moving on where there is no screen, or by an assignment
that fails at runtime. -/
theorem Command.Fails.remaining {site : ScriptSite} {source : String} {command : Command}
    {error : ActionError} (hsite : site ∈ w.graph.sites) (hsource : source ∈ site.script)
    (hparse : Command.parse source = .ok command) (hresolves : command.ResolvesIn w.graph)
    (h : command.Fails w s error) : error.Remaining w := by
  cases h with
  | screen h =>
      -- the look-up of the check is the look-up of the command
      change (w.graph.screenIndex? _).isSome = true at hresolves
      rw [h] at hresolves
      nomatch hresolves
  | relay h => exact absurd hresolves (ne_true_of_eq_false h)
  | give h => exact absurd hresolves (ne_true_of_eq_false h)
  | consume h => exact absurd hresolves (ne_true_of_eq_false h)
  | unlock h => exact absurd hresolves (ne_true_of_eq_false h)
  | lock h => exact absurd hresolves (ne_true_of_eq_false h)
  | set h =>
      obtain ⟨e, he⟩ := hresolves
      exact .assignment
        ⟨site, hsite, source, hsource, _, _, _, _, hparse, h, Play.assignedValue_error he h⟩
  | nowhere h => exact .nowhere
  | beyond hcurrent h => exact .beyond _

/-- **Nothing else is left to fail.** Every way in which something can fail contradicts a check
that was passed, or is one of the remaining ones. -/
theorem Failure.remaining (hclean : w.graph.Clean) {error : ActionError}
    (h : Failure w (.own w.graph) s error) : error.Remaining w := by
  cases h with
  | malformed hsource hparse =>
      -- the check has parsed the same source
      obtain ⟨site, hsite, hmem⟩ := hsource
      obtain ⟨command, hok, -⟩ := hclean.commands site hsite _ hmem
      rw [hparse] at hok
      nomatch hok
  | refused hcommand hfails =>
      obtain ⟨site, hsite, source, hsource, hparse⟩ := hcommand
      obtain ⟨command, hok, hresolves⟩ := hclean.commands site hsite source hsource
      rw [hparse] at hok
      cases hok
      exact hfails.remaining hsite hsource hparse hresolves
  | @guard name relay error hrelay hfork =>
      have hsub := Graph.mem_sites_of_relay? hrelay
      obtain ⟨found, hfound⟩ := Fork.first_of_readable
        (fun fork hmem => hclean.readable ((relay.hasSite_fork hmem).mono hsub)) (s.context w)
      -- all guards of a clean graph can be read, so one of the forks or none is selected
      have hnone : (Except.ok found : Except ExprError (Option Nat)) = .error error :=
        hfound.symm.trans hfork
      nomatch hnone
  | full h => exact .loop
  | missing hplace h => exact absurd hplace h

/-- The guards of the current screen have values. -/
theorem State.availableChoices_of_clean (hclean : w.graph.Clean) (s : State) :
    ∃ choices, s.availableChoices w = .ok choices := by
  unfold State.availableChoices
  cases hscreen : s.currentScreen? w with
  | none => exact ⟨[], rfl⟩
  | some screen =>
      obtain ⟨index, -, hget⟩ := Option.bind_eq_some_iff.mp hscreen
      have hsub := Graph.mem_sites_of_screen? hget
      exact Choice.available_of_readable (fun choice hmem =>
        hclean.readable ((screen.hasSite_choice index hmem).mono hsub)) (s.context w)

namespace Play

/-- Entering a place fails, if at all, at the hop limit or at an assignment. -/
theorem go_error_of_clean (hg : w.graph.Sound) (hclean : w.graph.Clean)
    {destination : Destination} (hexists : destination.ExistsIn w.graph) {error : ActionError}
    (h : (Play.go destination w s).result = .error error) :
    error = .navigationLoop w.settings.maxHops ∨
      ∃ found, error = .expr found ∧ w.graph.SetFails found := by
  have htrail := go_trail (Licence.own_covers hg) hexists s
  obtain ⟨t, hfailure⟩ := htrail.failure_of_error error h
  exact (hfailure.remaining hclean).of_fatal (go_failsFatally hexists s error h)

/-- So does a script of the graph. -/
theorem execute_error_of_clean (hg : w.graph.Sound) (hclean : w.graph.Clean) {script : Script}
    (hscript : ∀ source ∈ script, (Licence.own w.graph).source source) {error : ActionError}
    (h : (execute script w s).result = .error error) :
    error = .navigationLoop w.settings.maxHops ∨
      ∃ found, error = .expr found ∧ w.graph.SetFails found := by
  have hL := Licence.own_covers hg
  have htrail := run_tracked hL (go_tracked hL s.depth) hscript s rfl
  obtain ⟨t, hfailure⟩ := htrail.failure_of_error error h
  exact (hfailure.remaining hclean).of_fatal (run_failsFatally Play.go script s error h)

/-- A clean graph fails to start in two ways only. -/
theorem start_error_of_clean (hg : w.graph.Sound) (hclean : w.graph.Clean)
    (hstart : ∃ index, w.graph.screenIndex? w.graph.start = some index) {error : SessionError}
    (h : (start w s).result = .error error) :
    error = .action (.navigationLoop w.settings.maxHops) ∨
      ∃ found, error = .action (.expr found) ∧ w.graph.SetFails found := by
  obtain ⟨first, hfirst⟩ := hstart
  rcases startBy_error h with hnone | ⟨index, found, hindex, hgo, rfl⟩
  · rw [hfirst] at hnone
    nomatch hnone
  · have hexists : (Destination.screen index).ExistsIn w.graph := hg.screens hindex
    rcases go_error_of_clean hg hclean hexists hgo with rfl | ⟨found, rfl, hset⟩
    · exact .inl rfl
    · exact .inr ⟨found, rfl, hset⟩

/-- In a clean graph a choice fails in two ways only. -/
theorem selectChoice_error_of_clean (hg : w.graph.Sound) (hclean : w.graph.Clean) {index : Nat}
    {error : SessionError} (h : (selectChoice index w s).result = .error error) :
    error = .action (.navigationLoop w.settings.maxHops) ∨
      ∃ found, error = .action (.expr found) ∧ w.graph.SetFails found := by
  obtain ⟨screen, hscreen, hcases⟩ := selectChoiceBy_error h
  rcases hcases with ⟨found, hguard⟩ | ⟨choices, choice, found, havailable, hmem, hrun, rfl⟩
  · -- a malformed guard would also keep the open choices from being listed
    obtain ⟨choices, hchoices⟩ := s.availableChoices_of_clean hclean
    rw [State.availableChoices, hscreen] at hchoices
    have hnone : (Except.error found : Except ExprError (List Choice)) = .ok choices :=
      hguard.symm.trans hchoices
    nomatch hnone
  · have hscript := currentScreen_admitted (Licence.own_covers hg) hscreen
      (mem_of_available havailable choice hmem)
    rcases execute_error_of_clean hg hclean hscript hrun with rfl | ⟨found, rfl, hset⟩
    · exact .inl rfl
    · exact .inr ⟨found, rfl, hset⟩

end Play

/-- A document without warnings makes a clean graph with a first screen. -/
theorem Quest.clean_of_warnings {quest : Quest} (h : quest.warnings = []) :
    quest.graph.Clean ∧ ∃ index, quest.graph.screenIndex? quest.graph.start = some index := by
  obtain ⟨hflaws, hlint⟩ := List.append_eq_nil_iff.mp h
  refine ⟨Graph.clean_of_lint hlint, quest.startIndex?_of_startFlaws ?_⟩
  have hnone := List.map_eq_nil_iff.mp hflaws
  simp only [Quest.flaws, List.append_eq_nil_iff] at hnone
  exact hnone.1.1.2

/-- **A document without warnings is a promise about every play.** Whatever state a session over
its graph is in, and whatever a host does that brings no commands along: the first screen is there,
the open choices can be listed, no command fails because of how the document was written, and
starting and choosing fail at the hop limit or at an assignment that fails at runtime. -/
theorem clean_documents_play_clean (quest : Quest) (settings : Settings)
    (h : quest.warnings = []) (s : State) :
    (∃ choices, s.availableChoices ⟨quest.graph, settings⟩ = .ok choices) ∧
    (∀ name, (Play.start ⟨quest.graph, settings⟩ s).result ≠
      .error (.missingStartScreen name)) ∧
    (∀ site ∈ quest.graph.sites, ∀ source ∈ site.script, ∀ error,
      (Play.performSource Play.go source ⟨quest.graph, settings⟩ s).result = .error error →
      error.Remaining ⟨quest.graph, settings⟩) ∧
    (∀ call : HostCall, call.IsCommandFree → ∀ source error,
      Notice.skippedCommand source error ∈
        (call.play ⟨quest.graph, settings⟩ s).trace.notices →
      error = .noCurrentScreen ∨ ∃ offset, error = .outOfRange offset) ∧
    ∀ error,
      ((Play.start ⟨quest.graph, settings⟩ s).result = .error error ∨
        ∃ index, (Play.selectChoice index ⟨quest.graph, settings⟩ s).result = .error error) →
      error = .action (.navigationLoop settings.maxHops) ∨
        ∃ found, error = .action (.expr found) ∧ quest.graph.SetFails found := by
  obtain ⟨hclean, hstart⟩ := Quest.clean_of_warnings h
  have hg := quest.graph_sound
  have hL : (Licence.own quest.graph).Covers ⟨quest.graph, settings⟩ :=
    Licence.own_covers (w := ⟨quest.graph, settings⟩) hg
  refine ⟨s.availableChoices_of_clean hclean, fun name hname => ?_,
    fun site hsite source hsource error herror => ?_, fun call hcall source error hmem => ?_,
    fun error herror => ?_⟩
  · -- a missing first screen is not one of the errors of starting
    rcases Play.start_error_of_clean hg hclean hstart hname with heq | ⟨found, heq, -⟩ <;>
      nomatch heq
  · -- a single command of a script is a trail of its own
    have htrail := Play.performSource_tracked hL (Play.go_tracked hL s.depth)
      ⟨site, hsite, hsource⟩ s rfl
    obtain ⟨t, hfailure⟩ := htrail.failure_of_error error herror
    exact hfailure.remaining hclean
  · -- the commands that a call skips are those of the steps it consists of
    have hsteps := (call.course hL (hcall.admittedBy_own quest.graph) s).steps
    obtain ⟨⟨t, hfailure⟩, hfatal⟩ := hsteps.reason_of_skipped hmem
    exact (hfailure.remaining hclean).of_harmless hfatal
  · rcases herror with herror | ⟨index, herror⟩
    · exact Play.start_error_of_clean hg hclean hstart herror
    · exact Play.selectChoice_error_of_clean hg hclean herror

/-- A story with one script of each kind and no warnings. The garden asks for a screen that is too
far off, which no check can see. -/
def Quest.gate : Quest where
  name := "gate"
  start := "yard"
  items := .ofList [("key", "Key")]
  screens :=
    [{ name := some "yard"
       scripts := { once := ["give key"] }
       choices :=
         [{ title := "Open"
            condition := ["item(key)"]
            action := ["set tried = true", "relay gate"] }] },
      { name := some "garden", scripts := { always := ["next 5"] } }]
  relays :=
    [{ name := "gate"
       forks := [{ condition := ["var(tried)"], action := ["consume key", "jump garden"] }] }]

/-- A gate with a relay behind its choice plays clean. -/
theorem gate_plays_clean :
    Quest.gate.warnings = [] ∧
      ∀ source error,
        Notice.skippedCommand source error ∈
          ((HostCall.selectChoice 0).play ⟨Quest.gate.graph, {}⟩
            (HostCall.start.play ⟨Quest.gate.graph, {}⟩
              (.initial ⟨Quest.gate.graph, {}⟩)).state).trace.notices →
        error = .noCurrentScreen ∨ ∃ offset, error = .outOfRange offset := by
  have hwarnings : Quest.gate.warnings = [] := by cbv
  obtain ⟨-, -, -, hskipped, -⟩ := clean_documents_play_clean Quest.gate {} hwarnings
    (HostCall.start.play ⟨Quest.gate.graph, {}⟩ (.initial ⟨Quest.gate.graph, {}⟩)).state
  exact ⟨hwarnings, hskipped (.selectChoice 0) trivial⟩

end Narrative
