import Narrative.Proofs.Command
import Narrative.Proofs.Session.Choosing
import Narrative.Proofs.Session.Effect

/-!
# Choices that stay

Whether a choice leads elsewhere, and whether it shows a message, is told from the first words of
its commands, before any of them is parsed. That is enough, because a command has the verb that its
source begins with, and no verb but those that are looked for leads to a place or shows a message.

* **`Script.verb_ne_of_hasVerb`** — a verb that no command of a script begins with is not performed.
* **`Deeds`** — what a script does that leads nowhere: acts of its commands, and notices.
  `Script.run_stays` says that it does nothing else, and fails for no reason but an expression.
* **`Deeds.safe`** — what every act leaves alone and keeps from the host, the whole script does.
-/

namespace Narrative

variable {w : World} {s s' : State} {trace : Trace} {source : String} {script : Script}
  {command : Command} {verb : Verb} {allowed : Command → Prop}
  {go : Destination → Play ActionError Unit}

/-! ## Verbs -/

/-- A verb is found under its own keyword. -/
theorem Verb.keyword_of_ofKeyword? {keyword : String} (h : Verb.ofKeyword? keyword = some verb) :
    verb.keyword = keyword := by
  have hfound := List.find?_some h
  exact eq_of_beq hfound

/-- Arguments make no other command of a verb. -/
theorem Phrase.verb_of_command {arguments : List String}
    (h : Phrase.command verb arguments = .ok command) : command.verb = verb := by
  -- by the number of arguments that the verb takes
  cases verb with
  | jump | relay | message | unlock | lock | next =>
      obtain ⟨argument, -, hcommand⟩ := exists_ok_of_bind_eq_ok h
      obtain rfl := Except.ok.inj hcommand
      rfl
  | give | consume =>
      obtain ⟨item, -, hrest⟩ := exists_ok_of_bind_eq_ok h
      obtain ⟨amount, -, hcommand⟩ := exists_ok_of_bind_eq_ok hrest
      obtain rfl := Except.ok.inj hcommand
      rfl
  | set =>
      obtain ⟨name, -, hrest⟩ := exists_ok_of_bind_eq_ok h
      obtain ⟨assignment, -, hrest⟩ := exists_ok_of_bind_eq_ok hrest
      obtain ⟨expression, -, hcommand⟩ := exists_ok_of_bind_eq_ok hrest
      obtain rfl := Except.ok.inj hcommand
      rfl
  | exit =>
      obtain rfl := Except.ok.inj h
      rfl

/-- **A command has the verb that its source begins with**, in quotes or not. -/
theorem Command.exists_phrase (h : Command.parse source = .ok command) :
    ∃ phrase, Phrase.read? source = some phrase ∧ phrase.verb = command.verb.keyword := by
  rw [parse] at h
  cases hread : Phrase.read? source with
  | none =>
      rw [hread] at h
      cases h
  | some phrase =>
      rw [hread] at h
      refine ⟨phrase, rfl, ?_⟩
      cases hverb : Verb.ofKeyword? phrase.verb with
      | none =>
          simp only [Phrase.toCommand, hverb] at h
          cases h
      | some verb =>
          -- a command has the verb whose keyword the phrase begins with
          simp only [Phrase.toCommand, hverb] at h
          rw [Phrase.verb_of_command h, Verb.keyword_of_ofKeyword? hverb]

/-- **A verb that no command of a script begins with is the verb of no command in it.** -/
theorem Script.verb_ne_of_hasVerb (h : script.hasVerb verb.keyword = false)
    (hsource : source ∈ script) (hparse : Command.parse source = .ok command) :
    command.verb ≠ verb := by
  rintro rfl
  obtain ⟨phrase, hread, hverb⟩ := Command.exists_phrase hparse
  have hnone := List.any_eq_false.mp h source hsource
  rw [hread, Option.any_some, hverb, beq_self_eq_true] at hnone
  exact hnone rfl

/-! ## Staying at a place -/

/-- The verbs that lead to a place. -/
def Verb.leading : List Verb := [.jump, .relay, .next]

/-- Only three verbs lead anywhere. -/
theorem Command.Leads.verb_mem {destination : Destination} (h : command.Leads w s destination) :
    command.verb ∈ Verb.leading := by
  cases h <;> simp [verb, Verb.leading]

/-- The only fatal error of a command that leads nowhere is that of its expression. -/
theorem Command.Fails.exists_expr {error : ActionError} (h : command.Fails w s error)
    (hfatal : error.isFatal = true) : ∃ found, error = .expr found := by
  cases h with
  | set h => exact ⟨_, rfl⟩
  | _ => nomatch hfatal

/-- The player is at the same place, and the same places were seen. -/
structure State.SamePlace (s s' : State) : Prop where
  current : s'.current = s.current
  seenScreens : s'.seenScreens = s.seenScreens
  seenRelays : s'.seenRelays = s.seenRelays
  depth : s'.depth = s.depth

theorem State.SamePlace.refl (s : State) : s.SamePlace s := ⟨rfl, rfl, rfl, rfl⟩

theorem State.SamePlace.trans {s'' : State} (h : s.SamePlace s') (h' : s'.SamePlace s'') :
    s.SamePlace s'' :=
  ⟨h'.current.trans h.current, h'.seenScreens.trans h.seenScreens,
    h'.seenRelays.trans h.seenRelays, h'.depth.trans h.depth⟩

/-- The place is none of the parts that change by themselves. -/
theorem State.EqualBut.samePlace {part : State.Part} (h : s.EqualBut part s') :
    s.SamePlace s' := by
  cases h <;> exact ⟨rfl, rfl, rfl, rfl⟩

/-- A change of another part leaves the message alone. -/
theorem State.EqualBut.message_eq {part : State.Part} (h : s.EqualBut part s')
    (hpart : part ≠ .message) : s'.message = s.message := by
  cases h with
  | message text => exact absurd rfl hpart
  | _ => rfl

/-! ## Deeds -/

/-- Whether an event is that of another screen. -/
def Event.isScreen : Event → Bool
  | .screenChanged _ => true
  | .choiceSelected _ | .messageChanged _ | .questFinished _ => false

/-- Whether an event is that of another message. -/
def Event.isMessage : Event → Bool
  | .messageChanged _ => true
  | .screenChanged _ | .choiceSelected _ | .questFinished _ => false

/-- Acts of commands that are allowed, and notices, one behind the other. -/
inductive Deeds (w : World) (allowed : Command → Prop) : State → Trace → State → Prop
  | nil (s : State) : Deeds w allowed s [] s
  | note (s : State) (notice : Notice) : Deeds w allowed s [⟨.notice notice, s⟩] s
  | act {s s' : State} {trace : Trace} {command : Command} (hcommand : allowed command)
      (h : command.Acts w s trace s') : Deeds w allowed s trace s'
  | seq {s s' s'' : State} {trace trace' : Trace} (first : Deeds w allowed s trace s')
      (rest : Deeds w allowed s' trace' s'') : Deeds w allowed s (trace ++ trace') s''

namespace Command.Acts

/-- A command that acts changes one part. -/
theorem exists_equalBut (h : command.Acts w s trace s') :
    ∃ part, command.part? = some part ∧ s.EqualBut part s' := by
  have hpart : ∃ part, command.part? = some part := by
    cases h <;> exact ⟨_, rfl⟩
  obtain ⟨part, hpart⟩ := hpart
  exact ⟨part, hpart, h.equalBut hpart⟩

/-- No command that acts tells of a screen. -/
theorem isScreen_eq (h : command.Acts w s trace s') :
    ∀ event ∈ trace.events, event.isScreen = false := by
  cases h with
  | message text => exact List.forall_mem_singleton.mpr rfl
  | exit => exact List.forall_mem_singleton.mpr rfl
  | _ => exact nofun

/-- Only the verb for messages tells of one. -/
theorem isMessage_eq (h : command.Acts w s trace s') (hverb : command.verb ≠ .message) :
    ∀ event ∈ trace.events, event.isMessage = false := by
  cases h with
  | message text => exact absurd rfl hverb
  | exit => exact List.forall_mem_singleton.mpr rfl
  | _ => exact nofun

/-- A command of another verb leaves the message alone. -/
theorem message_eq (h : command.Acts w s trace s') (hverb : command.verb ≠ .message) :
    s'.message = s.message := by
  obtain ⟨part, hpart, hequal⟩ := h.exists_equalBut
  refine hequal.message_eq ?_
  rintro rfl
  cases command with
  | message text => exact hverb rfl
  | _ => nomatch hpart

end Command.Acts

namespace Deeds

/-- What the acts do to the state, and what they tell the host, all deeds do and tell. -/
theorem safe {R : State → State → Prop} {told : Event → Prop} (hrefl : ∀ s, R s s)
    (htrans : ∀ {s s' s''}, R s s' → R s' s'' → R s s'')
    (hacts : ∀ {s s' trace command}, allowed command → command.Acts w s trace s' →
      R s s' ∧ ∀ event ∈ trace.events, told event)
    (h : Deeds w allowed s trace s') : R s s' ∧ ∀ event ∈ trace.events, told event := by
  induction h with
  | nil s => exact ⟨hrefl s, nofun⟩
  | note s notice => exact ⟨hrefl s, nofun⟩
  | act hcommand h => exact hacts hcommand h
  | seq _ _ ihfirst ihrest =>
      refine ⟨htrans ihfirst.1 ihrest.1, ?_⟩
      rw [Trace.events_append]
      exact List.forall_mem_append.mpr ⟨ihfirst.2, ihrest.2⟩

/-- **Deeds lead nowhere.** -/
theorem stays (h : Deeds w allowed s trace s') :
    s.SamePlace s' ∧ ∀ event ∈ trace.events, event.isScreen = false := by
  refine h.safe .refl .trans fun _ hacts => ?_
  obtain ⟨part, -, hequal⟩ := hacts.exists_equalBut
  exact ⟨hequal.samePlace, hacts.isScreen_eq⟩

/-- **Deeds without a message show none.** -/
theorem silent (h : Deeds w allowed s trace s')
    (hallowed : ∀ command, allowed command → command.verb ≠ .message) :
    s'.message = s.message ∧ ∀ event ∈ trace.events, event.isMessage = false := by
  refine h.safe (R := fun s s' => s'.message = s.message) (fun _ => rfl)
    (fun hfirst hrest => hrest.trans hfirst) fun hcommand hacts => ?_
  have hverb := hallowed _ hcommand
  exact ⟨hacts.message_eq hverb, hacts.isMessage_eq hverb⟩

end Deeds

/-! ## Scripts that stay -/

/-- What was done leads nowhere, and it failed fatally for no reason but an expression. -/
structure Outcome.Stays (w : World) (allowed : Command → Prop) (s : State)
    (outcome : Outcome ActionError Unit) : Prop where
  deeds : Deeds w allowed s outcome.trace outcome.state
  fatal : ∀ error, outcome.result = .error error → error.isFatal = true →
    ∃ found, error = .expr found

section

variable (hallowed : ∀ command, allowed command → command.verb ∉ Verb.leading)
include hallowed

/-- A source whose command is allowed leaves the place alone. -/
theorem Play.performSource_stays
    (hsource : ∀ command, Command.parse source = .ok command → allowed command) (s : State) :
    (performSource go source w s).Stays w allowed s := by
  cases hparse : Command.parse source with
  | error error =>
      rw [performSource_of_error hparse]
      refine ⟨.nil s, fun found hfound hfatal => ?_⟩
      cases hfound
      nomatch hfatal
  | ok command =>
      have hcommand := hsource command hparse
      rw [performSource_of_ok hparse]
      have hcases := perform_performed go w s command
      generalize perform go command w s = outcome at hcases ⊢
      cases hcases with
      | fails h =>
          -- a failing command changes nothing; if it is fatal, it was an assignment
          refine ⟨.nil s, fun found hfound hfatal => ?_⟩
          cases hfound
          exact h.exists_expr hfatal
      | leads deed h => exact absurd h.verb_mem (hallowed command hcommand)
      | acts h => exact ⟨.act hcommand h, nofun⟩

/-- So does heeding it. -/
theorem Play.heed_stays
    (hsource : ∀ command, Command.parse source = .ok command → allowed command) (s : State) :
    (heed go source w s).Stays w allowed s := by
  have hperform : (performSource go source w s).Stays w allowed s :=
    performSource_stays hallowed hsource s
  cases heeding go source w s with
  | done hrun =>
      rw [heed_of_ok hrun, ← hrun]
      exact hperform
  | skip hrun hfatal =>
      -- a skip adds its notice to what the command did, and the error goes no further
      rw [heed_of_skip hrun hfatal]
      rw [hrun] at hperform
      exact ⟨.seq hperform.deeds (.note _ _), nofun⟩
  | fatal hrun hfatal =>
      rw [heed_of_fatal hrun hfatal, ← hrun]
      exact hperform

/-- **A script whose commands lead nowhere stays**, whatever else is in it. -/
theorem Script.run_stays (hscript : ∀ source ∈ script, ∀ command,
    Command.parse source = .ok command → allowed command) :
    ∀ s, (Script.run go script w s).Stays w allowed s := by
  induction script with
  | nil => exact fun s => ⟨.nil s, nofun⟩
  | cons source rest ih =>
      intro s
      obtain ⟨hsource, hrest⟩ := List.forall_mem_cons.mp hscript
      have hhead : (Play.heed go source w s).Stays w allowed s := Play.heed_stays hallowed hsource s
      rw [Script.run_cons]
      rcases hrun : Play.heed go source w s with ⟨result, s', trace⟩
      rw [hrun] at hhead
      cases result with
      | ok value =>
          have htail := ih hrest s'
          rw [Play.bind_of_ok hrun]
          exact ⟨.seq hhead.deeds htail.deeds, htail.fatal⟩
      | error error =>
          -- the rest is not run
          rw [Play.bind_of_error hrun]
          exact hhead

end

/-! ## Choices -/

namespace Choice

variable {choice : Choice}

/-- What the two flags say of the commands of a choice that stays. -/
def Allows (choice : Choice) (command : Command) : Prop :=
  command.verb ∉ Verb.leading ∧ (choice.hasMessage = false → command.verb ≠ .message)

/-- **The flags see every command that parsing yields.** -/
theorem allows_of_parse (h : choice.changesScreen = false) (hsource : source ∈ choice.action)
    (hparse : Command.parse source = .ok command) : choice.Allows command := by
  constructor
  · intro hverb
    have hnone := List.any_eq_false.mp h command.verb hverb
    exact Script.verb_ne_of_hasVerb (Bool.eq_false_iff.mpr hnone) hsource hparse rfl
  · intro hmessage
    exact Script.verb_ne_of_hasVerb hmessage hsource hparse

theorem execute_stays (h : choice.changesScreen = false) (w : World) (s : State) :
    (Play.execute choice.action w s).Stays w choice.Allows s :=
  Script.run_stays (fun _ hcommand => hcommand.1)
    (fun _ hsource _ hparse => allows_of_parse h hsource hparse) s

end Choice

/-- Choices are open on a current screen only. -/
theorem State.exists_screen_of_availableChoices {choices : List Choice} {choice : Choice}
    {index : Nat} (h : s.availableChoices w = .ok choices)
    (hchoice : choices[index]? = some choice) :
    ∃ screen, s.currentScreen? w = some screen ∧
      Choice.available (s.context w) screen.choices = .ok choices := by
  rw [State.availableChoices] at h
  cases hscreen : s.currentScreen? w with
  | none =>
      rw [hscreen] at h
      cases h
      cases hchoice
  | some screen =>
      rw [hscreen] at h
      exact ⟨screen, rfl, h⟩

/-- **What the flags of a choice rule out does not happen.** Selecting a choice that does not change
the screen, in whatever state, leaves the player at the same place, tells of no screen, and does not
end in a loop. If the choice has no message either, the pending message is cleared, and the host is
told of that and of no other message. -/
theorem choice_flags_are_sound (w : World) (s : State) (index : Nat) (choices : List Choice)
    (choice : Choice) (hopen : s.availableChoices w = .ok choices)
    (hchoice : choices[index]? = some choice) (hstays : choice.changesScreen = false) :
    s.SamePlace (Play.selectChoice index w s).state ∧
    (∀ event ∈ (Play.selectChoice index w s).trace.events, event.isScreen = false) ∧
    (∀ limit, (Play.selectChoice index w s).result ≠ .error (.action (.navigationLoop limit))) ∧
    (choice.hasMessage = false →
      (Play.selectChoice index w s).state.message = "" ∧
      (Play.selectChoice index w s).trace.events.filter Event.isMessage =
        [.messageChanged ""]) := by
  obtain ⟨screen, hscreen, havailable⟩ := State.exists_screen_of_availableChoices hopen hchoice
  have hchosen := Play.selectChoice_chosen hscreen havailable hchoice
  have hrun := Choice.execute_stays hstays w { s with message := "" }
  obtain ⟨hplace, hscreens⟩ := hrun.deeds.stays
  refine ⟨?_, ?_, fun limit hlimit => ?_, fun hmessage => ?_⟩
  · -- clearing the message leaves the place alone
    rw [hchosen.state]
    exact ⟨hplace.current, hplace.seenScreens, hplace.seenRelays, hplace.depth⟩
  · rw [hchosen.events]
    refine List.forall_mem_append.mpr ⟨List.forall_mem_cons.mpr ⟨rfl, hscreens⟩, ?_⟩
    split
    · exact List.forall_mem_singleton.mpr rfl
    · exact nofun
  · -- the fatal errors of such an action are those of assignments
    rw [hchosen.result] at hlimit
    cases hresult : (Play.execute choice.action w { s with message := "" }).result with
    | ok value =>
        rw [hresult] at hlimit
        nomatch hlimit
    | error error =>
        obtain ⟨found, rfl⟩ := hrun.fatal error hresult (hchosen.fatal error hresult)
        rw [hresult] at hlimit
        nomatch hlimit
  · obtain ⟨hkept, hsilent⟩ := hrun.deeds.silent fun _ hcommand => hcommand.2 hmessage
    constructor
    · rw [hchosen.state, hkept]
    · have hnone : (Play.execute choice.action w { s with message := "" }).trace.events.filter
          Event.isMessage = [] :=
        List.filter_eq_nil_iff.mpr fun event hevent => ne_true_of_eq_false (hsilent event hevent)
      rw [hchosen.events, List.filter_append, List.filter_cons_of_pos rfl, hnone]
      split <;> rfl

/-- A choice with quoted words, a malformed command, and an assignment that fails fatally. -/
def Choice.rummage : Choice where
  title := "Rummage"
  action := ["  \"give\"  straw 2", "\"jump elsewhere\"", "give", "set owl = item(straw)", "exit"]

/-- A story with one choice that stays. -/
def Quest.barn : Quest where
  name := "barn"
  start := "loft"
  items := .ofList [("straw", "Straw")]
  screens := [{ name := some "loft", choices := [.rummage] }]

/-- The loft of the barn, where something was heard. -/
def State.inLoft : State := { current := some 0, message := "Creak" }

/-- A choice that fails halfway, after it has said nothing and led nowhere. -/
theorem rummage_stays :
    State.inLoft.availableChoices ⟨Quest.barn.graph, {}⟩ = .ok [.rummage] ∧
      Choice.rummage.changesScreen = false ∧ Choice.rummage.hasMessage = false ∧
      (Play.selectChoice 0 ⟨Quest.barn.graph, {}⟩ .inLoft).result =
        .error (.action (.expr (.accessorNotAllowed .item "straw"))) ∧
      (Play.selectChoice 0 ⟨Quest.barn.graph, {}⟩ .inLoft).state.current = some 0 ∧
      (Play.selectChoice 0 ⟨Quest.barn.graph, {}⟩ .inLoft).trace.events.filter Event.isMessage =
        [.messageChanged ""] := by
  have hopen : State.inLoft.availableChoices ⟨Quest.barn.graph, {}⟩ = .ok [.rummage] := by cbv
  have hstays : Choice.rummage.changesScreen = false := by cbv
  have hmessage : Choice.rummage.hasMessage = false := by cbv
  obtain ⟨hplace, -, -, hsilent⟩ := choice_flags_are_sound _ _ 0 _ _ hopen rfl hstays
  exact ⟨hopen, hstays, hmessage, by cbv, hplace.current, (hsilent hmessage).2⟩

end Narrative
