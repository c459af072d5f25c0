import Narrative.Proofs.Condition
import Narrative.Proofs.Session.Effect
import Narrative.Proofs.Template

/-!
# What a value depends on

An expression reads what its accessors name and nothing else, and guards, tags and forks read what
their expressions do. So what they come to is the same in all contexts that answer alike for these
names, and a session may change elsewhere as it likes.

* **`Expr.Writes.accesses`** — the accessors of a tree stand in its source in the order in which the
  tree lists them.
* **`Expr.eval_congr`** — two evaluations of a tree go the same way, errors included, if they are
  answered alike. `Condition.evaluate_congr`, `Template.prepare_congr` and `Relay.selectFork_congr`
  lift this to what is made of expressions.
* **`HostCall.alike_playAll`** — calls that spare what is read make no difference to it.
-/

namespace Narrative

/-! ## Accessors in source order -/

namespace Expr

/-- The accessors of a tree with the names that they are given, from left to right, with
repetitions. -/
def accesses : Expr → List (Accessor × String)
  | .literal _ => []
  | .access accessor name => [(accessor, name)]
  | .unary _ operand => operand.accesses
  | .binary _ lhs rhs => lhs.accesses ++ rhs.accesses

/-- The names that are read through one accessor are those that it is given. -/
theorem reads_eq (accessor : Accessor) (e : Expr) :
    e.reads accessor = (e.accesses.filter (·.1 = accessor)).map Prod.snd := by
  induction e with
  | literal value => rfl
  | access found name =>
      by_cases h : found = accessor
      · simp [reads, accesses, h]
      · simp [reads, accesses, h]
  | unary op operand ih => exact ih
  | binary op lhs rhs ihleft ihright =>
      rw [reads, accesses, ihleft, ihright, List.filter_append, List.map_append]

/-- The names that an expression reads are those it accesses with this accessor. -/
theorem mem_reads_iff {accessor : Accessor} {name : String} {e : Expr} :
    name ∈ e.reads accessor ↔ (accessor, name) ∈ e.accesses := by
  rw [reads_eq]
  simp

end Expr

namespace Token

/-- The accessor that starts at the first of these tokens, with its name. -/
def access? : List Token → Option (Accessor × String)
  | .word keyword :: .opening :: .word name :: .closing :: _ =>
    (Expr.accessor? keyword).map fun accessor => (accessor, String.ofList name)
  | _ => none

/-- The accessors in a row of tokens, as they come. -/
def accesses : List Token → List (Accessor × String)
  | [] => []
  | t :: ts => (access? (t :: ts)).toList ++ accesses ts

/-- A token with which no access begins adds none. -/
theorem accesses_of_none {t : Token} {ts : List Token} (h : access? (t :: ts) = none) :
    accesses (t :: ts) = accesses ts := by
  rw [accesses, h]
  rfl

/-- No accessor starts at a word that is none. -/
theorem access?_word {word : List Char} (h : Expr.accessor? word = none) (ts : List Token) :
    access? (.word word :: ts) = none := by
  unfold access?
  split
  · rename_i heq
    cases heq
    rw [h]
    rfl
  · rfl

/-- No access begins with a sign in front of an operand. -/
theorem access?_token (op : UnaryOp) (ts : List Token) : access? (op.token :: ts) = none := by
  cases op <;> rfl

end Token

namespace Expr

variable {e : Expr} {ts : List Token} {level : Nat}

/-- An operand has its accesses, whatever stands behind it. -/
theorem Atom.accesses_append (h : e.Atom ts) (rest : List Token) :
    Token.accesses (ts ++ rest) = e.accesses ++ Token.accesses rest := by
  cases h with
  | access accessor name => cases accessor <;> rfl
  | whole h => exact Token.accesses_of_none (Token.access?_word (accessor?_digits h) rest)
  | decimal whole fraction => rfl
  | boolean b => cases b <;> exact Token.accesses_of_none (Token.access?_word rfl rest)
  | text content => rfl

/-- **However a tree is written, its accessors come in the order of the tree**, whatever stands
behind it. -/
theorem Writes.accesses_append (h : Writes level e ts) :
    ∀ rest, Token.accesses (ts ++ rest) = e.accesses ++ Token.accesses rest := by
  -- the tokens behind a part are generalized, so a part is read with all that follows it
  induction h with
  | atom h => exact h.accesses_append
  | @group level e ts _ ih =>
      intro rest
      rw [List.append_assoc, List.cons_append, Token.accesses_of_none rfl, ih]
      rfl
  | @unary level op e ts _ ih =>
      intro rest
      rw [List.cons_append, Token.accesses_of_none (Token.access?_token op _), ih]
      rfl
  | @binary level op hlevel lhs rhs ls rs _ _ ihleft ihright =>
      intro rest
      rw [List.append_assoc, ihleft, List.cons_append, Token.accesses_of_none rfl, ihright,
        Expr.accesses, List.append_assoc]

/-- The accesses of an expression are those of every way to write it. -/
theorem Writes.accesses (h : Writes level e ts) : Token.accesses ts = e.accesses := by
  have happend := h.accesses_append []
  rwa [List.append_nil, Token.accesses, List.append_nil] at happend

/-- The tokens of a source that is an expression have the accessors of its tree. -/
theorem exists_scan_of_parse {source : String} (h : parse source = .ok e) :
    ∃ ts, Token.scan source.toList = some ts ∧ Token.accesses ts = e.accesses := by
  obtain ⟨ts, hwrites, hspelled⟩ := parse_eq_ok_iff.mp h
  exact ⟨ts, Token.scan_of_spelled hspelled hwrites.joined.meets, hwrites.accesses⟩

end Expr

/-! ## Contexts that answer alike -/

/-- What may be asked of a context: names by accessor. -/
abbrev Readings := Accessor → String → Prop

/-- The two contexts give the same answers for these names, refusals included. -/
structure Context.Alike (readings : Readings) (ctx ctx' : Context) : Prop where
  item : ∀ name, readings .item name → ctx.item name = ctx'.item name
  var : ∀ name, readings .var name → ctx.var name = ctx'.var name

variable {ctx ctx' ctx'' : Context} {readings readings' : Readings}

namespace Context.Alike

/-- A context is like itself. -/
theorem refl (readings : Readings) (ctx : Context) : ctx.Alike readings ctx :=
  ⟨fun _ _ => rfl, fun _ _ => rfl⟩

/-- Likeness to a third context goes by way of the second. -/
theorem trans (h : ctx.Alike readings ctx') (h' : ctx'.Alike readings ctx'') :
    ctx.Alike readings ctx'' :=
  ⟨fun name hname => (h.item name hname).trans (h'.item name hname),
    fun name hname => (h.var name hname).trans (h'.var name hname)⟩

/-- Contexts that are alike in some readings are alike in fewer. -/
theorem mono (h : ctx.Alike readings ctx')
    (hle : ∀ accessor name, readings' accessor name → readings accessor name) :
    ctx.Alike readings' ctx' :=
  ⟨fun name hname => h.item name (hle .item name hname),
    fun name hname => h.var name (hle .var name hname)⟩

/-- Contexts that are alike give the same answer to a reading of theirs. -/
theorem access {accessor : Accessor} {name : String} (h : ctx.Alike readings ctx')
    (hname : readings accessor name) : ctx.access accessor name = ctx'.access accessor name := by
  cases accessor with
  | item => rw [Context.access, Context.access, h.item name hname]
  | var => exact h.var name hname

end Context.Alike

/-! ## Expressions -/

namespace Expr

/-- What an expression reads. -/
def Reads (e : Expr) : Readings := fun accessor name => name ∈ e.reads accessor

/-- **Two evaluations go the same way if they are answered alike.** -/
theorem eval_congr : ∀ {e : Expr}, ctx.Alike e.Reads ctx' → e.eval ctx = e.eval ctx' := by
  intro e
  induction e with
  | literal value => exact fun _ => rfl
  | access accessor name =>
      intro h
      refine h.access ?_
      rw [Reads, reads, if_pos rfl]
      exact List.mem_singleton_self name
  | unary op operand ih =>
      intro h
      have hoperand : operand.eval ctx = operand.eval ctx' := ih h
      cases op <;> rw [eval, eval, hoperand]
  | binary op lhs rhs ihleft ihright =>
      intro h
      -- where the left operands come to the same, they decide alike whether the right ones count
      have hleft : lhs.eval ctx = lhs.eval ctx' :=
        ihleft (h.mono fun _ _ hname => List.mem_append_left _ hname)
      have hright : rhs.eval ctx = rhs.eval ctx' :=
        ihright (h.mono fun _ _ hname => List.mem_append_right _ hname)
      cases op <;> simp only [eval, hleft, hright]

/-- An expression without accessors has the same value in all contexts. -/
theorem eval_of_accesses_nil {e : Expr} (h : e.accesses = []) (ctx ctx' : Context) :
    e.eval ctx = e.eval ctx' := by
  have hnone (accessor : Accessor) (name : String) : ¬ e.Reads accessor name := by
    rw [Reads, mem_reads_iff, h]
    exact List.not_mem_nil
  exact eval_congr ⟨fun name hname => absurd hname (hnone .item name),
    fun name hname => absurd hname (hnone .var name)⟩

/-- An accessor is refused by itself where expressions stand alone. -/
theorem access_standalone {accessor : Accessor} {name : String} :
    Context.standalone.access accessor name = .error (.accessorNotAllowed accessor name) := by
  cases accessor <;> rfl

/-- **Only an accessor is refused as one**, where an expression stands alone. -/
theorem mem_accesses_of_not_allowed {e : Expr} {accessor : Accessor} {name : String}
    (h : e.eval .standalone = .error (.accessorNotAllowed accessor name)) :
    (accessor, name) ∈ e.accesses := by
  rcases e.failsBy_of_eval _ h with hoperator | ⟨found, other, hmem, haccess⟩
  · nomatch hoperator
  · rw [access_standalone] at haccess
    cases haccess
    exact mem_reads_iff.mp hmem

end Expr

/-! ## Guards, tags and forks -/

namespace Condition

/-- What a guard reads: what its alternatives do. -/
def Reads (condition : Condition) : Readings := fun accessor name =>
  ∃ source ∈ condition, ∃ e, Expr.parse source = .ok e ∧ e.Reads accessor name

/-- The same alternatives hold in contexts that are alike in what the condition reads. -/
theorem any_holds_congr {condition : Condition} {alternatives : List Expr}
    (hparse : condition.parse = .ok alternatives) (h : ctx.Alike condition.Reads ctx') :
    alternatives.any (Expr.holds ctx) = alternatives.any (Expr.holds ctx') := by
  have hsources := parse_eq_ok_iff.mp hparse
  clear hparse
  induction hsources with
  | nil => rfl
  | @cons source e rest others hsource _ ih =>
      have hhead : e.eval ctx = e.eval ctx' :=
        Expr.eval_congr (h.mono fun _ _ hname => ⟨source, List.mem_cons_self, e, hsource, hname⟩)
      have hrest := ih <| h.mono fun _ _ ⟨other, hother, hreads⟩ =>
        ⟨other, List.mem_cons_of_mem source hother, hreads⟩
      rw [List.any_cons, List.any_cons, Expr.holds, Expr.holds, hhead, hrest]

/-- **A guard depends on what it reads.** -/
theorem evaluate_congr {condition : Condition} (h : ctx.Alike condition.Reads ctx') :
    condition.evaluate ctx = condition.evaluate ctx' := by
  cases hparse : condition.parse with
  | error error => rw [evaluate, evaluate, hparse, Except.map, Except.map]
  | ok alternatives =>
      rw [evaluate_of_parse hparse, evaluate_of_parse hparse, anyHolds, anyHolds,
        any_holds_congr hparse h]

end Condition

namespace Template

/-- What a part of a text reads: what its guard does. -/
def Segment.Reads : Segment → Readings
  | .plain _ => fun _ _ => False
  | .tag guard _ => Condition.Reads [String.ofList guard]

/-- What the tags of a text read. -/
def Reads (text : String) : Readings := fun accessor name =>
  ∃ segment ∈ segments text.toList, segment.Reads accessor name

/-- **A tag depends on what it reads.** -/
theorem Segment.resolve_congr : ∀ {segment : Segment}, ctx.Alike segment.Reads ctx' →
    segment.resolve ctx = segment.resolve ctx'
  | .plain _, _ => rfl
  | .tag guard body, h => by rw [resolve, resolve, Condition.evaluate_congr h]

/-- The same parts come to the same text in contexts that are alike in what they read. -/
theorem resolve_congr {parts : List Segment} (h : ∀ segment ∈ parts, ctx.Alike segment.Reads ctx') :
    resolve ctx parts = resolve ctx' parts := by
  induction parts with
  | nil => rfl
  | cons segment rest ih =>
      obtain ⟨hhead, hrest⟩ := List.forall_mem_cons.mp h
      rw [resolve_cons, resolve_cons, Segment.resolve_congr hhead, ih hrest]

/-- The same text is prepared in contexts that are alike in what it reads. -/
theorem prepare_congr {text : String} (h : ctx.Alike (Reads text) ctx') :
    prepare ctx text = prepare ctx' text := by
  have hparts : ∀ segment ∈ segments text.toList, ctx.Alike segment.Reads ctx' :=
    fun segment hsegment => h.mono fun _ _ hname => ⟨segment, hsegment, hname⟩
  rw [prepare, prepare, resolve_congr hparts]

end Template

/-- The same fork is taken in contexts that are alike in what the guards read. -/
theorem Fork.first_congr {forks : List Fork}
    (h : ∀ fork ∈ forks, ctx.Alike fork.condition.Reads ctx') :
    Fork.first ctx forks = Fork.first ctx' forks := by
  induction forks with
  | nil => rfl
  | cons fork rest ih =>
      obtain ⟨hhead, hrest⟩ := List.forall_mem_cons.mp h
      rw [Fork.first, Fork.first, Condition.evaluate_congr hhead, ih hrest]

namespace Relay

/-- What the forks of a relay read. -/
def Reads (relay : Relay) : Readings := fun accessor name =>
  ∃ fork ∈ relay.forks, fork.condition.Reads accessor name

/-- **The fork that is selected depends on what the forks read.** -/
theorem selectFork_congr {relay : Relay} (h : ctx.Alike relay.Reads ctx') :
    relay.selectFork ctx = relay.selectFork ctx' :=
  Fork.first_congr fun fork hfork => h.mono fun _ _ hname => ⟨fork, hfork, hname⟩

end Relay

/-! ## Changes elsewhere -/

/-- Whether a part of the state is one that is read. -/
def State.Part.IsRead (readings : Readings) : State.Part → Prop
  | .amount item => readings .item item
  | .value name => readings .var name
  | .unlocked | .message | .phase => False

/-- A change of a part that is not read goes unnoticed. -/
theorem State.EqualBut.alike {s s' : State} {part : State.Part} (h : s.EqualBut part s')
    (hpart : ¬ part.IsRead readings) (w : World) :
    (s.context w).Alike readings (s'.context w) := by
  cases h with
  | @amount item inventory hothers =>
      refine ⟨fun name hname => congrArg Except.ok ?_, fun name hname => rfl⟩
      -- the item that changed is not among those that are read
      have hne : item ≠ name := fun heq => hpart (heq ▸ hname)
      rw [State.itemCount, State.itemCount, hothers name hne]
  | @value changed values hothers =>
      refine ⟨fun name hname => rfl, fun name hname => congrArg Except.ok ?_⟩
      have hne : changed ≠ name := fun heq => hpart (heq ▸ hname)
      rw [State.variableValue, State.variableValue, hothers name hne]
  | unlocked names => exact .refl readings _
  | message text => exact .refl readings _
  | phase phase => exact .refl readings _

namespace HostCall

/-- The call is about a part of the state that is not read. -/
def Spares (readings : Readings) (call : HostCall) : Prop :=
  ∃ part, call.part? = some part ∧ ¬ part.IsRead readings

/-- **Calls that spare what is read make no difference to it**, however many there are. -/
theorem alike_playAll {calls : List HostCall} (h : ∀ call ∈ calls, call.Spares readings)
    (w : World) : ∀ s : State,
      (s.context w).Alike readings ((playAll calls w s).state.context w) := by
  induction calls with
  | nil => exact fun s => .refl readings _
  | cons call rest ih =>
      intro s
      obtain ⟨⟨part, hpart, hspared⟩, hrest⟩ := List.forall_mem_cons.mp h
      rw [playAll_cons]
      exact ((equalBut_play hpart).alike hspared w).trans (ih hrest _)

end HostCall

/-- **An expression reads what it names, and nothing else.** Two contexts that answer alike for its
variables and items give it the same value or the same error, and so they do with guards, tags and
forks. The names are listed in the order of the source, whatever way the tree is written in. An
expression without accessors is worth the same alone as in any session, and only an accessor is
refused as one. Calls that are about other items and variables change no guard, no text with tags
and no selected fork. -/
theorem expressions_read_what_they_name (e : Expr) :
    (∀ ctx ctx' : Context, (∀ name ∈ e.variableNames, ctx.var name = ctx'.var name) →
      (∀ name ∈ e.itemNames, ctx.item name = ctx'.item name) → e.eval ctx = e.eval ctx') ∧
    e.variableNames = (e.accesses.filter (·.1 = .var)).map Prod.snd ∧
    (∀ level ts, Expr.Writes level e ts → Token.accesses ts = e.accesses) ∧
    (∀ source, Expr.parse source = .ok e →
      ∃ ts, Token.scan source.toList = some ts ∧ Token.accesses ts = e.accesses) ∧
    (e.accesses = [] → ∀ (w : World) (s : State), e.eval .standalone = e.eval (s.context w)) ∧
    (∀ accessor name, e.eval .standalone = .error (.accessorNotAllowed accessor name) →
      (accessor, name) ∈ e.accesses) ∧
    (∀ ctx ctx' : Context,
      (∀ condition : Condition, ctx.Alike condition.Reads ctx' →
        condition.evaluate ctx = condition.evaluate ctx') ∧
      (∀ text, ctx.Alike (Template.Reads text) ctx' →
        Template.prepare ctx text = Template.prepare ctx' text) ∧
      ∀ relay : Relay, ctx.Alike relay.Reads ctx' → relay.selectFork ctx = relay.selectFork ctx') ∧
    ∀ (w : World) (s s' : State) (calls : List HostCall),
      (HostCall.playAll calls w s).state = s' →
      (∀ condition : Condition, (∀ call ∈ calls, call.Spares condition.Reads) →
        condition.evaluate (s.context w) = condition.evaluate (s'.context w)) ∧
      (∀ text, (∀ call ∈ calls, call.Spares (Template.Reads text)) →
        Template.prepare (s.context w) text = Template.prepare (s'.context w) text) ∧
      ∀ relay : Relay, (∀ call ∈ calls, call.Spares relay.Reads) →
        relay.selectFork (s.context w) = relay.selectFork (s'.context w) := by
  refine ⟨?_, e.reads_eq .var, ?_, ?_, ?_, ?_, ?_, ?_⟩
  · intro ctx ctx' hvar hitem
    exact Expr.eval_congr ⟨hitem, hvar⟩
  · intro level ts hwrites
    exact hwrites.accesses
  · intro source hparse
    exact Expr.exists_scan_of_parse hparse
  · intro hnone w s
    exact Expr.eval_of_accesses_nil hnone _ _
  · intro accessor name hrefused
    exact Expr.mem_accesses_of_not_allowed hrefused
  · intro ctx ctx'
    exact ⟨fun _ h => Condition.evaluate_congr h, fun _ h => Template.prepare_congr h,
      fun _ h => Relay.selectFork_congr h⟩
  · rintro w s s' calls rfl
    exact ⟨fun _ h => Condition.evaluate_congr (HostCall.alike_playAll h w s),
      fun _ h => Template.prepare_congr (HostCall.alike_playAll h w s),
      fun _ h => Relay.selectFork_congr (HostCall.alike_playAll h w s)⟩

/-- A guard about an owl and some coins. -/
def Condition.owlCalls : Condition := ["var( owl )=='grey' || !(item(coin)&& var(owl))"]

/-- The owl and the coins are all that is read, whatever else is set and lost. -/
theorem owl_and_coin_are_read :
    ∃ e ts, Condition.parse .owlCalls = .ok [e] ∧ e.variableNames = ["owl", "owl"] ∧
      Token.accesses ts = [(.var, "owl"), (.item, "coin"), (.var, "owl")] ∧
      (.var, "owl") ∈ e.accesses ∧
      ∃ s', (HostCall.playAll [.setVariable "cat" (.text "grey"), .removeItem "lamp",
          .dispatch (.consume "rope" 1)] ⟨Quest.purse.graph, {}⟩ .withPurse).state = s' ∧
        Condition.evaluate (State.withPurse.context ⟨Quest.purse.graph, {}⟩) .owlCalls =
          Condition.evaluate (s'.context ⟨Quest.purse.graph, {}⟩) .owlCalls := by
  let e : Expr := .binary .or (.binary .eq (.access .var "owl") (.literal (.text "grey")))
    (.unary .not (.binary .and (.access .item "coin") (.access .var "owl")))
  have hparse : Expr.parse "var( owl )=='grey' || !(item(coin)&& var(owl))" = .ok e := by cbv
  obtain ⟨-, hnames, -, hscan, -, hrefused, -, hcalls⟩ := expressions_read_what_they_name e
  obtain ⟨ts, -, htokens⟩ := hscan _ hparse
  -- the guard reads what its only source does
  have hreads {accessor : Accessor} {name : String}
      (h : Condition.Reads .owlCalls accessor name) : (accessor, name) ∈ e.accesses := by
    obtain ⟨source, hsource, found, hfound, hname⟩ := h
    rw [List.mem_singleton.mp hsource, hparse] at hfound
    cases hfound
    exact Expr.mem_reads_iff.mp hname
  refine ⟨e, ts, ?_, hnames.trans (by decide), htokens, hrefused .var "owl" rfl, _, rfl,
    (hcalls _ _ _ _ rfl).1 _ ?_⟩
  · exact Condition.parse_eq_ok_iff.mpr (.cons hparse .nil)
  · simp only [List.forall_mem_cons, List.not_mem_nil, false_imp_iff, implies_true, and_true]
    exact ⟨⟨.value "cat", rfl, fun h => absurd (hreads h) (by decide)⟩,
      ⟨.amount "lamp", rfl, fun h => absurd (hreads h) (by decide)⟩,
      ⟨.amount "rope", rfl, fun h => absurd (hreads h) (by decide)⟩⟩

end Narrative
