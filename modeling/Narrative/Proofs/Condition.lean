import Mathlib
import Narrative.Proofs.Expr.Parsing
import Narrative.Proofs.Expr.Runtime
import Narrative.Proofs.Expr.Verdict
import Narrative.Proofs.Lint

/-!
# What guards mean

A guard is the disjunction of its alternatives. The texts of the alternatives can be joined by `||`
as they are: no parentheses are needed, since nothing binds less tightly, and the regrouping to the
left makes no difference to the value.

* **`Expr.Writes.disjoin`** — the tokens of two trees with `||` between them write a tree that has
  the value of their disjunction in every context.
* **`Condition.exists_joined`** — so do the joined texts of a guard.
* **`Condition.evaluate_eq_true_iff`**, **`Condition.evaluate_eq_error_iff`** — when a guard holds,
  and what its evaluation fails with.
-/

namespace Narrative

/-! ## Texts in a row -/

/-- A gap in front of a spelling makes no difference. -/
theorem Spelled.behind_gap {gap cs : List Char} {ts : List Token} (hgap : Gap gap)
    (h : Spelled ts cs) : Spelled ts (gap ++ cs) := by
  induction gap with
  | nil => exact h
  | cons c gap ih =>
      obtain ⟨hc, hgap⟩ := List.forall_mem_cons.mp hgap
      exact (ih hgap).blank hc

/-- Two spellings side by side spell all their tokens. -/
theorem Spelled.append {ts ts' : List Token} {cs cs' : List Char} (h : Spelled ts cs)
    (h' : Spelled ts' cs') : Spelled (ts ++ ts') (cs ++ cs') := by
  induction h with
  | nil hgap => exact h'.behind_gap hgap
  | cons hgap hlexeme _ ih =>
      rw [List.cons_append, List.append_assoc]
      exact .cons hgap hlexeme ih

/-- The sources of two alternatives joined by the sign for "or" spell their disjunction. -/
theorem Spelled.disjoin {ls rs : List Token} {cs cs' : List Char} (h : Spelled ls cs)
    (h' : Spelled rs cs') :
    Spelled (ls ++ .operator .or :: rs) (cs ++ " || ".toList ++ cs') := by
  have hblank : Gap [' '] := fun c hc => .inl (List.mem_singleton.mp hc)
  have hor : Spelled [.operator .or] " || ".toList := .cons hblank (.operator .or) (.nil hblank)
  have hboth := (h.append hor).append h'
  rwa [List.append_assoc] at hboth

namespace Expr

variable {ctx : Context} {lhs rhs e : Expr} {ls rs ts : List Token} {level : Nat}

/-! ## Disjunctions -/

/-- Where the left alternative is not truthy, the right one decides. -/
theorem eval_or_of_falsy {value : Value} (h : lhs.eval ctx = .ok value)
    (hfalsy : value.truthy = false) (rhs : Expr) :
    (binary .or lhs rhs).eval ctx = (rhs.eval ctx).map fun right => .bool right.truthy := by
  rw [eval_or, verdict_of_ok h, hfalsy, verdict]
  cases rhs.eval ctx <;> rfl

/-- The value of a disjunction depends on its sides by their values alone. -/
theorem eval_or_congr {lhs' rhs' : Expr} (hl : lhs.eval ctx = lhs'.eval ctx)
    (hr : rhs.eval ctx = rhs'.eval ctx) :
    (binary .or lhs rhs).eval ctx = (binary .or lhs' rhs').eval ctx := by
  rw [eval, eval, hl, hr]

/-! ## Joined texts -/

/-- No operator binds less tightly than `||`, so every expression can stand in front of one. -/
theorem Writes.in_front_of_or (h : Writes 0 e ts) : Writes BinaryOp.or.tier e ts := by
  cases h with
  | atom h => exact .atom h
  | group h => exact .group h
  | unary op h => exact .unary op h
  | @binary _ op _ _ _ _ _ hl hr =>
      have hloose : BinaryOp.or.tier ≤ op.tier := by cases op <;> decide
      exact .binary hloose hl hr

/-- **Tokens joined by `||` write a disjunction.** Induction on the way of writing the second part:
where it is a disjunction itself, the first part joins its left operand. -/
theorem Writes.disjoin (hl : Writes 0 lhs ls) (hr : Writes level rhs rs) :
    ∃ e, Writes 0 e (ls ++ .operator .or :: rs) ∧
      ∀ ctx, e.eval ctx = (Expr.binary .or lhs rhs).eval ctx := by
  have hfront := hl.in_front_of_or
  have hwhole {rhs : Expr} {rs : List Token} (hr : Writes (BinaryOp.or.tier + 1) rhs rs) :
      ∃ e, Writes 0 e (ls ++ .operator .or :: rs) ∧
        ∀ ctx, e.eval ctx = (Expr.binary .or lhs rhs).eval ctx :=
    ⟨Expr.binary .or lhs rhs, .binary (Nat.zero_le _) hfront hr, fun _ => rfl⟩
  -- a disjunction is read from the left, so the right side must be taken apart where it is one
  -- itself
  induction hr with
  | atom h => exact hwhole (.atom h)
  | group h => exact hwhole (.group h)
  | unary op h => exact hwhole (.unary op h)
  | @binary _ op hlevel inner last ls' rs' hinner hlast ih =>
      by_cases hop : op = .or
      · subst hop
        obtain ⟨e, he, heval⟩ := ih
        refine ⟨Expr.binary .or e last, ?_, fun ctx => ?_⟩
        · rw [← List.cons_append, ← List.append_assoc]
          exact .binary (Nat.zero_le _) he.in_front_of_or hlast
        · rw [eval_or_congr (heval ctx) rfl, eval_or_assoc]
      · -- every other operator binds tighter and stays whole on the right
        have htight : BinaryOp.or.tier + 1 ≤ op.tier := by
          cases op <;> first | decide | exact absurd rfl hop
        exact hwhole (.binary htight hinner hlast)

/-- The disjunction of one or more expressions, without any regrouping. -/
def disjunction (e : Expr) : List Expr → Expr
  | [] => e
  | other :: rest => .binary .or e (disjunction other rest)

/-- A disjunction of expressions that have values has one too, and it is truthy where one of them
is. -/
theorem eval_disjunction {rest : List Expr}
    (h : ∀ alternative ∈ e :: rest, ∃ value, alternative.eval ctx = .ok value) :
    ∃ value, (disjunction e rest).eval ctx = .ok value ∧
      value.truthy = (e :: rest).any (holds ctx) := by
  induction rest generalizing e with
  | nil =>
      obtain ⟨value, hvalue⟩ := h e List.mem_cons_self
      refine ⟨value, hvalue, ?_⟩
      rw [List.any_cons, List.any_nil, Bool.or_false, holds, hvalue]
  | cons other rest ih =>
      obtain ⟨⟨left, hleft⟩, hrest⟩ := List.forall_mem_cons.mp h
      have hholds : e.holds ctx = left.truthy := by rw [holds, hleft]
      rw [disjunction, List.any_cons, hholds]
      cases htruthy : left.truthy with
      | true => exact ⟨_, eval_or_of_truthy hleft htruthy _, rfl⟩
      | false =>
          -- the later alternatives decide
          obtain ⟨right, hright, hany⟩ := ih hrest
          rw [eval_or_of_falsy hleft htruthy, hright]
          exact ⟨_, rfl, hany⟩

/-- The only error of reading a source names that source. -/
theorem parse_eq_error {source : String} {error : ExprError} (h : parse source = .error error) :
    error = .malformed source := by
  unfold parse at h
  split at h
  · nomatch h
  · exact (Except.error.inj h).symm

end Expr

namespace Condition

variable {ctx : Context} {condition front rest : Condition} {source : String} {error : ExprError}

/-! ## Parsing a guard -/

/-- The first source is read before the others. -/
theorem parse_cons (source : String) (rest : Condition) :
    parse (source :: rest) =
      Expr.parse source >>= fun e => (parse rest).map (e :: ·) := by
  rw [parse, List.mapM_cons]
  cases Expr.parse source with
  | error error => rfl
  | ok e =>
      show (parse rest >>= fun alternatives => .ok (e :: alternatives)) = _
      cases parse rest <;> rfl

/-- Every source of a guard that was parsed has its tree. -/
theorem parse_eq_ok_iff {alternatives : List Expr} :
    condition.parse = .ok alternatives ↔
      List.Forall₂ (fun source e => Expr.parse source = .ok e) condition alternatives := by
  induction condition generalizing alternatives with
  | nil =>
      rw [List.forall₂_nil_left_iff]
      exact ⟨fun h => (Except.ok.inj h).symm, fun h => h ▸ rfl⟩
  | cons source rest ih =>
      rw [parse_cons, List.forall₂_cons_left_iff]
      constructor
      · intro h
        -- all sources have to be read for the whole to be
        cases hhead : Expr.parse source with
        | error error => rw [hhead] at h; nomatch h
        | ok e =>
            cases hrest : parse rest with
            | error error => rw [hhead, hrest] at h; nomatch h
            | ok others =>
                rw [hhead, hrest] at h
                exact ⟨e, others, rfl, ih.mp hrest, (Except.ok.inj h).symm⟩
      · rintro ⟨e, others, hhead, hrest, rfl⟩
        rw [hhead, ih.mpr hrest]
        rfl

/-- Parsing a guard fails at its first malformed source. -/
theorem parse_eq_error_iff :
    condition.parse = .error error ↔
      ∃ front source rest, condition = front ++ source :: rest ∧ Readable front ∧
        Expr.parse source = .error error := by
  induction condition with
  | nil =>
      constructor
      · intro h
        nomatch h
      · rintro ⟨front, source, rest, hsplit, -⟩
        cases front <;> nomatch hsplit
  | cons head tail ih =>
      rw [parse_cons]
      cases hhead : Expr.parse head with
      | error found =>
          constructor
          · intro h
            cases h
            exact ⟨[], head, tail, rfl, List.forall_mem_nil _, hhead⟩
          · rintro ⟨front, source, rest, hsplit, hfront, hsource⟩
            cases front with
            | nil =>
                cases hsplit
                rw [hhead] at hsource
                rw [Except.error.inj hsource]
                rfl
            | cons other front =>
                -- the head is malformed, so nothing is in front of the first malformed source
                cases hsplit
                obtain ⟨e, he⟩ := hfront head List.mem_cons_self
                rw [hhead] at he
                nomatch he
      | ok e =>
          have hmap : (Except.ok e >>= fun e => (parse tail).map (e :: ·)) = .error error ↔
              parse tail = .error error := by
            cases parse tail with
            | error found => exact Iff.rfl
            | ok others => exact ⟨nofun, nofun⟩
          rw [hmap, ih]
          constructor
          · rintro ⟨front, source, rest, rfl, hfront, hsource⟩
            exact ⟨head :: front, source, rest, rfl,
              List.forall_mem_cons.mpr ⟨⟨e, hhead⟩, hfront⟩, hsource⟩
          · rintro ⟨front, source, rest, hsplit, hfront, hsource⟩
            cases front with
            | nil =>
                cases hsplit
                rw [hhead] at hsource
                nomatch hsource
            | cons other front =>
                cases hsplit
                exact ⟨front, source, rest, rfl, (List.forall_mem_cons.mp hfront).2, hsource⟩

/-- The joined texts of a guard are an expression, and it has the value of the disjunction of the
alternatives. -/
theorem exists_joined {source : String} {rest : Condition} {e : Expr} {others : List Expr}
    (hsource : Expr.parse source = .ok e)
    (hrest : List.Forall₂ (fun source e => Expr.parse source = .ok e) rest others) :
    ∃ joined, Expr.parse (" || ".intercalate (source :: rest)) = .ok joined ∧
      ∀ ctx, joined.eval ctx = (Expr.disjunction e others).eval ctx := by
  induction hrest generalizing source e with
  | nil =>
      rw [String.intercalate_singleton]
      exact ⟨e, hsource, fun _ => rfl⟩
  | @cons next other rest others hnext _ ih =>
      -- the rest is joined already; what is left is one disjunction of two sources
      obtain ⟨later, hlater, heval⟩ := ih hnext
      obtain ⟨ls, hwrites, hspelled⟩ := Expr.parse_eq_ok_iff.mp hsource
      obtain ⟨rs, hwrites', hspelled'⟩ := Expr.parse_eq_ok_iff.mp hlater
      obtain ⟨joined, hjoined, hvalue⟩ := hwrites.disjoin hwrites'
      refine ⟨joined, Expr.parse_eq_ok_iff.mpr ⟨_, hjoined, ?_⟩, fun ctx => ?_⟩
      · rw [String.intercalate_cons_cons, String.toList_append, String.toList_append]
        exact hspelled.disjoin hspelled'
      · rw [hvalue, Expr.disjunction, Expr.eval_or_congr rfl (heval ctx)]

/-! ## Evaluating a guard -/

/-- The source stands for an expression that has a value in the context. -/
def HasValue (ctx : Context) (source : String) (value : Value) : Prop :=
  Expr.parse source >>= Expr.eval ctx = .ok value

/-- A source that can be read has the value of its expression. -/
theorem hasValue_iff {e : Expr} {value : Value} (h : Expr.parse source = .ok e) :
    HasValue ctx source value ↔ e.eval ctx = .ok value := by
  rw [HasValue, h]
  exact Iff.rfl

/-- A condition that was read has readable sources. -/
theorem readable_of_parse {alternatives : List Expr} (h : condition.parse = .ok alternatives) :
    condition.Readable := by
  have hsources := parse_eq_ok_iff.mp h
  clear h
  induction hsources with
  | nil => exact List.forall_mem_nil _
  | cons hhead _ ih => exact List.forall_mem_cons.mpr ⟨⟨_, hhead⟩, ih⟩

/-- Of alternatives that were parsed one holds where one of the sources has a truthy value. -/
theorem any_holds_iff {alternatives : List Expr} (h : condition.parse = .ok alternatives) :
    alternatives.any (Expr.holds ctx) = true ↔
      ∃ source ∈ condition, ∃ value, HasValue ctx source value ∧ value.truthy = true := by
  have hsources := parse_eq_ok_iff.mp h
  clear h
  induction hsources with
  | nil => simp
  | @cons source e rest others hhead _ ih =>
      -- an expression holds where it has a value and that is truthy, so a failing one does not
      have hholds : e.holds ctx = true ↔
          ∃ value, HasValue ctx source value ∧ value.truthy = true := by
        simp only [hasValue_iff hhead, Expr.holds]
        cases e.eval ctx <;> simp
      rw [List.any_cons, Bool.or_eq_true, List.exists_mem_cons_iff]
      exact or_congr hholds ih

/-- Where every source has a value, so has every expression. -/
theorem exists_eval {alternatives : List Expr} (h : condition.parse = .ok alternatives)
    (hvalues : ∀ source ∈ condition, ∃ value, HasValue ctx source value) :
    ∀ e ∈ alternatives, ∃ value, e.eval ctx = .ok value := by
  have hsources := parse_eq_ok_iff.mp h
  clear h
  induction hsources with
  | nil => exact List.forall_mem_nil _
  | cons hhead _ ih =>
      obtain ⟨⟨value, hvalue⟩, hrest⟩ := List.forall_mem_cons.mp hvalues
      exact List.forall_mem_cons.mpr ⟨⟨value, (hasValue_iff hhead).mp hvalue⟩, ih hrest⟩

/-- A condition that can be read never fails at run time. -/
theorem evaluate_of_parse {alternatives : List Expr} (h : condition.parse = .ok alternatives) :
    condition.evaluate ctx = .ok (anyHolds ctx alternatives) := by
  rw [evaluate, h]
  rfl

/-- The value of a guard that has alternatives. -/
theorem evaluate_of_ne_nil {alternatives : List Expr} (hne : condition ≠ [])
    (h : condition.parse = .ok alternatives) :
    condition.evaluate ctx = .ok (alternatives.any (Expr.holds ctx)) := by
  cases parse_eq_ok_iff.mp h with
  | nil => exact absurd rfl hne
  | cons => exact evaluate_of_parse h

/-- **A guard holds where one of its alternatives has a truthy value**, whatever the others do. -/
theorem evaluate_eq_true_iff (hne : condition ≠ []) (h : condition.Readable) :
    condition.evaluate ctx = .ok true ↔
      ∃ source ∈ condition, ∃ value, HasValue ctx source value ∧ value.truthy = true := by
  obtain ⟨alternatives, hparse⟩ := parse_of_readable h
  rw [evaluate_of_ne_nil hne hparse, ← any_holds_iff hparse]
  exact ⟨Except.ok.inj, congrArg _⟩

/-- **Evaluation fails at the first malformed source**, and in no other way. -/
theorem evaluate_eq_error_iff :
    condition.evaluate ctx = .error error ↔
      ∃ front source rest, condition = front ++ source :: rest ∧ Readable front ∧
        Expr.parse source = .error error := by
  rw [← parse_eq_error_iff, evaluate]
  cases condition.parse with
  | error found => exact ⟨fun h => congrArg _ (Except.error.inj h), fun h => by rw [h]; rfl⟩
  | ok alternatives => exact iff_of_false (fun h => by cases h) (fun h => by cases h)

/-- A condition fails exactly where one of its sources cannot be read. -/
theorem exists_evaluate_error_iff :
    (∃ error, condition.evaluate ctx = .error error) ↔ ¬ condition.Readable := by
  cases hparse : condition.parse with
  | error error =>
      have hfails : condition.evaluate ctx = .error error := by rw [evaluate, hparse]; rfl
      refine iff_of_true ⟨error, hfails⟩ fun hreadable => ?_
      obtain ⟨alternatives, hok⟩ := parse_of_readable hreadable
      rw [hparse] at hok
      cases hok
  | ok alternatives =>
      -- a guard that was read decides something: what fails while it runs counts as false
      refine iff_of_false ?_ (not_not_intro (readable_of_parse hparse))
      rintro ⟨error, herror⟩
      rw [evaluate_of_parse hparse] at herror
      cases herror

/-- Where no alternative fails, a guard is worth what the joined texts of it are worth. -/
theorem evaluate_eq_joined (hne : condition ≠ []) (h : condition.Readable) :
    ∃ joined, Expr.parse (" || ".intercalate condition) = .ok joined ∧
      ∀ ctx, (∀ source ∈ condition, ∃ value, HasValue ctx source value) →
        ∃ value, joined.eval ctx = .ok value ∧ condition.evaluate ctx = .ok value.truthy := by
  obtain ⟨alternatives, hparse⟩ := parse_of_readable h
  cases parse_eq_ok_iff.mp hparse with
  | nil => exact absurd rfl hne
  | cons hhead hrest =>
      obtain ⟨joined, hjoined, heval⟩ := exists_joined hhead hrest
      refine ⟨joined, hjoined, fun ctx hvalues => ?_⟩
      obtain ⟨value, hvalue, hany⟩ := Expr.eval_disjunction (exists_eval hparse hvalues)
      refine ⟨value, (heval ctx).trans hvalue, ?_⟩
      rw [evaluate_of_ne_nil hne hparse, hany]

end Condition

/-- **Guards are disjunctions.** The texts of a guard, joined by `||` without any parentheses, are
an expression, and where none of them fails while it is evaluated the guard is worth what that
expression is worth. A guard without malformed texts holds exactly where one of them has a truthy
value, in whatever order they come; without any text it holds. A guard with malformed texts fails
with the error of the first one, whatever stands in front of it, and no guard fails while it is
evaluated. -/
theorem guards_are_disjunctions (ctx : Context) (condition : Condition) :
    (condition ≠ [] → condition.Readable →
      (∃ joined, Expr.parse (" || ".intercalate condition) = .ok joined ∧
        ((∀ source ∈ condition, ∃ value, Condition.HasValue ctx source value) →
          ∃ value, joined.eval ctx = .ok value ∧
            condition.evaluate ctx = .ok value.truthy)) ∧
      (condition.evaluate ctx = .ok true ↔ ∃ source ∈ condition, ∃ value,
        Condition.HasValue ctx source value ∧ value.truthy = true) ∧
      ∀ others : Condition, condition.Perm others →
        others.evaluate ctx = condition.evaluate ctx) ∧
    (condition = [] → condition.evaluate ctx = .ok true) ∧
    ((∃ error, condition.evaluate ctx = .error error) ↔
      ∃ source ∈ condition, ∀ e, Expr.parse source ≠ .ok e) ∧
    (∀ error, condition.evaluate ctx = .error error ↔
      ∃ front source rest, condition = front ++ source :: rest ∧ Condition.Readable front ∧
        Expr.parse source = .error error) ∧
    ∀ error, condition.evaluate ctx = .error error → error.isRuntime = false := by
  refine ⟨fun hne hreadable => ⟨?_, Condition.evaluate_eq_true_iff hne hreadable,
    fun others hperm => ?_⟩, fun hnil => ?_, ?_, fun error => Condition.evaluate_eq_error_iff,
    fun error herror => ?_⟩
  · obtain ⟨joined, hjoined, hvalue⟩ := Condition.evaluate_eq_joined hne hreadable
    exact ⟨joined, hjoined, hvalue ctx⟩
  · -- both have a value, and it is true for the same reason
    have hothers : Condition.Readable others := fun source hsource =>
      hreadable source (hperm.mem_iff.mpr hsource)
    have hne' : others ≠ [] := fun hnil => hne (List.perm_nil.mp (hnil ▸ hperm))
    obtain ⟨here, hhere⟩ := Condition.evaluate_of_readable hreadable ctx
    obtain ⟨there, hthere⟩ := Condition.evaluate_of_readable hothers ctx
    have hsame : condition.evaluate ctx = .ok true ↔ others.evaluate ctx = .ok true := by
      rw [Condition.evaluate_eq_true_iff hne hreadable,
        Condition.evaluate_eq_true_iff hne' hothers]
      simp only [hperm.mem_iff]
    have hbool : here = true ↔ there = true := by
      rw [hhere, hthere] at hsame
      simpa using hsame
    rw [hhere, hthere, Bool.eq_iff_iff.mpr hbool]
  · rw [hnil]
    rfl
  · rw [Condition.exists_evaluate_error_iff]
    simp [Condition.Readable]
  · obtain ⟨front, source, rest, -, -, hparse⟩ := Condition.evaluate_eq_error_iff.mp herror
    rw [Expr.parse_eq_error hparse]
    rfl

/-- The second text binds more tightly than the first, and the first is a disjunction itself. In
the other guard the error of the second text comes out, although the first one holds. -/
theorem texts_joined_hold :
    (∃ joined value, Expr.parse "false || 'b' < 'a' || !false && 'x'" = .ok joined ∧
      joined.eval .standalone = .ok value ∧ value.truthy = true) ∧
    Condition.evaluate .standalone ["true", "var(owl) <", ")"] =
      .error (.malformed "var(owl) <") := by
  have hfirst : Expr.parse "false || 'b' < 'a'" = .ok (.binary .or (.literal (.bool false))
      (.binary .lt (.literal (.text "b")) (.literal (.text "a")))) := by cbv
  have hsecond : Expr.parse "!false && 'x'" = .ok (.binary .and
      (.unary .not (.literal (.bool false))) (.literal (.text "x"))) := by cbv
  have hfalse : Condition.HasValue .standalone "false || 'b' < 'a'" (.bool false) :=
    (Condition.hasValue_iff hfirst).mpr (by cbv)
  have htrue : Condition.HasValue .standalone "!false && 'x'" (.bool true) :=
    (Condition.hasValue_iff hsecond).mpr (by cbv)
  have hreadable : Condition.Readable ["false || 'b' < 'a'", "!false && 'x'"] :=
    List.forall_mem_cons.mpr ⟨⟨_, hfirst⟩, List.forall_mem_singleton.mpr ⟨_, hsecond⟩⟩
  obtain ⟨⟨joined, hjoined, hvalue⟩, hholds, -⟩ :=
    (guards_are_disjunctions .standalone ["false || 'b' < 'a'", "!false && 'x'"]).1
      (List.cons_ne_nil _ _) hreadable
  -- only the second source holds, which makes the whole true
  obtain ⟨value, heval, hguard⟩ :=
    hvalue (List.forall_mem_cons.mpr ⟨⟨_, hfalse⟩, List.forall_mem_singleton.mpr ⟨_, htrue⟩⟩)
  have hsome := hholds.mpr ⟨_, List.mem_cons_of_mem _ List.mem_cons_self, _, htrue, rfl⟩
  rw [hguard] at hsome
  refine ⟨⟨joined, value, hjoined, heval, Except.ok.inj hsome⟩, ?_⟩
  have hmalformed : Expr.parse "var(owl) <" = .error (.malformed "var(owl) <") := by cbv
  have hone : Expr.parse "true" = .ok (.literal (.bool true)) := by cbv
  obtain ⟨-, -, -, hfails, -⟩ := guards_are_disjunctions .standalone ["true", "var(owl) <", ")"]
  exact (hfails _).mpr ⟨["true"], "var(owl) <", [")"], rfl,
    List.forall_mem_singleton.mpr ⟨_, hone⟩, hmalformed⟩

end Narrative
