import Narrative.Expr.Eval

/-!
# Verdicts

All that a connective asks of an operand is its verdict: whether its value is truthy, or else the
error that it fails with. Verdicts are combined from left to right, and the second one counts only
where the first one leaves the matter open. The boolean laws hold of verdicts, errors included, so
they hold of expressions.

* **`Expr.eval_not`**, **`Expr.eval_and`**, **`Expr.eval_or`** — what a connective is worth is what
  the verdicts of its operands come to.
* **`Expr.boolean_laws_hold`** — the laws, and what is true of operators whose operands do not fail.
-/

namespace Narrative

/-- Whether a value is truthy, or why there is none. -/
abbrev Verdict := Except ExprError Bool

namespace Verdict

def not : Verdict → Verdict
  | .ok holds => .ok !holds
  | .error error => .error error

/-- The second verdict counts where the first one is positive. -/
def and : Verdict → Verdict → Verdict
  | .ok true, second => second
  | .ok false, _ => .ok false
  | .error error, _ => .error error

/-- The second verdict counts where the first one is negative. -/
def or : Verdict → Verdict → Verdict
  | .ok true, _ => .ok true
  | .ok false, second => second
  | .error error, _ => .error error

/-- What an expression is worth whose value is this verdict. -/
def worth (verdict : Verdict) : Except ExprError Value := verdict.map .bool

variable (x y z : Verdict)

/-! ## The laws

Where the first verdict is an error, both sides are that error. Where it is none, it settles which
of the others count, and those that do stand in the same order on both sides. -/

/-- The first side that decides is the same one, however a conjunction is grouped. -/
theorem and_assoc : (x.and y).and z = x.and (y.and z) := by
  rcases x with error | (_ | _) <;> rfl

/-- The first side that decides is the same one, however a disjunction is grouped. -/
theorem or_assoc : (x.or y).or z = x.or (y.or z) := by
  rcases x with error | (_ | _) <;> rfl

/-- A negated conjunction is the disjunction of the negations, failures included. -/
theorem not_and : (x.and y).not = x.not.or y.not := by
  rcases x with error | (_ | _) <;> rfl

/-- A negated disjunction is the conjunction of the negations, failures included. -/
theorem not_or : (x.or y).not = x.not.and y.not := by
  rcases x with error | (_ | _) <;> rfl

/-- A conjunction distributes over a disjunction: what decides on the left decides in both parts. -/
theorem and_or_distrib : x.and (y.or z) = (x.and y).or (x.and z) := by
  rcases x with error | (_ | _) <;> rfl

/-- A disjunction distributes over a conjunction: what decides on the left decides in both parts. -/
theorem or_and_distrib : x.or (y.and z) = (x.or y).and (x.or z) := by
  rcases x with error | (_ | _) <;> rfl

end Verdict

namespace Expr

variable {ctx : Context} {a b : Expr} {x y : Value}

/-- Whether the value of an expression is truthy, or why it has none. -/
def verdict (ctx : Context) (e : Expr) : Verdict := (e.eval ctx).map Value.truthy

/-- A value is judged by whether it is truthy. -/
theorem verdict_of_ok (h : a.eval ctx = .ok x) : a.verdict ctx = .ok x.truthy := by
  rw [verdict, h]
  rfl

/-! ## Connectives -/

/-- Negation asks for the verdict of its operand and nothing else. -/
theorem eval_not (ctx : Context) (a : Expr) :
    (unary .not a).eval ctx = (a.verdict ctx).not.worth := by
  rw [eval, verdict]
  cases a.eval ctx <;> rfl

/-- A conjunction comes to what the verdicts of its sides come to. -/
theorem eval_and (ctx : Context) (a b : Expr) :
    (binary .and a b).eval ctx = ((a.verdict ctx).and (b.verdict ctx)).worth := by
  rw [eval, verdict]
  cases a.eval ctx with
  | error error => rfl
  | ok value =>
      show (if value.truthy then _ else _) = (Verdict.and (.ok value.truthy) _).worth
      cases value.truthy with
      | false => rfl
      | true =>
          rw [verdict]
          cases b.eval ctx <;> rfl

/-- A disjunction comes to what the verdicts of its sides come to. -/
theorem eval_or (ctx : Context) (a b : Expr) :
    (binary .or a b).eval ctx = ((a.verdict ctx).or (b.verdict ctx)).worth := by
  rw [eval, verdict]
  cases a.eval ctx with
  | error error => rfl
  | ok value =>
      show (if value.truthy then _ else _) = (Verdict.or (.ok value.truthy) _).worth
      cases value.truthy with
      | true => rfl
      | false =>
          rw [verdict]
          cases b.eval ctx <;> rfl

/-- An expression that is worth a verdict has it. -/
theorem verdict_of_worth {verdict : Verdict} (h : a.eval ctx = verdict.worth) :
    a.verdict ctx = verdict := by
  rw [Expr.verdict, h]
  cases verdict <;> rfl

/-- The verdict of a negation. -/
@[simp] theorem verdict_not (ctx : Context) (a : Expr) :
    (unary .not a).verdict ctx = (a.verdict ctx).not :=
  verdict_of_worth (eval_not ctx a)

/-- The verdict of a conjunction. -/
@[simp] theorem verdict_and (ctx : Context) (a b : Expr) :
    (binary .and a b).verdict ctx = (a.verdict ctx).and (b.verdict ctx) :=
  verdict_of_worth (eval_and ctx a b)

/-- The verdict of a disjunction. -/
@[simp] theorem verdict_or (ctx : Context) (a b : Expr) :
    (binary .or a b).verdict ctx = (a.verdict ctx).or (b.verdict ctx) :=
  verdict_of_worth (eval_or ctx a b)

/-- Disjunctions can be regrouped, also where an operand fails. -/
theorem eval_or_assoc (a b c : Expr) (ctx : Context) :
    (binary .or (binary .or a b) c).eval ctx = (binary .or a (binary .or b c)).eval ctx := by
  rw [eval_or, eval_or, verdict_or, verdict_or, Verdict.or_assoc]

/-! ## Operands with values -/

/-- **Where both operands have a value, every operator comes to what it makes of the two values**,
also a connective that does not look at the second one. -/
theorem eval_binary_of_ok (ha : a.eval ctx = .ok x) (hb : b.eval ctx = .ok y) (op : BinaryOp) :
    (binary op a b).eval ctx = op.apply x y := by
  cases op with
  | and =>
      rw [eval_and, verdict_of_ok ha, verdict_of_ok hb, BinaryOp.apply]
      cases x.truthy <;> rfl
  | or =>
      rw [eval_or, verdict_of_ok ha, verdict_of_ok hb, BinaryOp.apply]
      cases x.truthy <;> rfl
  | _ =>
      rw [eval, ha, hb]
      · rfl
      all_goals nofun

/-- A left operand that is not truthy decides a conjunction, whatever stands on the right. -/
theorem eval_and_of_falsy (h : a.eval ctx = .ok x) (hfalsy : x.truthy = false) (b : Expr) :
    (binary .and a b).eval ctx = .ok (.bool false) := by
  rw [eval_and, verdict_of_ok h, hfalsy]
  rfl

/-- A truthy left operand decides a disjunction, whatever stands on the right. -/
theorem eval_or_of_truthy (h : a.eval ctx = .ok x) (htruthy : x.truthy = true) (b : Expr) :
    (binary .or a b).eval ctx = .ok (.bool true) := by
  rw [eval_or, verdict_of_ok h, htruthy]
  rfl

/-- **The boolean laws hold also where operands fail**: both sides have the same value, or fail with
the same error. Two operands that have values can change places, and with every operator a tree is
worth what the operator makes of the values of its operands. Where the left operand of a connective
decides, it makes no difference what the right one fails with. -/
theorem boolean_laws_hold (ctx : Context) (a b c : Expr) :
    (binary .or (binary .or a b) c).eval ctx = (binary .or a (binary .or b c)).eval ctx ∧
    (binary .and (binary .and a b) c).eval ctx = (binary .and a (binary .and b c)).eval ctx ∧
    (unary .not (binary .and a b)).eval ctx =
      (binary .or (unary .not a) (unary .not b)).eval ctx ∧
    (unary .not (binary .or a b)).eval ctx =
      (binary .and (unary .not a) (unary .not b)).eval ctx ∧
    (binary .and a (binary .or b c)).eval ctx =
      (binary .or (binary .and a b) (binary .and a c)).eval ctx ∧
    (binary .or a (binary .and b c)).eval ctx =
      (binary .and (binary .or a b) (binary .or a c)).eval ctx ∧
    (∀ x y, a.eval ctx = .ok x → b.eval ctx = .ok y →
      (binary .and a b).eval ctx = (binary .and b a).eval ctx ∧
      (binary .or a b).eval ctx = (binary .or b a).eval ctx ∧
      ∀ op, (binary op a b).eval ctx = op.apply x y) ∧
    ∀ x, a.eval ctx = .ok x →
      (x.truthy = false → (binary .and a b).eval ctx = .ok (.bool false)) ∧
      (x.truthy = true → (binary .or a b).eval ctx = .ok (.bool true)) := by
  refine ⟨eval_or_assoc a b c ctx, ?_, ?_, ?_, ?_, ?_, fun x y ha hb => ⟨?_, ?_, ?_⟩,
    fun x ha => ⟨fun hfalsy => eval_and_of_falsy ha hfalsy b,
      fun htruthy => eval_or_of_truthy ha htruthy b⟩⟩
  · rw [eval_and, eval_and, verdict_and, verdict_and, Verdict.and_assoc]
  · rw [eval_not, eval_or, verdict_and, verdict_not, verdict_not, Verdict.not_and]
  · rw [eval_not, eval_and, verdict_or, verdict_not, verdict_not, Verdict.not_or]
  · rw [eval_and, eval_or, verdict_or, verdict_and, verdict_and, Verdict.and_or_distrib]
  · rw [eval_or, eval_and, verdict_and, verdict_or, verdict_or, Verdict.or_and_distrib]
  · rw [eval_binary_of_ok ha hb, eval_binary_of_ok hb ha, BinaryOp.apply, BinaryOp.apply,
      Bool.and_comm]
  · rw [eval_binary_of_ok ha hb, eval_binary_of_ok hb ha, BinaryOp.apply, BinaryOp.apply,
      Bool.or_comm]
  · exact eval_binary_of_ok ha hb

/-- The right operand fails, behind one that is an empty text and in front of it. -/
theorem empty_text_decides :
    (binary .and (literal (.text "")) (unary .neg (literal (.bool true)))).eval .standalone =
        .ok (.bool false) ∧
      (binary .and (unary .neg (literal (.bool true))) (literal (.text ""))).eval .standalone =
        .error (.notNegatable .boolean) ∧
      (binary .add (literal (.text "")) (literal (.bool true))).eval .standalone =
        .ok (.text "true") := by
  obtain ⟨-, -, -, -, -, -, -, hdecides⟩ :=
    boolean_laws_hold .standalone (literal (.text "")) (unary .neg (literal (.bool true)))
      (literal .null)
  obtain ⟨-, -, -, -, -, -, hvalues, -⟩ :=
    boolean_laws_hold .standalone (literal (.text "")) (literal (.bool true)) (literal .null)
  exact ⟨(hdecides _ rfl).1 (by decide), rfl, (hvalues _ _ rfl rfl).2.2 .add⟩

end Expr

end Narrative
