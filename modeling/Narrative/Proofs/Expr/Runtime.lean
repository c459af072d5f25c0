import Narrative.Expr.Parser
import Narrative.Session.Script

/-!
# Errors at runtime

Evaluating a tree fails with an error of one of its operators or of one of its accessors. So it
fails with runtime errors only, in every context that does. A malformed source is an error of
parsing: it has no tree to evaluate.
-/

namespace Narrative

/-- Whether an error is one of evaluation and not one of parsing. -/
def ExprError.isRuntime : ExprError → Bool
  | .malformed _ => false
  | _ => true

/-- Whether an error is one of an operator, whatever its operands are read from. -/
def ExprError.isOfOperator : ExprError → Bool
  | .typeMismatch _ _ _ | .notNegatable _ | .divisionByZero => true
  | .malformed _ | .accessorNotAllowed _ _ => false

/-- The errors of operators come up at run time. -/
theorem ExprError.isRuntime_of_isOfOperator {error : ExprError} (h : error.isOfOperator = true) :
    error.isRuntime = true := by
  cases error with
  | malformed source => nomatch h
  | _ => rfl

/-- A sequence fails in its first part or in its second. -/
theorem error_of_bind {ε α β : Type} {first : Except ε α} {next : α → Except ε β} {error : ε}
    (h : (first >>= next) = .error error) :
    first = .error error ∨ ∃ value, first = .ok value ∧ next value = .error error := by
  cases first with
  | error found =>
      cases h
      exact .inl rfl
  | ok value => exact .inr ⟨value, rfl, h⟩

/-- Reading from the context fails with runtime errors only. -/
def Context.FailsAtRuntime (ctx : Context) : Prop :=
  ∀ accessor name error, ctx.access accessor name = .error error → error.isRuntime = true

/-- Without a session every access fails, and at run time. -/
theorem Context.standalone_failsAtRuntime : Context.standalone.FailsAtRuntime := by
  intro accessor name error h
  cases accessor <;> cases h <;> rfl

namespace BinaryOp

/-- Adding fails with an error of the operator. -/
theorem addValues_error {lhs rhs : Value} {error : ExprError}
    (h : addValues lhs rhs = .error error) : error.isOfOperator = true := by
  cases lhs <;> cases rhs <;> cases h <;> rfl

/-- Arithmetic fails with an error of the operator if its function on numbers does. -/
theorem arithmetic_error {op : BinaryOp} {f : Float → Float → Except ExprError Float}
    (hf : ∀ a b error, f a b = .error error → error.isOfOperator = true) {lhs rhs : Value}
    {error : ExprError} (h : arithmetic op f lhs rhs = .error error) :
    error.isOfOperator = true := by
  unfold arithmetic at h
  split at h
  · rename_i a b
    cases hresult : f a b with
    | ok value => rw [hresult] at h; nomatch h
    | error found =>
        rw [hresult] at h
        cases h
        exact hf a b _ hresult
  · cases h
    rfl

/-- An operator fails with an error of its own and no other. -/
theorem apply_error {op : BinaryOp} {lhs rhs : Value} {error : ExprError}
    (h : op.apply lhs rhs = .error error) : error.isOfOperator = true := by
  cases op with
  | add => exact addValues_error h
  | sub =>
      refine arithmetic_error (fun a b error hsub => ?_) h
      cases hsub
  | mul =>
      refine arithmetic_error (fun a b error hmul => ?_) h
      cases hmul
  | div =>
      refine arithmetic_error (fun a b error hdiv => ?_) h
      split at hdiv <;> cases hdiv
      rfl
  -- comparisons and connectives have a value on all operands
  | _ => nomatch h

end BinaryOp

namespace Expr

variable {ctx : Context}

/-- The error is one of an operator, or what the context fails with for an accessor of the tree. -/
def FailsBy (ctx : Context) (error : ExprError) (e : Expr) : Prop :=
  error.isOfOperator = true ∨
    ∃ accessor, ∃ name ∈ e.reads accessor, ctx.access accessor name = .error error

/-- The whole fails by what the left side fails by. -/
theorem FailsBy.left {error : ExprError} {lhs : Expr} (h : lhs.FailsBy ctx error) (op : BinaryOp)
    (rhs : Expr) : (binary op lhs rhs).FailsBy ctx error := by
  rcases h with hoperator | ⟨accessor, name, hmem, haccess⟩
  · exact .inl hoperator
  · exact .inr ⟨accessor, name, List.mem_append_left _ hmem, haccess⟩

/-- The whole fails by what the right side fails by. -/
theorem FailsBy.right {error : ExprError} {rhs : Expr} (h : rhs.FailsBy ctx error) (op : BinaryOp)
    (lhs : Expr) : (binary op lhs rhs).FailsBy ctx error := by
  rcases h with hoperator | ⟨accessor, name, hmem, haccess⟩
  · exact .inl hoperator
  · exact .inr ⟨accessor, name, List.mem_append_right _ hmem, haccess⟩

/-- **Evaluation fails by one of the operators or accessors of the tree.** -/
theorem failsBy_of_eval (e : Expr) : ∀ error, e.eval ctx = .error error → e.FailsBy ctx error := by
  induction e with
  | literal value => exact nofun
  | access accessor name =>
      intro error h
      refine .inr ⟨accessor, name, ?_, h⟩
      rw [reads, if_pos rfl]
      exact List.mem_singleton_self name
  | unary op operand ih =>
      intro error h
      cases op with
      | not =>
          rcases error_of_bind h with h | ⟨value, -, h⟩
          · exact ih error h
          · nomatch h
      | neg =>
          rcases error_of_bind h with h | ⟨value, -, h⟩
          · exact ih error h
          · refine .inl ?_
            cases value <;> cases h <;> rfl
  | binary op lhs rhs ihleft ihright =>
      intro error h
      cases op with
      | and =>
          rcases error_of_bind h with h | ⟨left, -, h⟩
          · exact (ihleft error h).left _ rhs
          · -- a left operand that is not truthy decides, and nothing is left to fail
            split at h
            · rcases error_of_bind h with h | ⟨right, -, h⟩
              · exact (ihright error h).right _ lhs
              · nomatch h
            · nomatch h
      | or =>
          rcases error_of_bind h with h | ⟨left, -, h⟩
          · exact (ihleft error h).left _ rhs
          · split at h
            · nomatch h
            · rcases error_of_bind h with h | ⟨right, -, h⟩
              · exact (ihright error h).right _ lhs
              · nomatch h
      | _ =>
          -- all other operators ask for both sides, so the operator itself may fail too
          rcases error_of_bind h with h | ⟨left, -, h⟩
          · exact (ihleft error h).left _ rhs
          · rcases error_of_bind h with h | ⟨right, -, h⟩
            · exact (ihright error h).right _ lhs
            · exact .inl (BinaryOp.apply_error h)

/-- **Evaluation fails with runtime errors only.** -/
theorem eval_error (hctx : ctx.FailsAtRuntime) (e : Expr) :
    ∀ error, e.eval ctx = .error error → error.isRuntime = true := by
  intro error h
  rcases e.failsBy_of_eval error h with hoperator | ⟨accessor, name, -, haccess⟩
  · exact ExprError.isRuntime_of_isOfOperator hoperator
  · exact hctx accessor name error haccess

end Expr

/-- An assignment whose expression is well formed fails with runtime errors only. -/
theorem Play.assignedValue_error {old : Value} {assignment : Assignment} {expression : String}
    {e : Expr} (hparse : Expr.parse expression = .ok e) {error : ExprError}
    (h : Play.assignedValue old assignment expression = .error error) :
    error.isRuntime = true := by
  rw [Play.assignedValue, hparse] at h
  rcases error_of_bind h with h | ⟨found, hfound, h⟩
  · nomatch h
  · cases hfound
    rcases error_of_bind h with h | ⟨value, -, h⟩
    · exact Expr.eval_error Context.standalone_failsAtRuntime e error h
    · split at h
      · nomatch h
      · exact ExprError.isRuntime_of_isOfOperator (BinaryOp.apply_error h)

end Narrative
