import Narrative.Expr.Parser
import Narrative.Expr.Eval

/-!
# Condition — guards

A guard is a list of expression sources and holds when one of them is truthy, or when there is
none. A malformed source anywhere in the list is an error; an expression that fails while it is
evaluated only counts as false, which is worth a remark.
-/

namespace Narrative

/-- What happens during the evaluation of guards besides their result. -/
inductive Remark where
  /-- The amount of this item was asked for. -/
  | counted (item : String)
  /-- This expression failed and counted as false. -/
  | failed (source : String) (error : ExprError)
deriving DecidableEq

/-- Whether the value of an expression is truthy; a failing expression has none. -/
def Expr.holds (ctx : Context) (e : Expr) : Bool :=
  match e.eval ctx with
  | .ok value => value.truthy
  | .error _ => false

/-- The sources of a guard. -/
abbrev Condition := List String

namespace Condition

/-- Parses every source. The error is that of the first malformed one. -/
def parse (condition : Condition) : Except ExprError (List Expr) := condition.mapM Expr.parse

/-- Whether parsed alternatives hold: one of them is truthy, or there is none. -/
def anyHolds (ctx : Context) (alternatives : List Expr) : Bool :=
  alternatives.isEmpty || alternatives.any (Expr.holds ctx)

/-- Whether a guard holds. -/
def evaluate (ctx : Context) (condition : Condition) : Except ExprError Bool :=
  condition.parse.map (anyHolds ctx)

/-- What happens while alternatives are evaluated up to the first truthy one. -/
def remarksOn (ctx : Context) : List (String × Expr) → List Remark
  | [] => []
  | (source, e) :: rest =>
    (e.countedItems ctx).map .counted ++
      match e.eval ctx with
      | .ok value => if value.truthy then [] else remarksOn ctx rest
      | .error error => .failed source error :: remarksOn ctx rest

/-- What happens while a guard is evaluated. A malformed guard is not evaluated at all. -/
def remarks (ctx : Context) (condition : Condition) : List Remark :=
  match condition.parse with
  | .ok alternatives => remarksOn ctx (condition.zip alternatives)
  | .error _ => []

end Condition

end Narrative
