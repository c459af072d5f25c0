import Narrative.Expr.Basic

/-!
# Expr.Eval — the value of an expression

`eval` is evaluation against a `Context`, which answers the accessors. `&&` and `||` look at
their right operand only if the left one does not decide, so what stands there cannot fail.
-/

namespace Narrative

/-- Answers what expressions may read. -/
structure Context where
  /-- The amount held of an item. -/
  item : String → Except ExprError UInt32
  /-- The value of a variable. -/
  var : String → Except ExprError Value

/-- The context of expressions that stand alone: it refuses both accessors. -/
def Context.standalone : Context where
  item name := .error (.accessorNotAllowed .item name)
  var name := .error (.accessorNotAllowed .var name)

/-- What an accessor reads in a context. -/
def Context.access (ctx : Context) (accessor : Accessor) (name : String) :
    Except ExprError Value :=
  match accessor with
  | .item => (ctx.item name).map fun amount => .number amount.toFloat
  | .var => ctx.var name

def Value.negate : Value → Except ExprError Value
  | .number x => .ok (.number (-x))
  | v => .error (.notNegatable v.type)

namespace BinaryOp

/-- Whether an ordering operator accepts the order of its operands. -/
def accepts (op : BinaryOp) (order : Ordering) : Bool :=
  match op with
  | .lt => order.isLT
  | .le => order.isLE
  | .gt => order.isGT
  | .ge => order.isGE
  | _ => false

/-- A sum of numbers, or two values joined to a text if one of them is a text. -/
def addValues : Value → Value → Except ExprError Value
  | .number a, .number b => .ok (.number (a + b))
  | .text a, b => .ok (.text (a ++ b.display))
  | a, .text b => .ok (.text (a.display ++ b))
  | a, b => .error (.typeMismatch .add a.type b.type)

/-- An operation on two numbers. -/
def arithmetic (op : BinaryOp) (f : Float → Float → Except ExprError Float) :
    Value → Value → Except ExprError Value
  | .number a, .number b => (f a b).map .number
  | a, b => .error (.typeMismatch op a.type b.type)

/-- Combines two values. Operands without an order make every ordering operator false. -/
def apply (op : BinaryOp) (lhs rhs : Value) : Except ExprError Value :=
  match op with
  | .or => .ok (.bool (lhs.truthy || rhs.truthy))
  | .and => .ok (.bool (lhs.truthy && rhs.truthy))
  | .eq | .strictEq => .ok (.bool (lhs.equals rhs))
  | .ne | .strictNe => .ok (.bool !(lhs.equals rhs))
  -- without an order all four are false
  | .lt | .le | .gt | .ge => .ok (.bool ((lhs.compare? rhs).any op.accepts))
  | .add => addValues lhs rhs
  | .sub => arithmetic .sub (fun a b => .ok (a - b)) lhs rhs
  | .mul => arithmetic .mul (fun a b => .ok (a * b)) lhs rhs
  | .div =>
    arithmetic .div (fun a b => if b == 0 then .error .divisionByZero else .ok (a / b)) lhs rhs

end BinaryOp

namespace Expr

/-- The value of an expression in a context. -/
def eval (ctx : Context) : Expr → Except ExprError Value
  | .literal value => .ok value
  | .access accessor name => ctx.access accessor name
  | .unary .not operand => do
    let value ← operand.eval ctx
    return .bool !value.truthy
  | .unary .neg operand => do
    let value ← operand.eval ctx
    value.negate
  | .binary .and lhs rhs => do
    let left ← lhs.eval ctx
    if left.truthy then
      let right ← rhs.eval ctx
      return .bool right.truthy
    else return .bool false
  | .binary .or lhs rhs => do
    let left ← lhs.eval ctx
    if left.truthy then return .bool true
    else
      let right ← rhs.eval ctx
      return .bool right.truthy
  -- both sides are evaluated before the operator looks at their types
  | .binary op lhs rhs => do
    let left ← lhs.eval ctx
    let right ← rhs.eval ctx
    op.apply left right

/-- Whether evaluation goes on to the right operand behind a left operand with this result. -/
def reachesRight (op : BinaryOp) : Except ExprError Value → Bool
  | .error _ => false
  | .ok left =>
    match op with
    | .and => left.truthy
    | .or => !left.truthy
    | _ => true

/-- The items whose amount evaluation asks for, in order. -/
def countedItems (ctx : Context) : Expr → List String
  | .literal _ => []
  | .access .item name => [name]
  | .access .var _ => []
  | .unary _ operand => operand.countedItems ctx
  | .binary op lhs rhs =>
    lhs.countedItems ctx ++
      if reachesRight op (lhs.eval ctx) then rhs.countedItems ctx else []

end Expr

end Narrative
