import Narrative.Value

/-!
# Expr.Basic — expression trees

The expressions of guards, of conditional text and of the `set` command: operators with their
binding levels, the tree, its errors, and the names a tree mentions.
-/

namespace Narrative

/-- Operators in front of one operand. -/
inductive UnaryOp where
  | not
  | neg
deriving DecidableEq, Repr

/-- Operators between two operands. -/
inductive BinaryOp where
  | or
  | and
  | eq
  | strictEq
  | ne
  | strictNe
  | lt
  | le
  | gt
  | ge
  | add
  | sub
  | mul
  | div
deriving DecidableEq, Repr

namespace BinaryOp

def symbol : BinaryOp → String
  | .or => "||"
  | .and => "&&"
  | .eq => "=="
  | .strictEq => "==="
  | .ne => "!="
  | .strictNe => "!=="
  | .lt => "<"
  | .le => "<="
  | .gt => ">"
  | .ge => ">="
  | .add => "+"
  | .sub => "-"
  | .mul => "*"
  | .div => "/"

/-- How tightly an operator binds. Operators of one level associate to the left. -/
def level : BinaryOp → Nat
  | .or => 1
  | .and => 2
  | .eq | .strictEq | .ne | .strictNe => 3
  | .lt | .le | .gt | .ge => 4
  | .add | .sub => 5
  | .mul | .div => 6

end BinaryOp

/-- The two ways an expression reads the state of the story. -/
inductive Accessor where
  | item
  | var
deriving DecidableEq, Repr

/-- How an accessor is written in front of its parenthesised name. -/
def Accessor.keyword : Accessor → String
  | .item => "item"
  | .var => "var"

/-- An expression tree. -/
inductive Expr where
  | literal (value : Value)
  | access (accessor : Accessor) (name : String)
  | unary (op : UnaryOp) (operand : Expr)
  | binary (op : BinaryOp) (lhs rhs : Expr)
deriving Inhabited

namespace Expr

/-- The names a tree reads through one accessor, from left to right, with repetitions. -/
def reads (accessor : Accessor) : Expr → List String
  | .literal _ => []
  | .access a name => if a = accessor then [name] else []
  | .unary _ operand => operand.reads accessor
  | .binary _ lhs rhs => lhs.reads accessor ++ rhs.reads accessor

/-- The variables a tree mentions. -/
def variableNames (e : Expr) : List String := e.reads .var

/-- The items a tree mentions. -/
def itemNames (e : Expr) : List String := e.reads .item

end Expr

/-- Why an expression has no value. -/
inductive ExprError where
  /-- The source is no sentence of the expression grammar. -/
  | malformed (source : String)
  | typeMismatch (op : BinaryOp) (lhs rhs : ValueType)
  /-- Only numbers can be negated. -/
  | notNegatable (operand : ValueType)
  | divisionByZero
  /-- The expression has to stand alone, without a state to read. -/
  | accessorNotAllowed (accessor : Accessor) (name : String)
deriving DecidableEq, Repr

def ExprError.message : ExprError → String
  | .malformed source => "cannot parse expression \"" ++ source ++ "\""
  | .typeMismatch op lhs rhs =>
    "cannot apply '" ++ op.symbol ++ "' to " ++ lhs.name ++ " and " ++ rhs.name
  | .notNegatable operand => "cannot apply unary '-' to " ++ operand.name
  | .divisionByZero => "division by zero"
  | .accessorNotAllowed accessor name =>
    "'" ++ accessor.keyword ++ "(" ++ name ++ ")' cannot be used in this expression"

end Narrative
