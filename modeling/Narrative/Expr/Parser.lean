import Narrative.Expr.Token
import Narrative.Text.Numeral

/-!
# Expr.Parser — from tokens to trees

The parser reads tokens from left to right and keeps what is still open on a stack: parentheses,
operators waiting for their operand, and left operands with their operator. It recurses on the
tokens alone.

* `operand` expects an operand and takes prefix operators and opening parentheses on the way.
* `operator` has a finished operand and expects an operator, a closing parenthesis or the end.
* `reduce` builds the pending operators that bind at least as tightly as the next one, which is
  what makes operators of one level associate to the left.
-/

namespace Narrative.Expr

/-- What is open to the left of the current position. -/
inductive Frame where
  | group
  | prefixed (op : UnaryOp)
  | pending (lhs : Expr) (op : BinaryOp)

/-- Builds the prefix operators on top of the stack around a finished operand. -/
def applyPrefixes : List Frame → Expr → List Frame × Expr
  | .prefixed op :: stack, e => applyPrefixes stack (.unary op e)
  | stack, e => (stack, e)

/-- Builds the pending operators on top of the stack that bind at least as tightly as `level`. -/
def reduce (level : Nat) : List Frame → Expr → List Frame × Expr
  | .pending lhs op :: stack, e =>
    if level ≤ op.level then reduce level stack (.binary op lhs e)
    else (.pending lhs op :: stack, e)
  | stack, e => (stack, e)

def accessor? (keyword : List Char) : Option Accessor :=
  if keyword = ['i', 't', 'e', 'm'] then some .item
  else if keyword = ['v', 'a', 'r'] then some .var
  else none

/-- The value of a word that is a whole number, `true` or `false`. -/
def wordValue? (word : List Char) : Option Value :=
  if word.all (·.isDigit) then some (.number (Decimal.toFloat ⟨Text.ofDigits word, 0⟩))
  else if word = ['t', 'r', 'u', 'e'] then some (.bool true)
  else if word = ['f', 'a', 'l', 's', 'e'] then some (.bool false)
  else none

/-- The value of a number with a fraction. -/
def decimalValue (whole fraction : List Char) : Value :=
  .number (Decimal.toFloat ⟨Text.ofDigits (whole ++ fraction), -fraction.length⟩)

mutual

/-- Reads on where an operand is expected. -/
def operand (stack : List Frame) : List Token → Option Expr
  | .bang :: ts => operand (.prefixed .not :: stack) ts
  | .operator .sub :: ts => operand (.prefixed .neg :: stack) ts
  | .opening :: ts => operand (.group :: stack) ts
  | .text content :: ts =>
    let (stack, e) := applyPrefixes stack (.literal (.text (String.ofList content)))
    operator stack e ts
  | .decimal whole fraction :: ts =>
    let (stack, e) := applyPrefixes stack (.literal (decimalValue whole fraction))
    operator stack e ts
  | .word keyword :: .opening :: .word name :: .closing :: ts =>
    -- an access is looked for before a plain word
    match accessor? keyword with
    | some accessor =>
      let (stack, e) := applyPrefixes stack (.access accessor (String.ofList name))
      operator stack e ts
    | none => none
  | .word word :: ts =>
    match wordValue? word with
    | some value =>
      let (stack, e) := applyPrefixes stack (.literal value)
      operator stack e ts
    | none => none
  | _ => none

/-- Reads on behind a finished operand. -/
def operator (stack : List Frame) (e : Expr) : List Token → Option Expr
  | [] =>
    match reduce 0 stack e with
    | ([], e) => some e
    | _ => none
  | .operator op :: ts =>
    -- whatever binds at least as tightly is complete, which groups chains from the left
    let (stack, e) := reduce op.level stack e
    operand (.pending e op :: stack) ts
  | .closing :: ts =>
    match reduce 0 stack e with
    | (.group :: stack, e) =>
      -- the innermost group; signs in front of it apply to the whole
      let (stack, e) := applyPrefixes stack e
      operator stack e ts
    | _ => none
  | _ => none

end

def parse? (source : List Char) : Option Expr :=
  (Token.scan source).bind (operand [])

/-- Reads an expression; a source outside the grammar is an error. -/
def parse (source : String) : Except ExprError Expr :=
  match parse? source.toList with
  | some e => .ok e
  | none => .error (.malformed source)

end Narrative.Expr
