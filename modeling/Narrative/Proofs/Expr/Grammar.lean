import Narrative.Expr.Parser

/-!
# The grammar of expressions

What an expression looks like, apart from any way of reading it.

* **`Spelled`** — how a list of tokens is written down as text, with blanks between the tokens.
* **`Derives`** — the sentences: operands joined by operators, none of which goes before another.
* **`Expr.Writes`** — the ways of writing a tree, with parentheses where the precedence of the
  operators asks for them and anywhere else.
* **`derives_iff_writes`** — the sentences are what is a way of writing some tree.
-/

namespace Narrative

/-! ## Tokens as text -/

/-- What may stand between two tokens. -/
def Gap (cs : List Char) : Prop := ∀ c ∈ cs, c = ' ' ∨ c = '\t' ∨ c = '\r' ∨ c = '\n'

/-- One or more ASCII letters, digits and underscores. -/
def IsName (cs : List Char) : Prop := cs ≠ [] ∧ ∀ c ∈ cs, c.isAlphanum = true ∨ c = '_'

/-- One or more ASCII digits. -/
def IsDigits (cs : List Char) : Prop := cs ≠ [] ∧ ∀ c ∈ cs, c.isDigit = true

/-- A token and what it is written as. A text can be put in either kind of quotes unless it has
such a quote in it. -/
inductive Token.Spelling : Token → List Char → Prop
  | word {name : List Char} (h : IsName name) : Spelling (.word name) name
  | decimal {whole fraction : List Char} (h : IsDigits whole) (h' : IsDigits fraction) :
      Spelling (.decimal whole fraction) (whole ++ '.' :: fraction)
  | text {quote : Char} {content : List Char} (hquote : quote = '"' ∨ quote = '\'')
      (h : quote ∉ content) : Spelling (.text content) (quote :: content ++ [quote])
  | bang : Spelling .bang ['!']
  | operator (op : BinaryOp) : Spelling (.operator op) op.symbol.toList
  | opening : Spelling .opening ['(']
  | closing : Spelling .closing [')']

/-- Tokens in a row, with gaps between them, in front and behind. A gap may be empty. -/
inductive Spelled : List Token → List Char → Prop
  | nil {gap : List Char} (hgap : Gap gap) : Spelled [] gap
  | cons {t : Token} {ts : List Token} {gap lexeme cs : List Char} (hgap : Gap gap)
      (hlexeme : t.Spelling lexeme) (h : Spelled ts cs) : Spelled (t :: ts) (gap ++ lexeme ++ cs)

/-! ## Sentences -/

/-- The trees that are written without an operator and without parentheses around, and the tokens
that they are written with. A word of digits is a number. -/
inductive Expr.Atom : Expr → List Token → Prop
  | access (accessor : Accessor) (name : List Char) :
      Atom (.access accessor (String.ofList name))
        [.word accessor.keyword.toList, .opening, .word name, .closing]
  | whole {digits : List Char} (h : ∀ c ∈ digits, c.isDigit = true) :
      Atom (.literal (decimalValue digits [])) [.word digits]
  | decimal (whole fraction : List Char) :
      Atom (.literal (decimalValue whole fraction)) [.decimal whole fraction]
  | boolean (b : Bool) : Atom (.literal (.bool b)) [.word (toString b).toList]
  | text (content : List Char) :
      Atom (.literal (.text (String.ofList content))) [.text content]

/-- How a prefix operator is written. The minus sign is that of the subtraction. -/
def UnaryOp.token : UnaryOp → Token
  | .not => .bang
  | .neg => .operator .sub

/-- The nonterminals of the grammar. -/
inductive Category where
  | primary
  | operand
  | expression

/-- The grammar: an operand is a primary behind any number of prefix operators, and an expression
is one operand or several of them with operators between. -/
inductive Derives : Category → List Token → Prop
  | atom {e : Expr} {ts : List Token} (h : e.Atom ts) : Derives .primary ts
  | group {ts : List Token} (h : Derives .expression ts) :
      Derives .primary (.opening :: ts ++ [.closing])
  | primary {ts : List Token} (h : Derives .primary ts) : Derives .operand ts
  | prefixed (op : UnaryOp) {ts : List Token} (h : Derives .operand ts) :
      Derives .operand (op.token :: ts)
  | operand {ts : List Token} (h : Derives .operand ts) : Derives .expression ts
  | infixed (op : BinaryOp) {ls rs : List Token} (h : Derives .expression ls)
      (h' : Derives .operand rs) : Derives .expression (ls ++ .operator op :: rs)

/-- A text that is an expression. -/
def IsSentence (cs : List Char) : Prop := ∃ ts, Derives .expression ts ∧ Spelled ts cs

/-! ## Trees as tokens -/

/-- The binary operators in levels, from the loosest to the tightest. -/
def BinaryOp.precedence : List (List BinaryOp) :=
  [[.or], [.and], [.eq, .strictEq, .ne, .strictNe], [.lt, .le, .gt, .ge], [.add, .sub],
    [.mul, .div]]

/-- The level of an operator, counted from 1. -/
def BinaryOp.tier (op : BinaryOp) : Nat :=
  precedence.findIdx (fun ops => decide (op ∈ ops)) + 1

/-- The level of prefix operators, which bind more tightly than all binary ones. -/
def UnaryOp.tier : Nat := BinaryOp.precedence.length + 1

/-- The tiers of the grammar are the levels of the parser. -/
theorem BinaryOp.tier_eq_level (op : BinaryOp) : op.tier = op.level := by
  cases op <;> rfl

/-- Every operator between two operands binds less tightly than one in front of an operand. -/
theorem BinaryOp.tier_lt (op : BinaryOp) : op.tier < UnaryOp.tier := by
  cases op <;> decide

namespace Expr

/-- `Writes level e ts`: the tokens are a way of writing the tree where no binary operator binds
less tightly than `level`. Operators of one level associate to the left, so a right operand has to
bind more tightly. Parentheses allow every level in between them, and may stand anywhere. -/
inductive Writes : Nat → Expr → List Token → Prop
  | atom {level : Nat} {e : Expr} {ts : List Token} (h : e.Atom ts) : Writes level e ts
  | group {level : Nat} {e : Expr} {ts : List Token} (h : Writes 0 e ts) :
      Writes level e (.opening :: ts ++ [.closing])
  | unary {level : Nat} (op : UnaryOp) {e : Expr} {ts : List Token} (h : Writes UnaryOp.tier e ts) :
      Writes level (.unary op e) (op.token :: ts)
  | binary {level : Nat} {op : BinaryOp} (hlevel : level ≤ op.tier) {lhs rhs : Expr}
      {ls rs : List Token} (hl : Writes op.tier lhs ls) (hr : Writes (op.tier + 1) rhs rs) :
      Writes level (.binary op lhs rhs) (ls ++ .operator op :: rs)

variable {level level' : Nat} {e : Expr} {ts : List Token}

/-- What is written for a tight place can stand in a looser one. -/
theorem Writes.mono (h : Writes level e ts) (hle : level' ≤ level) : Writes level' e ts := by
  cases h with
  | atom h => exact .atom h
  | group h => exact .group h
  | unary op h => exact .unary op h
  | binary hlevel hl hr => exact .binary (Nat.le_trans hle hlevel) hl hr

/-! ## Sentences write trees -/

/-- One more operand joined to what is written gives a tree again: the operator takes as its left
operand as much of the right edge as binds at least as tightly. -/
theorem Writes.extend {operand : Expr} {ls rs : List Token} (h : Writes level e ls)
    {op : BinaryOp} (hop : level ≤ op.tier) (hoperand : Writes UnaryOp.tier operand rs) :
    ∃ tree, Writes level tree (ls ++ .operator op :: rs) := by
  have hright : Writes (op.tier + 1) operand rs := hoperand.mono op.tier_lt
  -- atoms, parentheses and prefix operators are a left operand as they are
  induction h with
  | atom h => exact ⟨_, .binary hop (.atom h) hright⟩
  | group h => exact ⟨_, .binary hop (.group h) hright⟩
  | unary other h => exact ⟨_, .binary hop (.unary other h) hright⟩
  | @binary level other hlevel lhs rhs ls rs' hl hr _ ih =>
      by_cases htight : op.tier ≤ other.tier
      · -- the whole of what is written is the left operand
        exact ⟨_, .binary hop (.binary htight hl hr) hright⟩
      · -- the new operator belongs to the right operand
        obtain ⟨tree, htree⟩ := ih (Nat.lt_of_not_le htight)
        refine ⟨.binary other lhs tree, ?_⟩
        rw [List.append_assoc, List.cons_append]
        exact .binary hlevel hl htree

end Expr

/-- Two expressions with an operator between them are an expression. -/
theorem Derives.append {ls rs : List Token} (hl : Derives .expression ls) (op : BinaryOp)
    (hr : Derives .expression rs) : Derives .expression (ls ++ .operator op :: rs) := by
  generalize hcategory : Category.expression = category at hr
  induction hr with
  | operand h => exact .infixed op hl h
  | infixed other _ h' ih =>
      rw [← List.cons_append, ← List.append_assoc]
      exact .infixed other (ih hcategory) h'
  | _ => nomatch hcategory

/-- What writes a tree is an expression, and an operand where the level leaves no choice. -/
theorem Expr.Writes.derives {level : Nat} {e : Expr} {ts : List Token} (h : Writes level e ts) :
    Derives .expression ts ∧ (UnaryOp.tier ≤ level → Derives .operand ts) := by
  -- all but the binary operators are operands at every level
  have hboth {level : Nat} {ts : List Token} (h : Derives .operand ts) :
      Derives .expression ts ∧ (UnaryOp.tier ≤ level → Derives .operand ts) :=
    ⟨.operand h, fun _ => h⟩
  induction h with
  | atom h => exact hboth (.primary (.atom h))
  | group _ ih => exact hboth (.primary (.group ih.1))
  | unary op _ ih => exact hboth (.prefixed op (ih.2 Nat.le.refl))
  | binary hlevel _ _ ihl ihr =>
      refine ⟨ihl.1.append _ ihr.1, fun htight => ?_⟩
      exact absurd (Nat.le_trans htight hlevel) (Nat.not_le_of_lt (BinaryOp.tier_lt _))

/-- The level at which a tree can be written for a category. -/
def Category.level : Category → Nat
  | .primary | .operand => UnaryOp.tier
  | .expression => 0

/-- Every sentence of the grammar writes some tree. -/
theorem Derives.writes {category : Category} {ts : List Token} (h : Derives category ts) :
    ∃ e, Expr.Writes category.level e ts := by
  induction h with
  | atom h => exact ⟨_, .atom h⟩
  | group _ ih =>
      obtain ⟨e, he⟩ := ih
      exact ⟨e, .group he⟩
  | primary _ ih => exact ih
  | prefixed op _ ih =>
      obtain ⟨e, he⟩ := ih
      exact ⟨_, .unary op he⟩
  | operand _ ih =>
      obtain ⟨e, he⟩ := ih
      exact ⟨e, he.mono (Nat.zero_le _)⟩
  | infixed op _ _ ihl ihr =>
      -- the grammar does not say how a chain is grouped; `extend` finds the one tree that it writes
      obtain ⟨lhs, hlhs⟩ := ihl
      obtain ⟨rhs, hrhs⟩ := ihr
      exact hlhs.extend (Nat.zero_le _) hrhs

/-- **The sentences are the ways of writing trees.** -/
theorem derives_iff_writes {ts : List Token} :
    Derives .expression ts ↔ ∃ e, Expr.Writes 0 e ts :=
  ⟨Derives.writes, fun ⟨_, h⟩ => h.derives.1⟩

end Narrative
