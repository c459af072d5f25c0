import Narrative.Proofs.Expr.Grammar

/-!
# The parser reads what is written

* **`Writes.operand_eq`** — the tokens of a tree, read on a stack that lets them bind, leave the
  tree as the finished operand or the pending pieces of it.
* **`writes_of_operand`** — every tree that reading yields is written by the tokens that were read.
  On the way the stack accounts for all of them (`Accounts`).
-/

namespace Narrative.Expr

variable {stack : List Frame} {e tree : Expr} {ts rest front back : List Token}
  {level level' : Nat}

/-! ## What one step of reading does -/

/-- A sign in front of an operand waits for it. -/
theorem operand_token (op : UnaryOp) :
    operand stack (op.token :: rest) = operand (.prefixed op :: stack) rest := by
  cases op <;> rfl

/-- An opening parenthesis waits for its expression. -/
theorem operand_opening : operand stack (.opening :: rest) = operand (.group :: stack) rest := rfl

/-- A closing parenthesis ends the innermost group that is open, and what stood in front of it is
applied to the group. -/
theorem operator_closing {below : List Frame} (h : reduce 0 stack e = (.group :: below, tree)) :
    operator stack e (.closing :: rest) =
      operator (applyPrefixes below tree).1 (applyPrefixes below tree).2 rest := by
  rw [operator, h]

/-- An operator takes what binds as tightly as itself for its left side and waits for the right
one. -/
theorem operator_operator (op : BinaryOp) :
    operator stack e (.operator op :: rest) =
      operand (.pending (reduce op.tier stack e).2 op :: (reduce op.tier stack e).1) rest := by
  rw [op.tier_eq_level]
  rfl

/-- The end of the tokens is the end of the expression where no group is open. -/
theorem operator_nil (h : reduce 0 stack e = ([], tree)) : operator stack e [] = some tree := by
  rw [operator, h]

/-- A word that is no keyword stands for its value, whatever follows it. -/
theorem operand_word {word : List Char} {value : Value} (h : wordValue? word = some value)
    (hkeyword : accessor? word = none) :
    operand stack (.word word :: rest) =
      operator (applyPrefixes stack (.literal value)).1
        (applyPrefixes stack (.literal value)).2 rest := by
  rw [operand.eq_def]
  dsimp only
  split
  case h_6 heq =>
      -- read as an accessor, and refused; an opening parenthesis is refused behind the value too
      cases heq
      rw [hkeyword]
      rfl
  case h_7 heq =>
      cases heq
      rw [h]
  case h_8 hother => exact (hother word rest rfl).elim
  all_goals
    rename_i heq
    nomatch heq

/-- A word of digits is a whole number. -/
theorem wordValue?_digits {digits : List Char} (h : ∀ c ∈ digits, c.isDigit = true) :
    wordValue? digits = some (decimalValue digits []) := by
  rw [wordValue?, if_pos (List.all_eq_true.mpr h), decimalValue, List.append_nil]
  rfl

/-- No accessor is spelled with digits. -/
theorem accessor?_digits {digits : List Char} (h : ∀ c ∈ digits, c.isDigit = true) :
    accessor? digits = none := by
  rw [accessor?, if_neg, if_neg]
  · rintro rfl
    exact absurd (h 'v' List.mem_cons_self) (by decide)
  · rintro rfl
    exact absurd (h 'i' List.mem_cons_self) (by decide)

/-- An operand of one piece is read at once, and the signs in front of it are applied to it. -/
theorem operand_atom (h : e.Atom ts) :
    operand stack (ts ++ rest) =
      operator (applyPrefixes stack e).1 (applyPrefixes stack e).2 rest := by
  cases h with
  | access accessor name => cases accessor <;> rfl
  | whole h => exact operand_word (wordValue?_digits h) (accessor?_digits h)
  | decimal whole fraction => rfl
  | boolean b => cases b <;> exact operand_word rfl rfl
  | text content => rfl

/-! ## Every step is one of these -/

/-- How reading goes on to a tree where an operand is expected. -/
inductive OperandStep (stack : List Frame) (tree : Expr) : List Token → Prop
  | prefixed (op : UnaryOp) {rest : List Token}
      (h : operand (.prefixed op :: stack) rest = some tree) :
      OperandStep stack tree (op.token :: rest)
  | opening {rest : List Token} (h : operand (.group :: stack) rest = some tree) :
      OperandStep stack tree (.opening :: rest)
  | atom {e : Expr} {ts rest : List Token} (hatom : e.Atom ts)
      (h : operator (applyPrefixes stack e).1 (applyPrefixes stack e).2 rest = some tree) :
      OperandStep stack tree (ts ++ rest)

/-- How reading goes on to a tree behind a finished operand. -/
inductive OperatorStep (stack : List Frame) (e tree : Expr) : List Token → Prop
  | finish (h : reduce 0 stack e = ([], tree)) : OperatorStep stack e tree []
  | operator (op : BinaryOp) {rest : List Token}
      (h : operand (.pending (reduce op.tier stack e).2 op :: (reduce op.tier stack e).1) rest =
        some tree) : OperatorStep stack e tree (.operator op :: rest)
  | closing {below : List Frame} {inner : Expr} {rest : List Token}
      (hreduce : reduce 0 stack e = (.group :: below, inner))
      (h : operator (applyPrefixes below inner).1 (applyPrefixes below inner).2 rest =
        some tree) : OperatorStep stack e tree (.closing :: rest)

/-- A word with a value is a literal. -/
theorem atom_of_wordValue? {word : List Char} {value : Value} (h : wordValue? word = some value) :
    (Expr.literal value).Atom [.word word] := by
  unfold wordValue? at h
  split at h
  · -- the value is taken from the equation for digits, not computed again
    rename_i hall
    have hdigits : ∀ c ∈ word, c.isDigit = true := List.all_eq_true.mp hall
    have hvalue := wordValue?_digits hdigits
    rw [wordValue?, if_pos hall, h] at hvalue
    cases hvalue
    exact .whole hdigits
  · split at h
    · rename_i hword
      cases h
      rw [hword]
      exact .boolean true
    · split at h
      · rename_i hword
        cases h
        rw [hword]
        exact .boolean false
      · nomatch h

/-- An accessor is found under its keyword. -/
theorem keyword_of_accessor? {keyword : List Char} {accessor : Accessor}
    (h : accessor? keyword = some accessor) : keyword = accessor.keyword.toList := by
  unfold accessor? at h
  split at h
  · rename_i hkeyword
    cases h
    exact hkeyword
  · split at h
    · rename_i hkeyword
      cases h
      exact hkeyword
    · nomatch h

/-- What is read as an operand begins in one of three ways. -/
theorem operand_step (h : operand stack ts = some tree) : OperandStep stack tree ts := by
  rw [operand.eq_def] at h
  dsimp only at h
  split at h
  · exact .prefixed .not h
  · exact .prefixed .neg h
  · exact .opening h
  · exact .atom (.text _) h
  · exact .atom (.decimal _ _) h
  · split at h
    · -- a name with brackets behind it is an access, a name alone has to be a word for a value
      rename_i accessor haccessor
      rw [keyword_of_accessor? haccessor]
      exact .atom (.access accessor _) h
    · nomatch h
  · split at h
    · rename_i value hvalue
      exact .atom (atom_of_wordValue? hvalue) h
    · nomatch h
  · nomatch h

/-- What follows an operand is the end, an operator or a closing parenthesis. -/
theorem operator_step (h : operator stack e ts = some tree) : OperatorStep stack e tree ts := by
  rw [operator.eq_def] at h
  dsimp only at h
  split at h
  · split at h
    · cases h
      exact .finish ‹_›
    · nomatch h
  · -- the parser compares tiers of operators, the grammar their levels
    rw [← BinaryOp.tier_eq_level] at h
    exact .operator _ h
  · split at h
    · exact .closing ‹_› h
    · nomatch h
  · nomatch h

/-! ## Stacks on which a tree can be read -/

/-- The operator on top of the stack binds less tightly than `level`, if there is one. -/
def Open (level : Nat) : List Frame → Prop
  | [] | .group :: _ => True
  | .pending _ op :: _ => op.tier < level
  | .prefixed _ :: _ => False

/-- An operator on top that binds less tightly than a level does so for every higher level. -/
theorem Open.mono (h : Open level stack) (hle : level ≤ level') : Open level' stack := by
  cases stack with
  | nil => trivial
  | cons frame below =>
      cases frame with
      | group => trivial
      | prefixed op => exact h
      | pending lhs op => exact Nat.lt_of_lt_of_le h hle

/-- Nothing is reduced where nothing that waits binds as tightly. -/
theorem reduce_of_open (h : Open level stack) (e : Expr) : reduce level stack e = (stack, e) := by
  cases stack with
  | nil => rfl
  | cons frame below =>
      cases frame with
      | group => rfl
      | prefixed op => exact h.elim
      | pending lhs op =>
          have hloose : ¬ level ≤ op.level := by
            rw [← op.tier_eq_level]
            exact Nat.not_le_of_lt h
          rw [reduce, if_neg hloose]

/-- A waiting operator that binds as tightly takes its right side. -/
theorem reduce_pending {op : BinaryOp} (h : level ≤ op.tier) (lhs rhs : Expr) :
    reduce level (.pending lhs op :: stack) rhs = reduce level stack (.binary op lhs rhs) := by
  rw [reduce, if_pos (by rwa [← op.tier_eq_level])]

/-- No sign waits directly in front of the operand. -/
theorem applyPrefixes_of_open (h : Open level stack) (e : Expr) :
    applyPrefixes stack e = (stack, e) := by
  cases stack with
  | nil => rfl
  | cons frame below =>
      cases frame with
      | prefixed op => exact h.elim
      | _ => rfl

/-! ## What is written is read -/

/-- Behind a tree without loose operators it stands finished, with its prefix operators. -/
def ReadsTight (e : Expr) (ts : List Token) : Prop :=
  ∀ stack rest, operand stack (ts ++ rest) =
    operator (applyPrefixes stack e).1 (applyPrefixes stack e).2 rest

/-- Behind a tree that was read on an open stack some of it may still be pending, but nothing that
the levels up to this one can tell from the finished tree. -/
def ReadsOpen (level : Nat) (e : Expr) (ts : List Token) : Prop :=
  ∀ stack rest, Open level stack → ∃ stack' e',
    operand stack (ts ++ rest) = operator stack' e' rest ∧
      ∀ k ≤ level, reduce k stack' e' = reduce k stack e

/-- What is read as one operand is read at every level. -/
theorem ReadsTight.readsOpen (h : ReadsTight e ts) : ReadsOpen level e ts := by
  intro stack rest hopen
  have hread := h stack rest
  rw [applyPrefixes_of_open hopen] at hread
  exact ⟨stack, e, hread, fun _ _ => rfl⟩

/-- An expression in parentheses is read as one operand. -/
theorem ReadsOpen.group (h : ReadsOpen 0 e ts) : ReadsTight e (.opening :: ts ++ [.closing]) := by
  intro stack rest
  obtain ⟨stack', e', hread, hreduce⟩ := h (.group :: stack) (.closing :: rest) trivial
  have hgroup : reduce 0 stack' e' = (.group :: stack, e) := hreduce 0 Nat.le.refl
  rw [List.append_assoc, List.cons_append, operand_opening, List.singleton_append, hread,
    operator_closing hgroup]

/-- A sign in front of an operand is read together with it. -/
theorem ReadsTight.unary (h : ReadsTight e ts) (op : UnaryOp) :
    ReadsTight (.unary op e) (op.token :: ts) := by
  intro stack rest
  rw [List.cons_append, operand_token, h]
  rfl

/-- An operator between its sides is read where it binds tightly enough. -/
theorem ReadsOpen.binary {op : BinaryOp} {lhs rhs : Expr} {ls rs : List Token}
    (hl : ReadsOpen op.tier lhs ls) (hr : ReadsOpen (op.tier + 1) rhs rs)
    (hlevel : level ≤ op.tier) :
    ReadsOpen level (.binary op lhs rhs) (ls ++ .operator op :: rs) := by
  intro stack rest hopen
  have hopen' : Open op.tier stack := hopen.mono hlevel
  obtain ⟨stack₁, e₁, hread₁, hreduce₁⟩ := hl stack (.operator op :: (rs ++ rest)) hopen'
  -- the operator finds its left operand finished, and waits on top of the stack
  have hleft : reduce op.tier stack₁ e₁ = (stack, lhs) := by
    rw [hreduce₁ op.tier Nat.le.refl, reduce_of_open hopen']
  obtain ⟨stack₂, e₂, hread₂, hreduce₂⟩ := hr (.pending lhs op :: stack) rest (Nat.lt_succ_self _)
  refine ⟨stack₂, e₂, ?_, fun k hk => ?_⟩
  · rw [List.append_assoc, List.cons_append, hread₁, operator_operator, hleft, hread₂]
  · have hk' : k ≤ op.tier := Nat.le_trans hk hlevel
    rw [hreduce₂ k (Nat.le_succ_of_le hk'), reduce_pending hk']

/-- Every way of writing a tree is read as that tree, and as one operand where its level leaves no
choice. -/
theorem Writes.reads (h : Writes level e ts) :
    ReadsOpen level e ts ∧ (UnaryOp.tier ≤ level → ReadsTight e ts) := by
  -- all but the binary operators are tight at every level
  have hboth {level : Nat} {e : Expr} {ts : List Token} (h : ReadsTight e ts) :
      ReadsOpen level e ts ∧ (UnaryOp.tier ≤ level → ReadsTight e ts) :=
    ⟨h.readsOpen, fun _ => h⟩
  induction h with
  | atom h => exact hboth fun _ _ => operand_atom h
  | group _ ih => exact hboth ih.1.group
  | unary op _ ih => exact hboth ((ih.2 Nat.le.refl).unary op)
  | binary hlevel _ _ ihl ihr =>
      refine ⟨ihl.1.binary ihr.1 hlevel, fun htight => ?_⟩
      exact absurd (Nat.le_trans htight hlevel) (Nat.not_le_of_lt (BinaryOp.tier_lt _))

/-- **What is written is read**, whatever the way of writing it. -/
theorem Writes.operand_eq (h : Writes 0 e ts) : operand [] ts = some e := by
  obtain ⟨stack, e', hread, hreduce⟩ := h.reads.1 [] [] trivial
  rw [List.append_nil] at hread
  rw [hread, operator_nil (hreduce 0 Nat.le.refl)]

/-! ## What is read is written -/

/-- The tokens are what was read before the stack came about. -/
inductive Accounts : List Frame → List Token → Prop
  | nil : Accounts [] []
  | group {stack : List Frame} {front : List Token} (h : Accounts stack front) :
      Accounts (.group :: stack) (front ++ [.opening])
  | prefixed (op : UnaryOp) {stack : List Frame} {front : List Token} (h : Accounts stack front) :
      Accounts (.prefixed op :: stack) (front ++ [op.token])
  | pending {stack : List Frame} {front back : List Token} {lhs : Expr} {op : BinaryOp}
      (h : Accounts stack front) (hopen : Open op.tier stack) (hlhs : Writes op.tier lhs back) :
      Accounts (.pending lhs op :: stack) (front ++ back ++ [.operator op])

/-- The tokens are what was read before the operand was finished on this stack: first what the
stack accounts for, then a way of writing the operand for this level. -/
structure Finished (level : Nat) (stack : List Frame) (e : Expr) (ts : List Token) : Prop where
  isOpen : Open level stack
  accounts : ∃ front back, ts = front ++ back ∧ Accounts stack front ∧ Writes level e back

/-- Prefix operators become part of the operand behind them. -/
theorem Accounts.applyPrefixes (h : Accounts stack front) {back : List Token}
    (he : Writes UnaryOp.tier e back) :
    Finished UnaryOp.tier (applyPrefixes stack e).1 (applyPrefixes stack e).2 (front ++ back) := by
  induction h generalizing e back with
  | nil => exact ⟨trivial, [], back, rfl, .nil, he⟩
  | group h => exact ⟨trivial, _, back, rfl, .group h, he⟩
  | pending h hopen hlhs =>
      exact ⟨BinaryOp.tier_lt _, _, back, rfl, .pending h hopen hlhs, he⟩
  | prefixed op h ih =>
      rw [List.append_assoc, List.singleton_append]
      exact ih (.unary op he)

/-- Pending operators that bind at least as tightly become part of the operand behind them. -/
theorem Finished.reduce (h : Finished level stack e ts) (hle : level' ≤ level) :
    Finished level' (reduce level' stack e).1 (reduce level' stack e).2 ts := by
  induction stack generalizing level e with
  | nil =>
      obtain ⟨front, back, hts, haccounts, he⟩ := h.accounts
      exact ⟨trivial, front, back, hts, haccounts, he.mono hle⟩
  | cons frame below ih =>
      obtain ⟨front, back, rfl, haccounts, he⟩ := h.accounts
      cases haccounts with
      | group haccounts => exact ⟨trivial, _, back, rfl, .group haccounts, he.mono hle⟩
      | prefixed op _ => exact h.isOpen.elim
      | @pending _ front' back' lhs op haccounts hopen hlhs =>
          by_cases htight : level' ≤ op.tier
          · -- below a pending operator there is no other one that binds as tightly
            rw [reduce_pending htight]
            have hbinary : Writes op.tier (.binary op lhs e) (back' ++ .operator op :: back) :=
              .binary Nat.le.refl hlhs (he.mono h.isOpen)
            refine ih ⟨hopen, front', _, ?_, haccounts, hbinary⟩ htight
            rw [List.append_assoc, List.append_assoc, List.singleton_append]
          · have hopen' : Open level' (.pending lhs op :: below) := Nat.lt_of_not_le htight
            rw [reduce_of_open hopen']
            exact ⟨hopen', _, back, rfl, .pending haccounts hopen hlhs, he.mono hle⟩

/-- An operand takes at least one token. -/
theorem Atom.length_pos (h : e.Atom ts) : 0 < ts.length := by
  cases h <;> exact Nat.zero_lt_succ _

mutual

/-- **What is read is written**: the tokens that the stack accounts for and the ones that follow are
a way of writing the tree. -/
theorem writes_of_operand {stack : List Frame} {tree : Expr} {front ts : List Token}
    (haccounts : Accounts stack front) (h : operand stack ts = some tree) :
    Writes 0 tree (front ++ ts) := by
  cases operand_step h with
  | prefixed op hnext =>
      have hwrites := writes_of_operand (haccounts.prefixed op) hnext
      rwa [List.append_assoc] at hwrites
  | opening hnext =>
      have hwrites := writes_of_operand haccounts.group hnext
      rwa [List.append_assoc] at hwrites
  | @atom e atom rest hatom hnext =>
      have hlength := hatom.length_pos
      have hwrites := writes_of_operator (haccounts.applyPrefixes (.atom hatom)) hnext
      rwa [List.append_assoc] at hwrites
termination_by ts.length
decreasing_by
  all_goals
    subst_vars
    simp only [List.length_cons, List.length_append]
    omega

/-- What is read behind an operand completes a way of writing the tree. By recursion on the tokens,
together with `writes_of_operand`. -/
theorem writes_of_operator {stack : List Frame} {e tree : Expr} {front ts : List Token}
    (hfinished : Finished UnaryOp.tier stack e front)
    (h : operator stack e ts = some tree) : Writes 0 tree (front ++ ts) := by
  cases operator_step h with
  | finish hreduce =>
      have hlast := hfinished.reduce (Nat.zero_le _)
      rw [hreduce] at hlast
      obtain ⟨_, back, rfl, ⟨⟩, htree⟩ := hlast.accounts
      rwa [List.append_nil]
  | operator op hnext =>
      have hleft := hfinished.reduce (Nat.le_of_lt op.tier_lt)
      obtain ⟨front', back, rfl, haccounts, hlhs⟩ := hleft.accounts
      have hwrites := writes_of_operand (haccounts.pending hleft.isOpen hlhs) hnext
      rwa [List.append_assoc] at hwrites
  | @closing below inner rest hreduce hnext =>
      have hinner := hfinished.reduce (Nat.zero_le _)
      rw [hreduce] at hinner
      obtain ⟨_, back, rfl, haccounts, hwritten⟩ := hinner.accounts
      -- below the reduced stack the group that is closed is open
      cases haccounts with
      | @group _ front' haccounts =>
          have hwrites := writes_of_operator (haccounts.applyPrefixes hwritten.group) hnext
          simpa only [List.append_assoc, List.cons_append, List.nil_append] using hwrites
termination_by ts.length
decreasing_by
  all_goals
    subst_vars
    exact Nat.lt_succ_self _

end

end Narrative.Expr
