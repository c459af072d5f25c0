import Narrative.Expr.Basic

/-!
# Expr.Token — the words of an expression

`Token.scan` cuts a source into tokens. Blanks may stand between tokens and not inside them, and
an operator is always read as long as it goes: `!==` is one token and not three.
-/

namespace Narrative

/-- A token of an expression. -/
inductive Token where
  /-- Letters, digits and underscores: a name, a whole number, `true` or `false`. -/
  | word (name : List Char)
  /-- A number with a fraction. -/
  | decimal (whole fraction : List Char)
  /-- The content of a quoted text. -/
  | text (content : List Char)
  | bang
  | operator (op : BinaryOp)
  | opening
  | closing
deriving DecidableEq, Repr

namespace Token

/-- The characters that may stand between tokens. -/
def isSpace (c : Char) : Bool := c == ' ' || c == '\t' || c == '\r' || c == '\n'

/-- The characters of words: ASCII letters and digits, and the underscore. -/
def isWordChar (c : Char) : Bool := c.isAlphanum || c == '_'

/-- The symbol at the front of a text, the longest where several fit. -/
def symbol? : List Char → Option (Token × List Char)
  | '|' :: '|' :: rest => some (.operator .or, rest)
  | '&' :: '&' :: rest => some (.operator .and, rest)
  -- longer signs first
  | '=' :: '=' :: '=' :: rest => some (.operator .strictEq, rest)
  | '=' :: '=' :: rest => some (.operator .eq, rest)
  | '!' :: '=' :: '=' :: rest => some (.operator .strictNe, rest)
  | '!' :: '=' :: rest => some (.operator .ne, rest)
  | '!' :: rest => some (.bang, rest)
  | '<' :: '=' :: rest => some (.operator .le, rest)
  | '<' :: rest => some (.operator .lt, rest)
  | '>' :: '=' :: rest => some (.operator .ge, rest)
  | '>' :: rest => some (.operator .gt, rest)
  | '+' :: rest => some (.operator .add, rest)
  | '-' :: rest => some (.operator .sub, rest)
  | '*' :: rest => some (.operator .mul, rest)
  | '/' :: rest => some (.operator .div, rest)
  | '(' :: rest => some (.opening, rest)
  | ')' :: rest => some (.closing, rest)
  | _ => none

/-- A word, or a number with a fraction: digits on both sides of a point. -/
def ofWord (word rest : List Char) : Token × List Char :=
  match rest with
  | '.' :: after =>
    let fraction := after.takeWhile (·.isDigit)
    if word.all (·.isDigit) && !fraction.isEmpty then
      (.decimal word fraction, after.dropWhile (·.isDigit))
    else (.word word, rest)
  | _ => (.word word, rest)

/-- The token that starts with the character `c`, and what follows it. A quoted text ends at the
next quote of its own kind. -/
def next? (c : Char) (cs : List Char) : Option (Token × List Char) :=
  if isWordChar c then
    some (ofWord (c :: cs.takeWhile isWordChar) (cs.dropWhile isWordChar))
  else if c == '"' || c == '\'' then
    match cs.dropWhile (· != c) with
    | _ :: rest => some (.text (cs.takeWhile (· != c)), rest)
    | [] => none
  else symbol? (c :: cs)

/-! ## Scanning ends

A token takes at least one character. -/

/-- A sign takes at least one character. -/
theorem symbol?_length {cs rest : List Char} {t : Token} (h : symbol? cs = some (t, rest)) :
    rest.length < cs.length := by
  unfold symbol? at h
  split at h <;> simp only [Option.some.injEq, Prod.mk.injEq, reduceCtorEq] at h <;>
    (obtain ⟨-, rfl⟩ := h; simp only [List.length_cons]; omega)

/-- What is left of a list is no longer than it. -/
theorem length_dropWhile_le {α : Type} (p : α → Bool) (xs : List α) :
    (xs.dropWhile p).length ≤ xs.length :=
  (List.dropWhile_sublist p).length_le

/-- A word never reaches further than the characters that were set aside for it. -/
theorem ofWord_length (word rest : List Char) : (ofWord word rest).2.length ≤ rest.length := by
  unfold ofWord
  split
  · rename_i after
    have := length_dropWhile_le (·.isDigit) after
    dsimp only
    split
    · simp only [List.length_cons]
      omega
    · simp
  · simp

/-- A token is cut off the front of a text, so what follows it is shorter. `scan` ends by this. -/
theorem next?_length {c : Char} {cs rest : List Char} {t : Token}
    (h : next? c cs = some (t, rest)) : rest.length ≤ cs.length := by
  unfold next? at h
  split at h
  · -- a word: one that is a number may take in a fraction behind it
    have hword := ofWord_length (c :: cs.takeWhile isWordChar) (cs.dropWhile isWordChar)
    have hdrop := length_dropWhile_le isWordChar cs
    rw [Option.some.inj h] at hword
    exact Nat.le_trans hword hdrop
  · -- a text in quotes, which needs its second quote, or else a sign
    split at h
    · have hle := length_dropWhile_le (· != c) cs
      split at h
      · rename_i hdrop
        simp only [Option.some.injEq, Prod.mk.injEq] at h
        obtain ⟨-, rfl⟩ := h
        rw [hdrop, List.length_cons] at hle
        omega
      · simp at h
    · have := symbol?_length h
      simp only [List.length_cons] at this
      omega

/-- The tokens of a source, or nothing if some part of it is no token. -/
def scan : List Char → Option (List Token)
  | [] => some []
  | c :: cs =>
    if isSpace c then scan cs
    else
      match h : next? c cs with
      | none => none
      | some (token, rest) =>
        have := next?_length h
        (scan rest).map (token :: ·)
termination_by cs => cs.length

end Token

end Narrative
