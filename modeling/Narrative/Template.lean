import Narrative.Condition

/-!
# Template — conditional text

A text may contain tags `[if e]b[/if]`. The body `b` stays where the guard `e` holds and goes
where it does not; everything else stays as it is. A tag has a guard without `]` and a body
without `[`, so tags do not nest, and brackets that do not add up to a tag are plain text.
-/

namespace Narrative.Template

/-- A part of a text: one plain character, or one complete tag. -/
inductive Segment where
  | plain (c : Char)
  | tag (guard body : List Char)
deriving DecidableEq, Repr

/-- The complete tag at the front of a text: its guard, its body and what follows. -/
def tag? : List Char → Option (List Char × List Char × List Char)
  | '[' :: 'i' :: 'f' :: ' ' :: cs =>
    let guard := cs.takeWhile (· != ']')
    let inner := (cs.dropWhile (· != ']')).drop 1
    let body := inner.takeWhile (· != '[')
    -- a bracket in the body that opens nothing spoils the tag
    match inner.dropWhile (· != '[') with
    | '[' :: '/' :: 'i' :: 'f' :: ']' :: rest =>
      if guard.isEmpty then none else some (guard, body, rest)
    | _ => none
  | _ => none

/-- A tag takes characters, so what follows it is shorter. `segments` ends by this. -/
theorem tag?_length {cs guard body rest : List Char} (h : tag? cs = some (guard, body, rest)) :
    rest.length < cs.length := by
  unfold tag? at h
  split at h
  · rename_i cs
    -- both searches drop characters and add none
    have hinner : ((cs.dropWhile (· != ']')).drop 1).length ≤ cs.length :=
      Nat.le_trans (by simp) (List.dropWhile_sublist (p := (· != ']')) (l := cs)).length_le
    have hclose := (List.dropWhile_sublist (p := (· != '['))
      (l := (cs.dropWhile (· != ']')).drop 1)).length_le
    dsimp only at h
    split at h
    · rename_i rest' hdrop
      split at h
      · simp at h
      · simp only [Option.some.injEq, Prod.mk.injEq] at h
        obtain ⟨-, -, rfl⟩ := h
        rw [hdrop] at hclose
        simp only [List.length_cons] at hclose ⊢
        omega
    · simp at h
  · simp at h

/-- The parts of a text, with the leftmost complete tags that do not overlap. -/
def segments : List Char → List Segment
  | [] => []
  | c :: cs =>
    match h : tag? (c :: cs) with
    | some (guard, body, rest) =>
      have := tag?_length h
      .tag guard body :: segments rest
    | none => .plain c :: segments cs
termination_by cs => cs.length
decreasing_by
  · assumption
  · exact Nat.lt_succ_self cs.length

/-- What is left of one part. -/
def Segment.resolve (ctx : Context) : Segment → Except ExprError (List Char)
  | .plain c => .ok [c]
  | .tag guard body =>
    (Condition.evaluate ctx [String.ofList guard]).map fun holds => if holds then body else []

/-- Resolves the parts in order; the error is that of the first malformed guard. -/
def resolve (ctx : Context) (parts : List Segment) : Except ExprError (List Char) :=
  (parts.mapM (Segment.resolve ctx)).map List.flatten

/-- The text with its tags resolved. -/
def prepare (ctx : Context) (text : String) : Except ExprError String :=
  (resolve ctx (segments text.toList)).map String.ofList

/-- What happens while parts are resolved, up to the first malformed guard. -/
def remarksOn (ctx : Context) : List Segment → List Remark
  | [] => []
  | .plain _ :: rest => remarksOn ctx rest
  | .tag guard _ :: rest =>
    match Condition.parse [String.ofList guard] with
    | .ok _ => Condition.remarks ctx [String.ofList guard] ++ remarksOn ctx rest
    | .error _ => []

/-- What happens while a text is prepared. -/
def remarks (ctx : Context) (text : String) : List Remark :=
  remarksOn ctx (segments text.toList)

end Narrative.Template
