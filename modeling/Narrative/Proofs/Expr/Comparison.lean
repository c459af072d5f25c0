import Mathlib
import Narrative.Expr.Eval
import Narrative.Proofs.Number

/-!
# Comparisons

A number with an exact value has a place among the numbers, and a text has one among the texts. All
comparisons are told by the places of the two values: the ordering operators ask how these are
ordered, and equality asks whether they are the same. So the laws of the operators are those of a
partial order in which numbers and texts lie apart.

* **`Value.compare?_eq_lt_iff`**, **`Value.compare?_eq_gt_iff`**, **`Value.compare?_eq_eq_iff`** —
  the order of two values is that of their places.
* **`Value.comparisons_are_coherent`** — the laws of the eight operators.
-/

namespace Narrative

namespace BinaryOp

/-- Whether an operator is told by the order of its operands. -/
def isOrdering : BinaryOp → Bool
  | .lt | .le | .gt | .ge => true
  | _ => false

/-- Whether an operator compares its operands. -/
def isComparison : BinaryOp → Bool
  | .eq | .strictEq | .ne | .strictNe | .lt | .le | .gt | .ge => true
  | _ => false

/-- Whether an operator says yes to two values. -/
def Holds (op : BinaryOp) (a b : Value) : Prop := op.apply a b = .ok (.bool true)

variable {op : BinaryOp} {a b : Value}

/-- A comparison answers yes or no. -/
theorem apply_of_isComparison (h : op.isComparison = true) (a b : Value) :
    ∃ holds, op.apply a b = .ok (.bool holds) := by
  cases op with
  | or | and | add | sub | mul | div => nomatch h
  | _ => exact ⟨_, rfl⟩

/-- An ordering operator asks for the order of its sides; where they have none, it is false. -/
theorem apply_of_isOrdering (h : op.isOrdering = true) (a b : Value) :
    op.apply a b = .ok (.bool ((a.compare? b).any op.accepts)) := by
  cases op with
  | lt | le | gt | ge => rfl
  | _ => nomatch h

/-- What `==` says of two values. -/
theorem eq_holds_iff : eq.Holds a b ↔ a.equals b = true := by
  simp [Holds, apply]

/-- What `!=` says of two values. -/
theorem ne_holds_iff : ne.Holds a b ↔ ¬ a.equals b = true := by
  simp [Holds, apply]

/-- What `<` says of two values. -/
theorem lt_holds_iff : lt.Holds a b ↔ a.compare? b = some .lt := by
  rw [Holds, apply_of_isOrdering rfl]
  rcases a.compare? b with _ | (_ | _ | _) <;> simp [accepts]

/-- What `>` says of two values. -/
theorem gt_holds_iff : gt.Holds a b ↔ a.compare? b = some .gt := by
  rw [Holds, apply_of_isOrdering rfl]
  rcases a.compare? b with _ | (_ | _ | _) <;> simp [accepts]

/-- What `<=` says of two values. It asks for an order of its own and does not negate `>`, which
makes a difference where the values have none. -/
theorem le_holds_iff :
    le.Holds a b ↔ a.compare? b = some .lt ∨ a.compare? b = some .eq := by
  rw [Holds, apply_of_isOrdering rfl]
  rcases a.compare? b with _ | (_ | _ | _) <;> simp [accepts]

/-- What `>=` says of two values. -/
theorem ge_holds_iff :
    ge.Holds a b ↔ a.compare? b = some .gt ∨ a.compare? b = some .eq := by
  rw [Holds, apply_of_isOrdering rfl]
  rcases a.compare? b with _ | (_ | _ | _) <;> simp [accepts]

end BinaryOp

namespace Value

/-! ## Places -/

/-- Where a value can stand: among the numbers or among the texts. -/
abbrev Place := Number.Exact ⊕ String

/-- The order of two places, where both are among the numbers or both among the texts. -/
def Place.compare? : Place → Place → Option Ordering
  | .inl p, .inl q => some (compare p q)
  | .inr s, .inr t => some (compare s t)
  | _, _ => none

/-- Places are ordered as they compare. -/
theorem Place.compare?_eq_lt_iff {p q : Place} : Place.compare? p q = some .lt ↔ p < q := by
  rcases p with p | s <;> rcases q with q | t
  · rw [Place.compare?, Option.some_inj, compare_lt_iff_lt, Sum.inl_lt_inl_iff]
  · exact iff_of_false nofun Sum.not_inl_lt_inr
  · exact iff_of_false nofun Sum.not_inr_lt_inl
  · rw [Place.compare?, Option.some_inj, Sum.inr_lt_inr_iff]
    exact compareOfLessAndEq_eq_lt

/-- Only a place itself compares equal to it. -/
theorem Place.compare?_eq_eq_iff {p q : Place} : Place.compare? p q = some .eq ↔ p = q := by
  rcases p with p | s <;> rcases q with q | t
  · rw [Place.compare?, Option.some_inj, compare_eq_iff_eq, Sum.inl.injEq]
  · exact iff_of_false nofun nofun
  · exact iff_of_false nofun nofun
  · rw [Place.compare?, Option.some_inj, Std.compare_eq_iff_eq, Sum.inr.injEq]

/-- Places compare the other way round when they are exchanged. -/
theorem Place.compare?_eq_gt_iff {p q : Place} : Place.compare? p q = some .gt ↔ q < p := by
  rcases p with p | s <;> rcases q with q | t
  · rw [Place.compare?, Option.some_inj, compare_gt_iff_gt, Sum.inl_lt_inl_iff]
  · exact iff_of_false nofun Sum.not_inr_lt_inl
  · exact iff_of_false nofun Sum.not_inl_lt_inr
  · rw [Place.compare?, Option.some_inj, Sum.inr_lt_inr_iff]
    exact compareOfLessAndEq_eq_gt String.le_antisymm String.le_total String.not_le s t

/-- Where a value stands. Neither NaN nor the values of other types stand anywhere. -/
def place? : Value → Option Place
  | .number x => (Number.exactly? x).map .inl
  | .text s => some (.inr s)
  | .null | .bool _ => none

variable {a b c : Value}

/-- Numbers compare by their exact values; one that has none compares with nothing. -/
theorem compare?_number (x y : Float) :
    (number x).compare? (.number y) =
      (Number.exactly? x).bind fun p => (Number.exactly? y).map (compare p) := by
  have hlt : x < y ↔ _ := Number.lt_iff
  have heq : x == y ↔ _ := Number.beq_iff
  have hgt : y < x ↔ _ := Number.lt_iff
  unfold compare?
  cases hp : Number.exactly? x with
  | none => simp [hlt, heq, hgt, hp]
  | some p =>
      cases hq : Number.exactly? y with
      | none => simp [hlt, heq, hgt, hp, hq]
      | some q =>
          -- the three tests come in turn, and the first that succeeds decides
          rcases lt_trichotomy p q with h | rfl | h
          · simp [hlt, hp, hq, h, compare_lt_iff_lt.mpr h]
          · simp [hlt, heq, hp, hq]
          · simp [hlt, heq, hgt, hp, hq, h, h.ne, h.not_gt, compare_gt_iff_gt.mpr h]

/-- **The order of two values is that of their places.** -/
theorem compare?_eq (a b : Value) :
    a.compare? b = a.place?.bind fun p => b.place?.bind (Place.compare? p) := by
  cases a with
  | null | bool _ => rfl
  | number x =>
      cases b with
      | null | bool _ | text _ =>
          -- a number and a text both have their place, but neither stands before the other
          cases h : Number.exactly? x <;> simp [compare?, place?, h, Place.compare?]
      | number y =>
          rw [compare?_number, place?, place?]
          cases Number.exactly? x <;> cases Number.exactly? y <;> rfl
  | text s =>
      cases b with
      | null | bool _ | text _ => rfl
      | number y => cases h : Number.exactly? y <;> simp [compare?, place?, h, Place.compare?]

/-- A value is less than another exactly if both have a place and these are in order. -/
theorem compare?_eq_lt_iff :
    a.compare? b = some .lt ↔ ∃ p ∈ a.place?, ∃ q ∈ b.place?, p < q := by
  rw [compare?_eq]
  simp only [Option.bind_eq_some_iff, Place.compare?_eq_lt_iff, Option.mem_def]

/-- Two values compare equal exactly if they share a place. -/
theorem compare?_eq_eq_iff :
    a.compare? b = some .eq ↔ ∃ p ∈ a.place?, p ∈ b.place? := by
  rw [compare?_eq]
  simp only [Option.bind_eq_some_iff, Place.compare?_eq_eq_iff, Option.mem_def, exists_eq_right']

/-- The order turns round with the sides. -/
theorem compare?_eq_gt_iff : a.compare? b = some .gt ↔ b.compare? a = some .lt := by
  rw [compare?_eq_lt_iff, compare?_eq]
  simp only [Option.bind_eq_some_iff, Place.compare?_eq_gt_iff, Option.mem_def]
  exact ⟨fun ⟨p, hp, q, hq, h⟩ => ⟨q, hq, p, hp, h⟩, fun ⟨q, hq, p, hp, h⟩ => ⟨p, hp, q, hq, h⟩⟩

/-! ## The laws -/

/-- Behind one another in the order of their places. -/
theorem compare?_lt_trans (hab : a.compare? b = some .lt) (hbc : b.compare? c = some .lt) :
    a.compare? c = some .lt := by
  obtain ⟨p, hp, q, hq, hpq⟩ := compare?_eq_lt_iff.mp hab
  obtain ⟨q', hq', r, hr, hqr⟩ := compare?_eq_lt_iff.mp hbc
  obtain rfl : q = q' := Option.mem_unique hq hq'
  exact compare?_eq_lt_iff.mpr ⟨p, hp, r, hr, hpq.trans hqr⟩

/-- Numbers and texts are equal where they stand at one place. -/
theorem equals_iff (h : a.type = .number ∨ a.type = .text) :
    a.equals b = true ↔ a.compare? b = some .eq := by
  rw [compare?_eq_eq_iff]
  rcases a with _ | _ | x | s
  · simp [type] at h
  · simp [type] at h
  · cases b with
    | number y =>
        -- equality of numbers is that of their exact values, so `0` and `-0` are one and NaN is
        -- none
        have heq : x == y ↔ _ := Number.beq_iff
        simp [equals, place?, heq]
    | _ => simp [equals, place?]
  · cases b with
    | text t => simp [equals, place?, @eq_comm String t]
    | _ => simp [equals, place?]

/-- Values of different types have no order, nor have two that are null or boolean. -/
theorem compare?_eq_none (h : a.type ≠ b.type ∨ a.type = .null ∨ a.type = .boolean) :
    a.compare? b = none := by
  cases a <;> cases b <;> first | rfl | simp [type] at h

/-- Whether two values have an order: two texts, or two numbers that are not NaN. -/
inductive Comparable : Value → Value → Prop
  | texts (s t : String) : Comparable (.text s) (.text t)
  | numbers {x y : Float} (hx : x.isNaN = false) (hy : y.isNaN = false) :
      Comparable (.number x) (.number y)

/-- Comparable values have an order. -/
theorem Comparable.exists_order (h : Comparable a b) : ∃ order, a.compare? b = some order := by
  cases h with
  | texts s t => exact ⟨_, rfl⟩
  | @numbers x y hx hy =>
      have hvalue {z : Float} (hz : z.isNaN = false) : ∃ p, Number.exactly? z = some p := by
        rw [← Option.ne_none_iff_exists', Ne, Number.exactly?_eq_none_iff, hz]
        exact Bool.false_ne_true
      obtain ⟨p, hp⟩ := hvalue hx
      obtain ⟨q, hq⟩ := hvalue hy
      rw [compare?_number, hp, hq]
      exact ⟨_, rfl⟩

/-- Of two values of which one is less, neither is null or boolean. -/
theorem type_of_compare?_eq_some {order : Ordering} (h : a.compare? b = some order) :
    a.type = .number ∨ a.type = .text := by
  by_contra hother
  have hnone : a.compare? b = none := by
    refine compare?_eq_none (.inr ?_)
    cases htype : a.type <;> simp [htype] at hother ⊢
  rw [hnone] at h
  cases h

open BinaryOp in
/-- **Comparisons are coherent on all values.** None of them fails; the two equalities agree, the
two inequalities deny them, also of NaN, and turning an ordering around exchanges its operands. Of
less, equal and greater at most one holds, and one does of two texts and of two numbers that are
not NaN. Values of different types, and values that are null or boolean, have no order at all, and
values of different types are not equal. Numbers are ordered by their exact values and texts by the
code points of their characters. -/
theorem comparisons_are_coherent (a b c : Value) :
    (∀ op : BinaryOp, op.isComparison = true → ∃ holds, op.apply a b = .ok (.bool holds)) ∧
    (strictEq.Holds a b ↔ eq.Holds a b) ∧
    (ne.Holds a b ↔ ¬ eq.Holds a b) ∧ (strictNe.Holds a b ↔ ¬ strictEq.Holds a b) ∧
    (lt.Holds a b ↔ gt.Holds b a) ∧ (le.Holds a b ↔ ge.Holds b a) ∧
    (a.type = b.type → a.type = .number ∨ a.type = .text →
      (le.Holds a b ↔ lt.Holds a b ∨ eq.Holds a b)) ∧
    (¬ (lt.Holds a b ∧ eq.Holds a b) ∧ ¬ (lt.Holds a b ∧ gt.Holds a b) ∧
      ¬ (eq.Holds a b ∧ gt.Holds a b)) ∧
    (Comparable a b → lt.Holds a b ∨ eq.Holds a b ∨ gt.Holds a b) ∧
    (lt.Holds a b → lt.Holds b c → lt.Holds a c) ∧
    (a.type ≠ b.type ∨ a.type = .null ∨ a.type = .boolean →
      ∀ op : BinaryOp, op.isOrdering = true → op.apply a b = .ok (.bool false)) ∧
    (a.type ≠ b.type → eq.apply a b = .ok (.bool false)) ∧
    (eq.Holds .null b ↔ b = .null) ∧
    (∀ x y : Float, lt.Holds (.number x) (.number y) ↔
      ∃ p ∈ Number.exactly? x, ∃ q ∈ Number.exactly? y, p < q) ∧
    (∀ s t : String, lt.Holds (.text s) (.text t) ↔ s.toList < t.toList) := by
  refine ⟨fun op hop => apply_of_isComparison hop a b, .rfl, ?_, ?_, ?_, ?_, fun _ htype => ?_,
    ⟨?_, ?_, ?_⟩, fun hcomparable => ?_, ?_, fun hunordered op hop => ?_, fun htypes => ?_, ?_,
    fun x y => ?_, fun s t => ?_⟩
  · rw [ne_holds_iff, eq_holds_iff]
  · exact ne_holds_iff.trans (not_congr eq_holds_iff.symm)
  · rw [lt_holds_iff, gt_holds_iff, compare?_eq_gt_iff]
  · rw [le_holds_iff, ge_holds_iff, compare?_eq_gt_iff, compare?_eq_eq_iff, compare?_eq_eq_iff]
    simp only [and_comm]
  · rw [le_holds_iff, lt_holds_iff, eq_holds_iff, equals_iff htype]
  · rw [lt_holds_iff, eq_holds_iff]
    rintro ⟨hlt, heq⟩
    rw [equals_iff (type_of_compare?_eq_some hlt), hlt] at heq
    cases heq
  · rw [lt_holds_iff, gt_holds_iff]
    rintro ⟨hlt, hgt⟩
    cases hlt.symm.trans hgt
  · rw [gt_holds_iff, eq_holds_iff]
    rintro ⟨heq, hgt⟩
    rw [equals_iff (type_of_compare?_eq_some hgt), hgt] at heq
    cases heq
  · -- one order each for the three cases
    obtain ⟨order, horder⟩ := hcomparable.exists_order
    rw [lt_holds_iff, eq_holds_iff, gt_holds_iff, equals_iff (type_of_compare?_eq_some horder),
      horder]
    cases order <;> decide
  · rw [lt_holds_iff, lt_holds_iff, lt_holds_iff]
    exact compare?_lt_trans
  · rw [apply_of_isOrdering hop, compare?_eq_none hunordered]
    rfl
  · have hdiffer : a.equals b = false := by
      cases a <;> cases b <;> first | rfl | exact absurd rfl htypes
    rw [apply, hdiffer]
  · rw [eq_holds_iff]
    cases b <;> simp [equals]
  · rw [lt_holds_iff, compare?_number, Option.bind_eq_some_iff]
    simp only [Option.map_eq_some_iff, compare_lt_iff_lt, Option.mem_def]
  · rw [lt_holds_iff, ← String.lt_iff_toList_lt]
    exact (Option.some_inj.trans compareOfLessAndEq_eq_lt)

/-- A prefix is less. The two zeros are at one place, which is ordered with itself, NaN differs from
itself, and a text has no order with a number. -/
theorem prefixes_and_zeros_compare :
    BinaryOp.lt.Holds (.text "ab") (.text "abc") ∧ BinaryOp.lt.Holds (.text "abc") (.text "b") ∧
    BinaryOp.lt.Holds (.text "ab") (.text "b") ∧
    BinaryOp.le.Holds (.number 0) (.number (-0)) ∧
    Comparable (.number 0) (.number (-0)) ∧
    (BinaryOp.lt.Holds (.number 0) (.number (-0)) ∨ BinaryOp.eq.Holds (.number 0) (.number (-0)) ∨
      BinaryOp.gt.Holds (.number 0) (.number (-0))) ∧
    BinaryOp.ne.Holds (.number (0 / 0)) (.number (0 / 0)) ∧
    BinaryOp.ge.apply (.text "1") (.number 1) = .ok (.bool false) ∧
    BinaryOp.eq.apply (.text "1") (.number 1) = .ok (.bool false) := by
  have hshort : BinaryOp.lt.Holds (.text "ab") (.text "abc") := by cbv
  have hlong : BinaryOp.lt.Holds (.text "abc") (.text "b") := by cbv
  have hzeros : BinaryOp.eq.Holds (.number 0) (.number (-0)) :=
    BinaryOp.eq_holds_iff.mpr (by decide)
  -- a number that is none is not even equal to itself
  have hnan : ¬ BinaryOp.eq.Holds (.number (0 / 0)) (.number (0 / 0)) :=
    mt BinaryOp.eq_holds_iff.mp (by decide)
  have hvalues : Comparable (.number 0) (.number (-0)) := .numbers (by decide) (by decide)
  obtain ⟨-, -, -, -, -, -, -, -, -, htrans, -⟩ :=
    comparisons_are_coherent (.text "ab") (.text "abc") (.text "b")
  obtain ⟨-, -, -, -, -, -, hle, -, hone, -⟩ :=
    comparisons_are_coherent (.number 0) (.number (-0)) .null
  obtain ⟨-, -, hne, -⟩ := comparisons_are_coherent (.number (0 / 0)) (.number (0 / 0)) .null
  obtain ⟨-, -, -, -, -, -, -, -, -, -, hapart, hdiffer, -⟩ :=
    comparisons_are_coherent (.text "1") (.number 1) .null
  exact ⟨hshort, hlong, htrans hshort hlong, (hle rfl (.inl rfl)).mpr (.inr hzeros), hvalues,
    hone hvalues, hne.mpr hnan, hapart (.inl nofun) .ge rfl, hdiffer nofun⟩

end Value

end Narrative
