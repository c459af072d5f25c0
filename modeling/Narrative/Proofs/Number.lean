import Mathlib

/-!
# The order of numbers

A double is compared field by field: by its sign, its exponent and its mantissa. This is the order
of the exact values, since a mantissa has its leading bit wherever the exponent could be less. All
finite values are whole multiples of the least positive one, so they are counted in it.

* **`Number.compare_unpack`** — numbers are compared as their exact values.
* **`Number.lt_iff`**, **`Number.beq_iff`** — what that says of `<` and `==`; NaN has no value.
-/

namespace Narrative.Number

open Float.Model Float.Model.UnpackedFloat

variable {m m' : Nat} {e e' : Int}

/-! ## Magnitudes -/

/-- A magnitude, counted in the least positive number. -/
def magnitude (mantissa : Nat) (exponent : Int) : Int := mantissa * 2 ^ (exponent + 1074).toNat

/-- A mantissa that is not zero has a positive magnitude. -/
theorem magnitude_pos (h : 0 < m) (e : Int) : 0 < magnitude m e := by
  unfold magnitude
  positivity

/-- With the same exponent the mantissas decide. -/
theorem magnitude_lt_magnitude (h : m < m') (e : Int) : magnitude m e < magnitude m' e := by
  unfold magnitude
  gcongr

/-- A mantissa has its leading bit, unless the exponent is the least one. -/
structure Canonical (mantissa : Nat) (exponent : Int) : Prop where
  lt : mantissa < 2 ^ 53
  le : -1074 ≤ exponent
  leading : -1074 < exponent → 2 ^ 52 ≤ mantissa

/-- The bits of a number hold its mantissa in canonical form. -/
theorem canonical_of_unpack {x : Float} {sign : Sign} {h : 0 < m}
    (hx : x.toModel.unpack = .finite sign m e h) : Canonical m e := by
  unfold Float.Model.unpack UnpackedFloat.unpack at hx
  dsimp only at hx
  have hbias : (Format.binary64.exponentBias : Int) = 1023 := rfl
  split at hx
  · split at hx <;> cases hx
  · split at hx
    · rename_i hfield
      split at hx
      · cases hx
      · -- without a leading bit the exponent is the least one
        cases hx
        have hfraction := (@unpackMantissa .binary64 x.toModel.toBits.toBitVec).isLt
        have hzero : (@unpackExponent .binary64 x.toModel.toBits.toBitVec).toNat = 0 :=
          congrArg BitVec.toNat hfield
        rw [hzero, hbias]
        exact ⟨by omega, by decide, fun habove => absurd habove (by decide)⟩
    · -- with a leading bit the mantissa reaches its full length
      rename_i hfield
      cases hx
      generalize @unpackExponent .binary64 x.toModel.toBits.toBitVec = field at *
      generalize @unpackMantissa .binary64 x.toModel.toBits.toBitVec = fraction at *
      have hfraction : fraction.toNat < 2 ^ 52 := fraction.isLt
      have hpos : field.toNat ≠ 0 := fun hzero => hfield (BitVec.eq_of_toNat_eq hzero)
      have hleading : (1#1 ++ fraction).toNat = 2 ^ 52 + fraction.toNat := by
        rw [BitVec.toNat_append, Nat.shiftLeft_eq, Nat.mul_comm,
          ← Nat.two_pow_add_eq_or_of_lt (BitVec.isLt _)]
        rfl
      rw [hleading, hbias]
      exact ⟨by omega, by omega, fun _ => by omega⟩

/-- Of two canonical magnitudes the one with the greater exponent is greater. -/
theorem Canonical.magnitude_lt (h : Canonical m e) (h' : Canonical m' e') (hlt : e < e') :
    magnitude m e < magnitude m' e' := by
  have hlow := h.le
  -- a canonical mantissa above the least exponent has its leading bit
  have hleading : 2 ^ 52 ≤ m' := h'.leading (by omega)
  obtain ⟨k, hk⟩ : ∃ k, (e' + 1074).toNat = (e + 1074).toNat + 1 + k :=
    ⟨_, (Nat.add_sub_of_le (by omega)).symm⟩
  have hroom : (m : Int) < 2 ^ 53 := by exact_mod_cast h.lt
  have hfull : (2 : Int) ^ 52 ≤ m' := by exact_mod_cast hleading
  have hmore : (1 : Int) ≤ 2 ^ k := one_le_pow₀ (by decide)
  unfold magnitude
  -- the greatest mantissa one exponent below is still less than the least one here
  calc (m : Int) * 2 ^ (e + 1074).toNat
      < 2 ^ 53 * 2 ^ (e + 1074).toNat := by gcongr
    _ = 2 ^ 52 * (2 ^ ((e + 1074).toNat + 1) * 1) := by ring
    _ ≤ m' * (2 ^ ((e + 1074).toNat + 1) * 2 ^ k) := by gcongr
    _ = m' * 2 ^ (e' + 1074).toNat := by rw [hk, pow_add _ _ k]

/-- Canonical magnitudes are compared by their exponents and then by their mantissas. -/
theorem Canonical.compare_magnitude (h : Canonical m e) (h' : Canonical m' e') :
    compare (magnitude m e) (magnitude m' e') = (compare e e').then (compare m m') := by
  rcases lt_trichotomy e e' with hlt | rfl | hlt
  · rw [compare_lt_iff_lt.mpr hlt, compare_lt_iff_lt.mpr (h.magnitude_lt h' hlt)]
    rfl
  · rw [compare_eq_iff_eq.mpr (rfl : e = e), Ordering.eq_then]
    rcases lt_trichotomy m m' with hm | rfl | hm
    · rw [compare_lt_iff_lt.mpr hm, compare_lt_iff_lt.mpr (magnitude_lt_magnitude hm e)]
    · rw [compare_eq_iff_eq.mpr rfl, compare_eq_iff_eq.mpr rfl]
    · rw [compare_gt_iff_gt.mpr hm, compare_gt_iff_gt.mpr (magnitude_lt_magnitude hm e)]
  · rw [compare_gt_iff_gt.mpr hlt, compare_gt_iff_gt.mpr (h'.magnitude_lt h hlt)]
    rfl

/-! ## Exact values -/

/-- A value in the least positive number, or one of the two infinities. -/
abbrev Exact := WithBot (WithTop Int)

-- these have other instances as well, which cannot be computed
instance : LinearOrder Exact := WithBot.linearOrder

instance : Ord Exact := LinearOrder.toOrd

/-- The exact value of a number. Both zeros are zero, and NaN has no value. -/
def exactly? (x : Float) : Option Exact :=
  match x.toModel.unpack with
  | .notANumber => none
  | .infinity .negative => some ⊥
  | .infinity .positive => some ((⊤ : WithTop Int) : Exact)
  | .zero _ => some ((0 : Int) : WithTop Int)
  | .finite .negative m e _ => some ((-magnitude m e : Int) : WithTop Int)
  | .finite .positive m e _ => some ((magnitude m e : Int) : WithTop Int)

/-- Finite values compare as the integers that they are. -/
theorem compare_coe (p q : Int) :
    compare ((p : WithTop Int) : Exact) ((q : WithTop Int) : Exact) = compare p q := by
  have hmono : StrictMono fun p : Int => ((p : WithTop Int) : Exact) :=
    WithBot.coe_strictMono.comp WithTop.coe_strictMono
  rw [← cmp_eq_compare, ← cmp_eq_compare]
  exact hmono.cmp_map_eq p q

/-- Negating both sides turns a comparison round. -/
theorem compare_neg (p q : Int) : compare (-p) (-q) = (compare p q).swap := by
  have hanti : StrictAnti fun p : Int => -p := fun _ _ h => Int.neg_lt_neg h
  rw [← cmp_eq_compare, ← cmp_eq_compare, cmp_swap]
  exact hanti.cmp_map_eq p q

/-- **Numbers are compared as their exact values.** -/
theorem compare_unpack (x y : Float) :
    x.toModel.unpack.compare y.toModel.unpack =
      (exactly? x).bind fun p => (exactly? y).map (compare p) := by
  have hlt {p q : Exact} : Ordering.lt = compare p q ↔ p < q := eq_comm.trans compare_lt_iff_lt
  have hgt {p q : Exact} : Ordering.gt = compare p q ↔ q < p := eq_comm.trans compare_gt_iff_gt
  have heq {p q : Exact} : Ordering.eq = compare p q ↔ p = q := eq_comm.trans compare_eq_iff_eq
  have hself (s : Sign) : compare s s = .eq := by cases s <;> rfl
  have hup : compare Sign.negative Sign.positive = .lt := rfl
  have hdown : compare Sign.positive Sign.negative = .gt := rfl
  unfold exactly?
  -- the infinities lie outside all finite values, and the signs settle the rest but for two cases
  rcases hx : x.toModel.unpack with (_ | _) | _ | _ | ⟨_ | _, m, e, hm⟩ <;>
    rcases hy : y.toModel.unpack with (_ | _) | _ | _ | ⟨_ | _, m', e', hm'⟩ <;>
    simp only [UnpackedFloat.compare, Option.bind_some, Option.map_some, Option.bind_none,
      Option.map_none, Option.some.injEq, hself, hup, hdown, hlt, hgt, heq, WithBot.bot_lt_coe,
      WithBot.coe_lt_coe, WithTop.coe_lt_top, WithTop.coe_lt_coe]
  case zero.finite.negative => exact neg_neg_of_pos (magnitude_pos hm' e')
  case zero.finite.positive => exact magnitude_pos hm' e'
  case finite.negative.zero => exact neg_neg_of_pos (magnitude_pos hm e)
  case finite.positive.zero => exact magnitude_pos hm e
  case finite.negative.finite.positive =>
    exact (neg_neg_of_pos (magnitude_pos hm e)).trans (magnitude_pos hm' e')
  case finite.positive.finite.negative =>
    exact (neg_neg_of_pos (magnitude_pos hm' e')).trans (magnitude_pos hm e)
  case finite.negative.finite.negative =>
    rw [compare_coe, compare_neg,
      (canonical_of_unpack hx).compare_magnitude (canonical_of_unpack hy)]
  case finite.positive.finite.positive =>
    rw [compare_coe, (canonical_of_unpack hx).compare_magnitude (canonical_of_unpack hy)]

variable {x y : Float}

/-- Two numbers have an order if both have a value, and then it is the order of the values. -/
theorem compare_eq_some_iff {order : Ordering} :
    x.toModel.unpack.compare y.toModel.unpack = some order ↔
      ∃ p ∈ exactly? x, ∃ q ∈ exactly? y, compare p q = order := by
  rw [compare_unpack, Option.bind_eq_some_iff]
  simp only [Option.map_eq_some_iff, Option.mem_def]

/-- A number is less than another exactly if their exact values are. -/
theorem lt_iff : x < y ↔ ∃ p ∈ exactly? x, ∃ q ∈ exactly? y, p < q := by
  have hlt : x < y ↔ x.toModel.unpack.compare y.toModel.unpack = some .lt := by
    change (decide (_ = true)) = true ↔ _
    rw [decide_eq_true_iff]
    exact beq_iff_eq
  rw [hlt, compare_eq_some_iff]
  simp only [compare_lt_iff_lt]

/-- Numbers are equal exactly if they share their exact value. -/
theorem beq_iff : x == y ↔ ∃ p ∈ exactly? x, p ∈ exactly? y := by
  have heq : x == y ↔ x.toModel.unpack.compare y.toModel.unpack = some .eq := by
    change (x.toModel.unpack.compare y.toModel.unpack == some .eq) = true ↔ _
    exact beq_iff_eq
  rw [heq, compare_eq_some_iff]
  simp only [compare_eq_iff_eq]
  simp

/-- Every number has an exact value but those that are none. -/
theorem exactly?_eq_none_iff : exactly? x = none ↔ x.isNaN = true := by
  unfold exactly? Float.isNaN Float.Model.isNaN
  rcases x.toModel.unpack with (_ | _) | _ | _ | ⟨_ | _, m, e, hm⟩ <;>
    simp [UnpackedFloat.isNaN]

end Narrative.Number
