/-!
# Text.Ranges — sets of characters as ranges of code points

A property of characters is written down as the ranges of code points that have it, both ends
included, in increasing order. `inRanges` stops at the first range that lies above its code point;
`inRanges_iff` says that it overlooks none because of that, and `inRanges_eq_false_of_apart` that
tables without a common range have no code point in common, so that it does not matter which of them
is asked first.
-/

namespace Narrative.Text

/-- Whether each range lies above those in front of it, starting at a code point. -/
def increasingFrom (least : Nat) : List (Nat × Nat) → Bool
  | [] => true
  | (first, last) :: rest => least ≤ first && first ≤ last && increasingFrom (last + 1) rest

/-- Whether a code point lies in one of some increasing ranges. -/
def inRanges (ranges : List (Nat × Nat)) (code : Nat) : Bool :=
  match ranges with
  | [] => false
  | (first, last) :: rest => first ≤ code && (code ≤ last || inRanges rest code)

/-- The ranges of an increasing list start at its least code point or above. Induction on it. -/
theorem le_of_increasingFrom {ranges : List (Nat × Nat)} :
    ∀ {least}, increasingFrom least ranges → ∀ range ∈ ranges, least ≤ range.1 := by
  induction ranges with
  | nil => simp
  | cons range rest ih =>
    intro least h other hother
    simp only [increasingFrom, Bool.and_eq_true, decide_eq_true_eq] at h
    rcases List.mem_cons.mp hother with rfl | hother
    · exact h.1.1
    · have := ih h.2 other hother
      omega

/-- A code point is found exactly if it lies in one of the ranges. Induction on them. -/
theorem inRanges_iff {ranges : List (Nat × Nat)} {code : Nat} :
    ∀ {least}, increasingFrom least ranges →
      (inRanges ranges code ↔ ∃ range ∈ ranges, range.1 ≤ code ∧ code ≤ range.2) := by
  induction ranges with
  | nil => simp [inRanges]
  | cons range rest ih =>
    intro least h
    simp only [increasingFrom, Bool.and_eq_true, decide_eq_true_eq] at h
    -- stopping at the first range that lies above is right, since the later ones lie above it
    have hrest : ∀ other ∈ rest, other.1 ≤ code → range.1 ≤ code := fun other hother hle => by
      have := le_of_increasingFrom h.2 other hother
      omega
    simp only [inRanges, Bool.and_eq_true, Bool.or_eq_true, decide_eq_true_eq, ih h.2,
      List.mem_cons, exists_eq_or_imp]
    constructor
    · rintro ⟨hfirst, hlast | ⟨other, hother, hle⟩⟩
      · exact .inl ⟨hfirst, hlast⟩
      · exact .inr ⟨other, hother, hle⟩
    · rintro (⟨hfirst, hlast⟩ | ⟨other, hother, hle⟩)
      · exact ⟨hfirst, .inl hlast⟩
      · exact ⟨hrest other hother hle.1, .inr ⟨other, hother, hle⟩⟩

/-- Whether no range of one increasing list meets a range of the other. What lies below a range of
the first list is passed over for good, and then the next one of the second list has to lie above
it. -/
def apart : List (Nat × Nat) → List (Nat × Nat) → Bool
  | [], _ => true
  | range :: rest, others =>
    let behind := others.dropWhile (·.2 < range.1)
    behind.head?.all (range.2 < ·.1) && apart rest behind

/-- Ranges that lie below a code point may be passed over in looking for it. Induction on them. -/
theorem inRanges_dropWhile {first code : Nat} (hcode : first ≤ code) {others : List (Nat × Nat)} :
    ∀ {least}, increasingFrom least others →
      inRanges (others.dropWhile (·.2 < first)) code = inRanges others code := by
  induction others with
  | nil => simp
  | cons other rest ih =>
    intro least h
    simp only [increasingFrom, Bool.and_eq_true, decide_eq_true_eq] at h
    by_cases hbelow : other.2 < first
    · have hpast : ¬ code ≤ other.2 := by omega
      have hreached : other.1 ≤ code := by omega
      rw [List.dropWhile_cons_of_pos (by simpa using hbelow), ih h.2]
      simp [inRanges, hpast, hreached]
    · rw [List.dropWhile_cons_of_neg (by simpa using hbelow)]

/-- What is left of increasing ranges is increasing, though from a later code point on. -/
theorem exists_increasing_dropWhile (p : Nat × Nat → Bool) {others : List (Nat × Nat)} :
    ∀ {least}, increasingFrom least others →
      ∃ later, increasingFrom later (others.dropWhile p) := by
  induction others with
  | nil => exact fun {least} h => ⟨least, h⟩
  | cons other rest ih =>
    intro least h
    rw [List.dropWhile_cons]
    split
    · simp only [increasingFrom, Bool.and_eq_true] at h
      exact ih h.2
    · exact ⟨least, h⟩

/-- What lies in one of two lists that are apart does not lie in the other. Induction on the first
list, while the second one loses what was passed over. -/
theorem inRanges_eq_false_of_apart {ranges : List (Nat × Nat)} {code : Nat} :
    ∀ {others least}, increasingFrom least others → apart ranges others → inRanges ranges code →
      inRanges others code = false := by
  induction ranges with
  | nil => exact fun _ _ h => nomatch h
  | cons range rest ih =>
    intro others least hothers hapart hcode
    simp only [apart, Bool.and_eq_true] at hapart
    simp only [inRanges, Bool.and_eq_true, Bool.or_eq_true, decide_eq_true_eq] at hcode
    obtain ⟨later, hlater⟩ := exists_increasing_dropWhile (·.2 < range.1) hothers
    rw [← inRanges_dropWhile hcode.1 hothers]
    rcases hcode.2 with hlast | hrest
    · -- the next range of the other list lies above the code point, and the later ones do too
      cases hbehind : others.dropWhile (·.2 < range.1) with
      | nil => rfl
      | cons other behind =>
        rw [hbehind] at hapart
        have habove : range.2 < other.1 := by simpa using hapart.1
        have hnot : ¬ other.1 ≤ code := by omega
        simp [inRanges, hnot]
    · exact ih hlater hapart.2 hrest

end Narrative.Text
