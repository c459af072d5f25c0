import Narrative.Proofs.Build
import Narrative.Proofs.Holding
import Narrative.Proofs.Text

/-!
# What a declaration of a recipe lists

A declaration needs and yields certain amounts of each item. In shorthand these are the numbers of
times that a name stands to the left and to the right of the equals sign; the stacks that are made
of it have exactly these amounts, as long as the amounts can be counted.

* **`Shorthand.listedOf_tally`** — a tally has each name as often as it stands there.
* **`RecipeDeclaration.listedOf_parts`** — the stacks of a recipe have the declared amounts.
-/

namespace Narrative

namespace Shorthand

variable {name item : String} {listed : List Stack}

/-! ## Counting -/

/-- Counting a name finds a place for it as adding one of an item does. -/
theorem items_countOne (name : String) (listed : List Stack) :
    (countOne name listed).map Stack.item = (Inventory.addTo name 1 listed).map Stack.item := by
  induction listed with
  | nil => rfl
  | cons stack rest ih =>
      rw [countOne, Inventory.addTo]
      split
      · rfl
      · rw [List.map_cons, List.map_cons, ih]

/-- Counting one item leaves the amounts of the others alone. -/
theorem listedOf_countOne_of_ne (h : name ≠ item) :
    listedOf (countOne name listed) item = listedOf listed item := by
  induction listed with
  | nil => simp [countOne, h]
  | cons stack rest ih =>
      rw [countOne]
      split
      · rename_i heq
        simp [heq, h]
      · simp [ih]

/-- Counting an item once more adds one to its amount, as long as that fits. -/
theorem listedOf_countOne_self (h : listedOf listed name + 1 < UInt32.size) :
    listedOf (countOne name listed) name = listedOf listed name + 1 := by
  induction listed with
  | nil => simp [countOne]
  | cons stack rest ih =>
      rw [listedOf_cons] at h
      rw [countOne]
      split
      · rename_i heq
        rw [if_pos heq] at h
        have hsize : UInt32.size = 2 ^ 32 := rfl
        -- the amount of this stack is at most the whole amount, so adding one does not wrap
        have hroom : (stack.amount + 1).toNat = stack.amount.toNat + 1 := by
          rw [UInt32.toNat_add]
          show (stack.amount.toNat + 1) % 2 ^ 32 = _
          omega
        rw [listedOf_cons, listedOf_cons, if_pos rfl, if_pos heq, hroom]
        omega
      · rename_i hne
        rw [if_neg hne] at h
        rw [listedOf_cons, listedOf_cons, if_neg hne, ih (by omega)]
        omega

/-- **A tally has each name as often as it stands there.** -/
theorem listedOf_tally {side : List Char} (h : (names side).count item < UInt32.size) :
    listedOf (tally side) item = (names side).count item := by
  have hfold : ∀ (counted : List Stack),
      listedOf counted item + (names side).count item < UInt32.size →
      listedOf ((names side).foldl (fun counted name => countOne name counted) counted) item =
        listedOf counted item + (names side).count item := by
    induction names side with
    | nil => exact fun _ _ => rfl
    | cons name rest ih =>
        -- the room for all names is room for this one and then for the rest
        intro counted hroom
        rw [List.foldl_cons]
        by_cases hname : name = item
        · subst hname
          rw [List.count_cons_self] at hroom ⊢
          have hone : listedOf (countOne name counted) name = listedOf counted name + 1 :=
            listedOf_countOne_self (by omega)
          rw [ih _ (by omega), hone]
          omega
        · rw [List.count_cons_of_ne hname] at hroom ⊢
          have hsame : listedOf (countOne name counted) item = listedOf counted item :=
            listedOf_countOne_of_ne hname
          rw [ih _ (by omega), hsame]
  have hall := hfold [] (by simpa using h)
  simpa [tally] using hall

/-- Counting keeps a single stack for each item. -/
theorem nodup_countOne (name : String) (h : (listed.map Stack.item).Nodup) :
    ((countOne name listed).map Stack.item).Nodup := by
  rw [items_countOne]
  exact Inventory.nodup_addTo name 1 h

/-- A tally has every name once. -/
theorem nodup_tally (side : List Char) : ((tally side).map Stack.item).Nodup :=
  List.foldlRecOn (motive := fun counted : List Stack => (counted.map Stack.item).Nodup)
    (names side) _ .nil fun _ h name _ => nodup_countOne name h

/-! ## The two sides -/

/-- What stands to the left of the first equals sign. -/
def left (text : String) : List Char := text.toList.takeWhile (!· == '=')

/-- What stands to the right of the first equals sign. -/
def right (text : String) : List Char := (text.toList.dropWhile (!· == '=')).tail

/-- A shorthand that is read has the tallies of its two sides. -/
theorem parts_of_ok {text : String} {parts : RecipeParts} (h : Shorthand.parts text = .ok parts) :
    parts = ⟨tally (left text), tally (right text)⟩ := by
  unfold Shorthand.parts at h
  split at h
  · rename_i lhs rhs hpieces
    obtain ⟨rfl, rfl⟩ := Text.splitAt_eq_pair hpieces
    split at h
    · nomatch h
    · exact (Except.ok.inj h).symm
  · nomatch h
  · nomatch h

end Shorthand

/-! ## Listed amounts -/

/-- The entries of a registry have every name once. -/
theorem nodup_stacksOf (amounts : Registry Amount) :
    ((stacksOf amounts).map Stack.item).Nodup := by
  have hnames : (stacksOf amounts).map Stack.item = amounts.names := by
    rw [stacksOf, List.map_map]
    rfl
  rw [hnames]
  refine List.Pairwise.imp (fun {name other} hlt heq => ?_) amounts.names_sorted
  exact String.lt_irrefl other (heq ▸ hlt)

/-- The stacks of a map have the amounts of the map. -/
theorem listedOf_stacksOf (amounts : Registry Amount) (item : String) :
    listedOf (stacksOf amounts) item = ((amounts.get? item).getD 0).toNat := by
  cases hfound : amounts.get? item with
  | none =>
      refine listedOf_of_not_mem fun hmem => ?_
      obtain ⟨stack, hstack, rfl⟩ := List.mem_map.mp hmem
      obtain ⟨entry, hentry, rfl⟩ := List.mem_map.mp hstack
      have hother := List.lookup_eq_none_iff.mp hfound entry hentry
      simp at hother
  | some amount =>
      have hmem : (⟨item, amount⟩ : Stack) ∈ stacksOf amounts :=
        List.mem_map.mpr ⟨(item, amount), Registry.mem_entries_of_get? hfound, rfl⟩
      exact listedOf_of_mem (nodup_stacksOf amounts) hmem

namespace RecipeDeclaration

/-- How much of an item a craft needs, as it is declared. -/
def need : RecipeDeclaration → String → Nat
  | .shorthand text, item => (Shorthand.names (Shorthand.left text)).count item
  | .amounts ingredients _, item => ((ingredients.get? item).getD 0).toNat

/-- How much of an item a craft yields, as it is declared. -/
def yield : RecipeDeclaration → String → Nat
  | .shorthand text, item => (Shorthand.names (Shorthand.right text)).count item
  | .amounts _ results, item => ((results.get? item).getD 0).toNat

/-- Whether the declared amounts are amounts: in shorthand no name stands on one side too often. -/
def Countable (declaration : RecipeDeclaration) : Prop :=
  ∀ item, declaration.need item < UInt32.size ∧ declaration.yield item < UInt32.size

variable {declaration : RecipeDeclaration} {parts : RecipeParts}

theorem countable_amounts (ingredients results : Registry Amount) :
    (amounts ingredients results).Countable :=
  fun _ => ⟨UInt32.toNat_lt _, UInt32.toNat_lt _⟩

/-- No ingredient is listed twice. -/
theorem nodup_ingredients (h : declaration.parts = .ok parts) :
    (parts.ingredients.map Stack.item).Nodup := by
  cases declaration with
  | shorthand text =>
      obtain rfl := Shorthand.parts_of_ok h
      exact Shorthand.nodup_tally _
  | amounts ingredients results =>
      cases h
      exact nodup_stacksOf ingredients

/-- **The stacks of a recipe have the declared amounts.** -/
theorem listedOf_parts (h : declaration.parts = .ok parts) (hcount : declaration.Countable)
    (item : String) :
    listedOf parts.ingredients item = declaration.need item ∧
      listedOf parts.results item = declaration.yield item := by
  obtain ⟨hneed, hyield⟩ := hcount item
  cases declaration with
  | shorthand text =>
      obtain rfl := Shorthand.parts_of_ok h
      exact ⟨Shorthand.listedOf_tally hneed, Shorthand.listedOf_tally hyield⟩
  | amounts ingredients results =>
      cases h
      exact ⟨listedOf_stacksOf ingredients item, listedOf_stacksOf results item⟩

end RecipeDeclaration

end Narrative
