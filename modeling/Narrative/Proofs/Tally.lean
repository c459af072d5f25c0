import Mathlib
import Narrative.Proofs.Shorthand

/-!
# Recipes as they are written in shorthand

A side of a shorthand is a row of summands with plus signs between them. A summand is a name with
white space around it, or white space alone, which counts for nothing. The two sides stand around a
single equals sign.

* **`Shorthand.side_iff`** — cutting a side at its plus signs and trimming the pieces finds the
  summands that are written there, and no others.
* **`Shorthand.tallies_of_side`** — the tally of a side has its names in the order in which they
  occur first, each with the number of its occurrences.
* **`RecipeDeclaration.parts_shorthand`** — which texts declare a recipe, and what they list.
-/

namespace Narrative

namespace Shorthand

open Text

variable {name : String} {listed : List Stack}
variable {piece side left right : List Char} {summand : Option String}
variable {summands needs yields : List (Option String)}

/-! ## How a shorthand is written -/

/-- What an item can be called in shorthand. -/
structure IsName (name : String) : Prop where
  nonempty : name.toList ≠ []
  trimmed : Trimmed name.toList
  no_plus : '+' ∉ name.toList
  no_equals : '=' ∉ name.toList

/-- How a summand is written: a name with white space around it, or white space alone. -/
inductive Summand : List Char → Option String → Prop
  | blank {gap : List Char} (hgap : ∀ c ∈ gap, isBlank c = true) : Summand gap none
  | name {before after : List Char} {name : String} (hbefore : ∀ c ∈ before, isBlank c = true)
      (hname : IsName name) (hafter : ∀ c ∈ after, isBlank c = true) :
      Summand (before ++ name.toList ++ after) (some name)

/-- How the summands of a side are written: in their order, with a plus sign between any two. -/
inductive Side : List Char → List (Option String) → Prop
  | one {piece : List Char} {summand : Option String} (hpiece : Summand piece summand) :
      Side piece [summand]
  | more {piece rest : List Char} {summand : Option String} {summands : List (Option String)}
      (hpiece : Summand piece summand) (hrest : Side rest summands) :
      Side (piece ++ '+' :: rest) (summand :: summands)

/-- The text has these summands to the left and to the right of an equals sign. -/
def Written (text : String) (needs yields : List (Option String)) : Prop :=
  ∃ left right, text.toList = left ++ '=' :: right ∧ Side left needs ∧ Side right yields

/-! ## Finding the summands -/

/-- What a piece between plus signs is taken for. -/
def summandOf (piece : List Char) : Option String :=
  if (trim piece).isEmpty then none else some (String.ofList (trim piece))

/-- The names of a side are its summands without the blank ones. -/
theorem names_eq (side : List Char) :
    names side = ((splitAt (· == '+') side).map summandOf).reduceOption := by
  rw [names]
  induction splitAt (· == '+') side with
  | nil => rfl
  | cons piece pieces ih =>
      rw [List.map_cons, List.map_cons, summandOf]
      cases hblank : (trim piece).isEmpty with
      | true => simpa [hblank] using ih
      | false => simpa [hblank] using ih

/-- A sign is not part of a gap. -/
theorem notMem_of_blank {gap : List Char} {sign : Char} (hsign : isBlank sign = false)
    (hgap : ∀ c ∈ gap, isBlank c = true) : sign ∉ gap := fun hmem =>
  absurd (hgap sign hmem) (by rw [hsign]; decide)

/-- A sign stands in what is put together only if it stands in one of the parts. -/
theorem notMem_around {before middle after : List Char} {sign : Char}
    (hsign : isBlank sign = false) (hbefore : ∀ c ∈ before, isBlank c = true)
    (hmiddle : sign ∉ middle) (hafter : ∀ c ∈ after, isBlank c = true) :
    sign ∉ before ++ middle ++ after := by
  rw [List.mem_append, List.mem_append]
  rintro ((hmem | hmem) | hmem)
  · exact notMem_of_blank hsign hbefore hmem
  · exact hmiddle hmem
  · exact notMem_of_blank hsign hafter hmem

theorem isBlank_plus : isBlank '+' = false := isBlank_of_printable (by decide)

theorem isBlank_equals : isBlank '=' = false := isBlank_of_printable (by decide)

/-- There are no signs in a summand. -/
theorem Summand.no_sign (h : Summand piece summand) : '+' ∉ piece ∧ '=' ∉ piece := by
  cases h with
  | blank hgap => exact ⟨notMem_of_blank isBlank_plus hgap, notMem_of_blank isBlank_equals hgap⟩
  | name hbefore hname hafter =>
      exact ⟨notMem_around isBlank_plus hbefore hname.no_plus hafter,
        notMem_around isBlank_equals hbefore hname.no_equals hafter⟩

/-- A summand is taken for what it is. -/
theorem Summand.eq_summandOf (h : Summand piece summand) : summand = summandOf piece := by
  cases h with
  | blank hgap =>
      have htrim : trim (piece ++ [] ++ []) = [] := trim_append hgap ⟨nofun, nofun⟩ nofun
      rw [List.append_nil, List.append_nil] at htrim
      rw [summandOf, htrim]
      rfl
  | name hbefore hname hafter =>
      rw [summandOf, trim_append hbefore hname.trimmed hafter, if_neg, String.ofList_toList]
      simpa using hname.nonempty

/-- A piece without signs is the summand that it is taken for. -/
theorem summand_summandOf (hplus : '+' ∉ piece) (hequals : '=' ∉ piece) :
    Summand piece (summandOf piece) := by
  obtain ⟨before, after, hbefore, hafter, hpiece⟩ := exists_trim piece
  rw [summandOf]
  split
  · rename_i hempty
    -- all of the piece is white space
    rw [List.isEmpty_iff.mp hempty, List.append_nil] at hpiece
    refine .blank fun c hc => ?_
    rw [hpiece] at hc
    rcases List.mem_append.mp hc with hc | hc
    · exact hbefore c hc
    · exact hafter c hc
  · rename_i hempty
    have hsub : ∀ c ∈ trim piece, c ∈ piece := fun c hc => by
      rw [hpiece]
      exact List.mem_append_left _ (List.mem_append_right _ hc)
    have hname : IsName (String.ofList (trim piece)) := by
      constructor <;> rw [String.toList_ofList]
      · simpa using hempty
      · exact trimmed_trim piece
      · exact fun hmem => hplus (hsub _ hmem)
      · exact fun hmem => hequals (hsub _ hmem)
    have hwritten := Summand.name hbefore hname hafter
    rwa [String.toList_ofList, ← hpiece] at hwritten

/-- What cutting at the plus signs finds is written there. -/
theorem side_of_splitAt (side : List Char) (h : '=' ∉ side) :
    Side side ((splitAt (· == '+') side).map summandOf) := by
  by_cases hplus : '+' ∈ side
  · obtain ⟨piece, rest, rfl, hpiece⟩ := List.eq_append_cons_of_mem hplus
    rw [List.mem_append, List.mem_cons, not_or, not_or] at h
    rw [splitAt_of_first hpiece]
    exact .more (summand_summandOf hpiece h.1) (side_of_splitAt rest h.2.2)
  · rw [splitAt_of_notMem hplus]
    exact .one (summand_summandOf hplus h)
termination_by side.length
decreasing_by
  subst_vars
  simp
  omega

/-- **Cutting a side at its plus signs and trimming the pieces finds its summands.** -/
theorem side_iff :
    Side side summands ↔ '=' ∉ side ∧ summands = (splitAt (· == '+') side).map summandOf := by
  constructor
  · intro h
    induction h with
    | one hpiece =>
        obtain ⟨hplus, hequals⟩ := hpiece.no_sign
        rw [splitAt_of_notMem hplus, hpiece.eq_summandOf]
        exact ⟨hequals, rfl⟩
    | more hpiece hrest ih =>
        -- the first piece ends at the first plus sign, since it has none itself
        obtain ⟨hplus, hequals⟩ := hpiece.no_sign
        obtain ⟨hnone, rfl⟩ := ih
        rw [splitAt_of_first hplus, hpiece.eq_summandOf]
        exact ⟨by simp [hequals, hnone], rfl⟩
  · rintro ⟨hequals, rfl⟩
    exact side_of_splitAt side hequals

/-- The names of a side are those of the summands that have one. -/
theorem names_of_side (h : Side side summands) : names side = summands.reduceOption := by
  rw [names_eq, (side_iff.mp h).2]

/-- Every summand that is not blank is a name. -/
theorem isName_of_mem (h : Side side summands) (hmem : some name ∈ summands) : IsName name := by
  have hsummand : ∀ {piece : List Char}, Summand piece (some name) → IsName name := by
    rintro piece ⟨⟩
    assumption
  induction h with
  | one hpiece =>
      obtain rfl := List.mem_singleton.mp hmem
      exact hsummand hpiece
  | more hpiece hrest ih =>
      rcases List.mem_cons.mp hmem with rfl | hmem
      · exact hsummand hpiece
      · exact ih hmem

/-! ## Counting -/

/-- The names stand in the order in which they occur first, each of them once. -/
structure FirstOccurrences (names items : List String) : Prop where
  mem_iff : ∀ name, name ∈ items ↔ name ∈ names
  increasing : items.Pairwise fun item other => names.idxOf item < names.idxOf other

/-- Counting one more name keeps the order of the first occurrences. -/
theorem firstOccurrences_countOne {names : List String} (name : String)
    (h : FirstOccurrences names (listed.map Stack.item)) :
    FirstOccurrences (names ++ [name]) ((countOne name listed).map Stack.item) := by
  obtain ⟨hmem, horder⟩ := h
  -- where a name occurred first, it still does
  have hkept : (listed.map Stack.item).Pairwise fun item other =>
      (names ++ [name]).idxOf item < (names ++ [name]).idxOf other := by
    refine horder.imp_of_mem fun hitem hother hlt => ?_
    rwa [List.idxOf_append_of_mem ((hmem _).mp hitem),
      List.idxOf_append_of_mem ((hmem _).mp hother)]
  rw [items_countOne, Inventory.items_addTo]
  split
  · rename_i hold
    refine ⟨fun other => ?_, hkept⟩
    rw [List.mem_append, List.mem_singleton, hmem]
    exact ⟨.inl, fun h => h.elim id fun heq => (hmem other).mp (heq ▸ hold)⟩
  · rename_i hnew
    refine ⟨fun other => ?_, List.pairwise_append.mpr ⟨hkept, List.pairwise_singleton .., ?_⟩⟩
    · rw [List.mem_append, List.mem_append, hmem]
    · -- the new name occurs behind all that were there before
      intro item hitem other hother
      obtain rfl := List.mem_singleton.mp hother
      have hfront : item ∈ names := (hmem item).mp hitem
      have hnot : other ∉ names := fun hin => hnew ((hmem other).mpr hin)
      rw [List.idxOf_append_of_mem hfront, List.idxOf_append_of_notMem hnot]
      have hlt : names.idxOf item < names.length := List.idxOf_lt_length_of_mem hfront
      omega

/-- A tally has the names of its side in the order of their first occurrences. -/
theorem firstOccurrences_tally (side : List Char) :
    FirstOccurrences (names side) ((tally side).map Stack.item) := by
  rw [tally]
  induction names side using List.reverseRecOn with
  | nil => exact ⟨fun _ => Iff.rfl, .nil⟩
  | append_singleton names name ih =>
      rw [List.foldl_append]
      exact firstOccurrences_countOne name ih

/-- A stack is in the tally if its item stands on the side as often as its amount says. -/
theorem mem_tally_iff (hroom : ∀ name, (names side).count name < UInt32.size)
    (stack : Stack) :
    stack ∈ tally side ↔
      stack.item ∈ names side ∧
        stack.amount.toNat = (names side).count stack.item := by
  have hamount : ∀ other ∈ tally side,
      other.amount.toNat = (names side).count other.item := fun other hother => by
    rw [← listedOf_tally (hroom other.item), listedOf_of_mem (nodup_tally side) hother]
  have hnames := (firstOccurrences_tally side).mem_iff
  constructor
  · exact fun hstack => ⟨(hnames _).mp (List.mem_map_of_mem hstack), hamount stack hstack⟩
  · rintro ⟨hitem, hcount⟩
    obtain ⟨other, hother, heq⟩ := List.mem_map.mp ((hnames _).mpr hitem)
    -- a stack is determined by its item and its amount, and the item has one stack
    have hsame : other.amount.toNat = stack.amount.toNat := by
      rw [hamount other hother, heq, hcount]
    obtain ⟨item, amount⟩ := stack
    obtain ⟨otherItem, otherAmount⟩ := other
    obtain rfl : otherItem = item := heq
    obtain rfl : otherAmount = amount := UInt32.toNat_inj.mp hsame
    exact hother

/-- The amounts of a tally add up to the number of its names. -/
theorem sum_amounts_tally (hroom : ∀ name, (names side).count name < UInt32.size) :
    ((tally side).map fun stack => stack.amount.toNat).sum = (names side).length := by
  have hamount : ∀ stack ∈ tally side, stack.amount.toNat = (names side).count stack.item :=
    fun stack hstack => ((mem_tally_iff hroom stack).mp hstack).2
  -- the names of the tally are those of the side without repetitions
  have hnames : ((tally side).map Stack.item).Perm (names side).dedup :=
    (List.perm_ext_iff_of_nodup (nodup_tally side) (List.nodup_dedup _)).mpr fun name => by
      rw [(firstOccurrences_tally side).mem_iff, List.mem_dedup]
  calc ((tally side).map fun stack => stack.amount.toNat).sum
      = ((tally side).map fun stack => (names side).count stack.item).sum :=
        congrArg List.sum (List.map_congr_left hamount)
    _ = (((tally side).map Stack.item).map fun name => (names side).count name).sum := by
        rw [List.map_map]
        rfl
    _ = ((names side).dedup.map fun name => (names side).count name).sum :=
        (hnames.map _).sum_eq
    _ = (names side).length := List.sum_map_count_dedup_eq_length _

/-- What can be written in shorthand: some of each of several items. -/
structure Spellable (listed : List Stack) : Prop where
  distinct : (listed.map Stack.item).Nodup
  isName : ∀ stack ∈ listed, IsName stack.item
  positive : ∀ stack ∈ listed, 1 ≤ stack.amount.toNat

/-- What a list of stacks says about the names that it counts. -/
structure Tallies (names : List String) (listed : List Stack) : Prop extends Spellable listed where
  order : FirstOccurrences names (listed.map Stack.item)
  amount : ∀ stack ∈ listed, stack.amount.toNat = names.count stack.item
  total : (listed.map fun stack => stack.amount.toNat).sum = names.length

/-- No name stands in a row of summands more often than can be counted. -/
def Countable (summands : List (Option String)) : Prop :=
  ∀ name, summands.reduceOption.count name < UInt32.size

/-- **A tally has each name once, with the number of its occurrences.** -/
theorem tallies_of_side (h : Side side summands) (hroom : Countable summands) :
    Tallies summands.reduceOption (tally side) := by
  -- counts of the names on the side are counts of the names in its pieces
  rw [Countable, ← names_of_side h] at hroom
  rw [← names_of_side h]
  have hmem := fun stack hstack => (mem_tally_iff hroom stack).mp hstack
  have hspellable : Spellable (tally side) := by
    refine ⟨nodup_tally side, fun stack hstack => ?_, fun stack hstack => ?_⟩
    · have hname := (hmem stack hstack).1
      rw [names_of_side h, List.reduceOption_mem_iff] at hname
      exact isName_of_mem h hname
    · rw [(hmem stack hstack).2]
      exact List.count_pos_iff.mpr (hmem stack hstack).1
  exact ⟨hspellable, firstOccurrences_tally side, fun stack hstack => (hmem stack hstack).2,
    sum_amounts_tally hroom⟩

/-- Sides with the same summands in another order list the same stacks in another order. -/
theorem tally_perm {other : List Char}
    (hroom : ∀ name, (names side).count name < UInt32.size)
    (h : (names side).Perm (names other)) : (tally side).Perm (tally other) := by
  have hother : ∀ name, (names other).count name < UInt32.size := fun name => by
    rw [← h.count_eq]
    exact hroom name
  refine (List.perm_ext_iff_of_nodup (.of_map _ (nodup_tally side))
    (.of_map _ (nodup_tally other))).mpr fun stack => ?_
  rw [mem_tally_iff hroom, mem_tally_iff hother, h.mem_iff, h.count_eq]

/-! ## Writing a list of stacks -/

/-- Every name as often as its stack says. -/
def spelled (listed : List Stack) : List String :=
  listed.flatMap fun stack => List.replicate stack.amount.toNat stack.item

/-- An item that was not counted yet is counted behind the others. -/
theorem countOne_append_of_notMem (h : name ∉ listed.map Stack.item) (more : List Stack) :
    countOne name (listed ++ more) = listed ++ countOne name more := by
  induction listed with
  | nil => rfl
  | cons stack rest ih =>
      rw [List.map_cons, List.mem_cons, not_or] at h
      rw [List.cons_append, countOne, if_neg (Ne.symm h.1), ih h.2, List.cons_append]

/-- A name that is repeated is counted up to its amount. -/
theorem foldl_countOne_replicate (h : name ∉ listed.map Stack.item) (n : Nat) :
    (List.replicate (n + 1) name).foldl (fun counted name => countOne name counted) listed =
      listed ++ [⟨name, UInt32.ofNat (n + 1)⟩] := by
  induction n with
  | zero =>
      have hlast := countOne_append_of_notMem h []
      rw [List.append_nil] at hlast
      exact hlast
  | succ n ih =>
      rw [List.replicate_succ', List.foldl_append, ih, List.foldl_cons, List.foldl_nil,
        countOne_append_of_notMem h, countOne, if_pos rfl, UInt32.ofNat_add (n + 1) 1]
      rfl

/-- **Counting the names of a list of stacks gives the list.** -/
theorem foldl_countOne_spelled {front : List Stack}
    (hdistinct : ((front ++ listed).map Stack.item).Nodup)
    (hpositive : ∀ stack ∈ listed, 1 ≤ stack.amount.toNat) :
    (spelled listed).foldl (fun counted name => countOne name counted) front = front ++ listed := by
  induction listed generalizing front with
  | nil => exact (List.append_nil front).symm
  | cons stack rest ih =>
      obtain ⟨hstack, hrest⟩ := List.forall_mem_cons.mp hpositive
      -- the items are distinct, so this one comes behind those in front
      have hnew : stack.item ∉ front.map Stack.item := by
        rw [List.map_append, List.nodup_append] at hdistinct
        exact fun hmem => hdistinct.2.2 _ hmem _ List.mem_cons_self rfl
      obtain ⟨n, hn⟩ : ∃ n, stack.amount.toNat = n + 1 := ⟨_, (Nat.succ_pred_eq_of_pos hstack).symm⟩
      have hamount : UInt32.ofNat (n + 1) = stack.amount := by rw [← hn, UInt32.ofNat_toNat]
      rw [spelled, List.flatMap_cons, List.foldl_append, hn, foldl_countOne_replicate hnew, hamount,
        ← spelled, ih _ hrest, List.append_assoc]
      · rfl
      · rwa [List.append_assoc]

/-- Stacks that are spelled out are counted back together. -/
theorem tally_of_spelled (h : Spellable listed) (hnames : names side = spelled listed) :
    tally side = listed := by
  have hdistinct : (([] ++ listed).map Stack.item).Nodup := h.distinct
  rw [tally, hnames]
  exact foldl_countOne_spelled hdistinct h.positive

/-! ## The two sides of a text -/

variable {text : String}

/-- Where both sides are written there is one equals sign, and the other way round. -/
theorem exists_written_iff :
    (∃ needs yields, Written text needs yields) ↔ text.toList.count '=' = 1 := by
  constructor
  · rintro ⟨needs, yields, left, right, htext, hleft, hright⟩
    rw [htext, List.count_append, List.count_cons_self,
      List.count_eq_zero_of_not_mem (side_iff.mp hleft).1,
      List.count_eq_zero_of_not_mem (side_iff.mp hright).1]
  · intro hcount
    have hmem : '=' ∈ text.toList := List.count_pos_iff.mp (by omega)
    obtain ⟨left, right, htext, hleft⟩ := List.eq_append_cons_of_mem hmem
    rw [htext, List.count_append, List.count_cons_self,
      List.count_eq_zero_of_not_mem hleft] at hcount
    -- the one mark was spent on the cut
    have hright : '=' ∉ right := List.count_eq_zero.mp (by omega)
    exact ⟨_, _, left, right, htext, side_of_splitAt left hleft, side_of_splitAt right hright⟩

/-- A text that is cut into two sides has a single equals sign. -/
theorem exists_written_of_ok {parts : RecipeParts} (h : Shorthand.parts text = .ok parts) :
    ∃ needs yields, Written text needs yields := by
  have hlength := length_splitAt (· == '=') text.toList
  rw [exists_written_iff, List.count]
  unfold Shorthand.parts at h
  split at h
  · rename_i hpieces
    rw [hpieces] at hlength
    exact (Nat.succ.inj hlength).symm
  · nomatch h
  · nomatch h

/-- There is something in a tally if there is a name on its side. -/
theorem tally_eq_nil_iff : tally side = [] ↔ names side = [] := by
  have hnames := (firstOccurrences_tally side).mem_iff
  rw [← List.map_eq_nil_iff (f := Stack.item), List.eq_nil_iff_forall_not_mem,
    List.eq_nil_iff_forall_not_mem]
  exact forall_congr' fun name => not_congr (hnames name)

/-- **What is written on the two sides is what is listed**, if something is written on the right. -/
theorem parts_of_written (h : Written text needs yields) :
    ∃ left right, Side left needs ∧ Side right yields ∧
      Shorthand.parts text =
        if yields.reduceOption = [] then .error (.noResults text)
        else .ok ⟨tally left, tally right⟩ := by
  obtain ⟨left, right, htext, hleft, hright⟩ := h
  have hcut : splitAt (· == '=') text.toList = [left, right] := by
    rw [htext, splitAt_of_first (side_iff.mp hleft).1, splitAt_of_notMem (side_iff.mp hright).1]
  have hempty : (tally right).isEmpty = true ↔ yields.reduceOption = [] := by
    rw [List.isEmpty_iff, tally_eq_nil_iff, names_of_side hright]
  refine ⟨left, right, hleft, hright, ?_⟩
  rw [Shorthand.parts, hcut]
  exact if_congr hempty rfl rfl

/-- Some summand has a name exactly if there are names at all. -/
theorem exists_name_iff : (∃ name, some name ∈ yields) ↔ yields.reduceOption ≠ [] := by
  simp only [← List.reduceOption_mem_iff]
  exact ⟨fun ⟨name, hname⟩ => List.ne_nil_of_mem hname, List.exists_mem_of_ne_nil _⟩

variable {parts : RecipeParts}

/-- What is listed of a text are the tallies of its sides. -/
theorem sides_of_ok (h : Written text needs yields) (hparts : Shorthand.parts text = .ok parts) :
    yields.reduceOption ≠ [] ∧
      ∃ left right, Side left needs ∧ Side right yields ∧ parts = ⟨tally left, tally right⟩ := by
  obtain ⟨left, right, hleft, hright, heq⟩ := parts_of_written h
  rw [hparts] at heq
  split at heq
  · nomatch heq
  · rename_i hsome
    exact ⟨hsome, left, right, hleft, hright, Except.ok.inj heq⟩

/-- The parts of a shorthand tally its two sides. -/
theorem tallies_of_ok (h : Written text needs yields) (hparts : Shorthand.parts text = .ok parts)
    (hneeds : Countable needs) (hyields : Countable yields) :
    Tallies needs.reduceOption parts.ingredients ∧ Tallies yields.reduceOption parts.results := by
  obtain ⟨-, left, right, hleft, hright, rfl⟩ := sides_of_ok h hparts
  exact ⟨tallies_of_side hleft hneeds, tallies_of_side hright hyields⟩

/-- Summands in another order are listed in another order. -/
theorem parts_perm {other : String} {needs' yields' : List (Option String)}
    (h : Written text needs yields) (hother : Written other needs' yields')
    (hparts : Shorthand.parts text = .ok parts) (hneeds : Countable needs)
    (hyields : Countable yields) (hpermNeeds : needs.Perm needs')
    (hpermYields : yields.Perm yields') :
    ∃ parts', Shorthand.parts other = .ok parts' ∧
      parts.ingredients.Perm parts'.ingredients ∧ parts.results.Perm parts'.results := by
  obtain ⟨hsome, left, right, hleft, hright, rfl⟩ := sides_of_ok h hparts
  obtain ⟨left', right', hleft', hright', heq⟩ := parts_of_written hother
  -- the other side has the same summands, so it is not empty either
  have hsome' : yields'.reduceOption ≠ [] := fun hnone =>
    hsome (List.perm_nil.mp (hnone ▸ hpermYields.filterMap id))
  rw [if_neg hsome'] at heq
  refine ⟨_, heq, tally_perm ?_ ?_, tally_perm ?_ ?_⟩
  · rwa [names_of_side hleft]
  · rw [names_of_side hleft, names_of_side hleft']
    exact hpermNeeds.filterMap id
  · rwa [names_of_side hright]
  · rw [names_of_side hright, names_of_side hright']
    exact hpermYields.filterMap id

/-- Lists of different names with their amounts are read back as they are written. -/
theorem parts_of_spelled {ingredients results : List Stack} (h : Written text needs yields)
    (hingredients : Spellable ingredients) (hresults : Spellable results) (hsome : results ≠ [])
    (hneeds : needs.reduceOption = spelled ingredients)
    (hyields : yields.reduceOption = spelled results) :
    Shorthand.parts text = .ok ⟨ingredients, results⟩ := by
  obtain ⟨left, right, hleft, hright, heq⟩ := parts_of_written h
  have hingredients' : tally left = ingredients :=
    tally_of_spelled hingredients ((names_of_side hleft).trans hneeds)
  have hresults' : tally right = results :=
    tally_of_spelled hresults ((names_of_side hright).trans hyields)
  have hsome' : yields.reduceOption ≠ [] := by
    rwa [← names_of_side hright, Ne, ← tally_eq_nil_iff, hresults']
  rw [heq, if_neg hsome', hingredients', hresults']

end Shorthand

namespace RecipeDeclaration

open Shorthand

/-- **Which texts declare a recipe, and what they list.** A text has two sides exactly if it has a
single equals sign, and declares a recipe exactly if there is a name among the summands of the right
one. What is listed is then a tally of either side: its names are different names without signs or
white space at their ends, in the order in which they occur first, each with the number of its
occurrences, which add up to the number of summands that are not blank. A text with the same
summands in another order lists the same in another order, and lists of different names with their
amounts are read back however they are written. -/
theorem parts_shorthand (text : String) :
    ((∃ needs yields, Written text needs yields) ↔ text.toList.count '=' = 1) ∧
    ((∃ parts, (shorthand text).parts = .ok parts) ↔
      ∃ needs yields, Written text needs yields ∧ ∃ name, some name ∈ yields) ∧
    ∀ needs yields, Written text needs yields →
      (Shorthand.Countable needs → Shorthand.Countable yields →
        ∀ parts, (shorthand text).parts = .ok parts →
          Tallies needs.reduceOption parts.ingredients ∧
          Tallies yields.reduceOption parts.results ∧
          ∀ other needs' yields', Written other needs' yields' →
            needs.Perm needs' → yields.Perm yields' →
              ∃ parts', (shorthand other).parts = .ok parts' ∧
                parts.ingredients.Perm parts'.ingredients ∧
                parts.results.Perm parts'.results) ∧
      ∀ ingredients results, Spellable ingredients → Spellable results → results ≠ [] →
        needs.reduceOption = spelled ingredients → yields.reduceOption = spelled results →
          (shorthand text).parts = .ok ⟨ingredients, results⟩ := by
  refine ⟨exists_written_iff, ⟨fun ⟨parts, hparts⟩ => ?_, fun ⟨needs, yields, h, hname⟩ => ?_⟩,
    fun needs yields h => ⟨fun hneeds hyields parts hparts => ?_, ?_⟩⟩
  · obtain ⟨needs, yields, h⟩ := exists_written_of_ok hparts
    exact ⟨needs, yields, h, exists_name_iff.mpr (sides_of_ok h hparts).1⟩
  · -- the only error left is that of results without a name
    obtain ⟨left, right, -, -, heq⟩ := parts_of_written h
    rw [if_neg (exists_name_iff.mp hname)] at heq
    exact ⟨_, heq⟩
  · obtain ⟨hingredients, hresults⟩ := tallies_of_ok h hparts hneeds hyields
    exact ⟨hingredients, hresults, fun other needs' yields' hother =>
      parts_perm h hother hparts hneeds hyields⟩
  · exact fun ingredients results => parts_of_spelled h

/-- A stick and two stones make a sword, with any white space and in any order. -/
theorem parts_stick_and_stones :
    (shorthand " stick +stone + stone=  sword+ ").parts =
        .ok ⟨[⟨"stick", 1⟩, ⟨"stone", 2⟩], [⟨"sword", 1⟩]⟩ ∧
      Tallies ["stick", "stone", "stone"] [⟨"stick", 1⟩, ⟨"stone", 2⟩] ∧
      ∃ parts, (shorthand "stone + stick + stone = + sword").parts = .ok parts ∧
        [⟨"stick", 1⟩, ⟨"stone", 2⟩].Perm parts.ingredients := by
  have hleft : Side " stick +stone + stone".toList [some "stick", some "stone", some "stone"] :=
    side_iff.mpr (by decide +kernel)
  have hright : Side "  sword+ ".toList [some "sword", none] := side_iff.mpr (by decide +kernel)
  have hwritten : Written " stick +stone + stone=  sword+ " _ _ :=
    ⟨_, _, by decide +kernel, hleft, hright⟩
  -- the same summands in another order
  have hother : Written "stone + stick + stone = + sword"
      [some "stone", some "stick", some "stone"] [none, some "sword"] :=
    ⟨"stone + stick + stone ".toList, " + sword".toList, by decide +kernel,
      side_iff.mpr (by decide +kernel), side_iff.mpr (by decide +kernel)⟩
  have hneeds : Shorthand.Countable [some "stick", some "stone", some "stone"] := fun name =>
    Nat.lt_of_le_of_lt List.count_le_length (by decide)
  have hyields : Shorthand.Countable [some "sword", none] := fun name =>
    Nat.lt_of_le_of_lt List.count_le_length (by decide)
  have hingredients : Spellable [⟨"stick", 1⟩, ⟨"stone", 2⟩] :=
    ⟨by decide, List.forall_mem_cons.mpr ⟨isName_of_mem hleft (by decide),
      List.forall_mem_singleton.mpr (isName_of_mem hleft (by decide))⟩, by decide⟩
  have hresults : Spellable [⟨"sword", 1⟩] :=
    ⟨by decide, List.forall_mem_singleton.mpr (isName_of_mem hright (by decide)), by decide⟩
  obtain ⟨-, -, hall⟩ := parts_shorthand " stick +stone + stone=  sword+ "
  obtain ⟨htallied, hspelled⟩ := hall _ _ hwritten
  have hparts := hspelled _ _ hingredients hresults (by decide) rfl rfl
  obtain ⟨htallies, -, hperm⟩ := htallied hneeds hyields _ hparts
  obtain ⟨parts, hok, hlisted, -⟩ := hperm _ _ _ hother (by decide) (by decide)
  exact ⟨hparts, htallies, parts, hok, hlisted⟩

end RecipeDeclaration

end Narrative
