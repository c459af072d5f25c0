/-!
# Registry — named entries in name order

A `Registry α` holds at most one entry per name and keeps its names strictly increasing by
code point, so every listing has one order that does not depend on the history of insertions.

The view of a registry is the partial function `get?`; `get?_insert` says what an insertion
does to it, and `names_sorted` what the order is.
-/

namespace Narrative

/-- Puts an entry at its place in a list in name order; an entry of the same name gives way. -/
def insertByName {α : Type} (name : String) (value : α) : List (String × α) → List (String × α)
  | [] => [(name, value)]
  | (other, kept) :: rest =>
    if name < other then (name, value) :: (other, kept) :: rest
    else if name = other then (name, value) :: rest
    else (other, kept) :: insertByName name value rest

/-- The names after an insertion are the new one and those that were there. -/
theorem mem_insertByName {α : Type} {name : String} {value : α} {entries : List (String × α)}
    {entry : String × α} (h : entry ∈ insertByName name value entries) :
    entry = (name, value) ∨ entry ∈ entries := by
  induction entries with
  | nil => simpa [insertByName] using h
  | cons head rest ih =>
    obtain ⟨other, kept⟩ := head
    simp only [insertByName] at h
    -- in front of the head, in its place, or behind it
    split at h
    · simpa using h
    · split at h
      · rcases List.mem_cons.mp h with h | h
        · exact .inl h
        · exact .inr (List.mem_cons_of_mem _ h)
      · rcases List.mem_cons.mp h with h | h
        · exact .inr (h ▸ List.mem_cons_self)
        · rcases ih h with h | h
          · exact .inl h
          · exact .inr (List.mem_cons_of_mem _ h)

/-- Insertion keeps the names strictly increasing. Induction on the list. -/
theorem insertByName_sorted {α : Type} (name : String) (value : α) {entries : List (String × α)}
    (h : entries.Pairwise (·.1 < ·.1)) :
    (insertByName name value entries).Pairwise (·.1 < ·.1) := by
  induction entries with
  | nil => simp [insertByName]
  | cons head rest ih =>
    obtain ⟨other, kept⟩ := head
    have ⟨hhead, hrest⟩ := List.pairwise_cons.mp h
    simp only [insertByName]
    split
    · -- what is above the head is above the new entry too
      rename_i hlt
      refine List.pairwise_cons.mpr ⟨fun entry hentry => ?_, h⟩
      rcases List.mem_cons.mp hentry with rfl | hentry
      · exact hlt
      · exact String.lt_trans hlt (hhead entry hentry)
    · rename_i hnlt
      split
      · rename_i heq
        subst heq
        exact List.pairwise_cons.mpr ⟨hhead, hrest⟩
      · rename_i hne
        refine List.pairwise_cons.mpr ⟨fun entry hentry => ?_, ih hrest⟩
        rcases mem_insertByName hentry with rfl | hentry
        · -- `name` is neither below nor equal to `other`, so it is above
          rcases String.le_total name other with hle | hle
          · exact absurd (String.le_antisymm hle (String.not_lt.mp hnlt)) hne
          · exact String.not_le.mp fun hge => hne (String.le_antisymm hge hle)
        · exact hhead entry hentry

/-- At most one entry per name, in increasing order of the names. -/
structure Registry (α : Type) where
  entries : List (String × α)
  sorted : entries.Pairwise (·.1 < ·.1)

namespace Registry

variable {α : Type}

def empty : Registry α := ⟨[], .nil⟩

instance : Inhabited (Registry α) := ⟨empty⟩

instance : EmptyCollection (Registry α) := ⟨empty⟩

def get? (r : Registry α) (name : String) : Option α := r.entries.lookup name

/-- Whether there is an entry under the name. -/
def contains (r : Registry α) (name : String) : Bool := (r.get? name).isSome

/-- Registers an entry; one of the same name gives way to it. -/
def insert (r : Registry α) (name : String) (value : α) : Registry α :=
  ⟨insertByName name value r.entries, insertByName_sorted name value r.sorted⟩

/-- Registers the entries in order, so the last one under a name stays. -/
def ofList (entries : List (String × α)) : Registry α :=
  entries.foldl (fun r entry => r.insert entry.1 entry.2) empty

/-- Other values under the same names. -/
def map {β : Type} (f : α → β) (r : Registry α) : Registry β :=
  ⟨r.entries.map fun entry => (entry.1, f entry.2), List.pairwise_map.mpr r.sorted⟩

def names (r : Registry α) : List String := r.entries.map (·.1)

def size (r : Registry α) : Nat := r.entries.length

def isEmpty (r : Registry α) : Bool := r.entries.isEmpty

/-! ## What the operations do to the view -/

@[simp] theorem get?_empty (name : String) : (empty : Registry α).get? name = none := rfl

/-- A look-up in a list asks its head first. -/
theorem lookup_cons_ite (name key : String) (value : α) (rest : List (String × α)) :
    ((key, value) :: rest).lookup name = if name = key then some value else rest.lookup name := by
  by_cases h : name = key
  · simp [h]
  · rw [List.lookup_cons, beq_false_of_ne h, if_neg h]

/-- Insertion into a list changes the look-up of the inserted name only. Induction on the list. -/
theorem lookup_insertByName (name other : String) (value : α) (entries : List (String × α)) :
    (insertByName name value entries).lookup other =
      if other = name then some value else entries.lookup other := by
  induction entries with
  | nil => simp [insertByName, lookup_cons_ite]
  | cons head rest ih =>
    obtain ⟨key, kept⟩ := head
    simp only [insertByName]
    split
    · simp only [lookup_cons_ite]
    · split
      · rename_i heq
        subst heq
        simp only [lookup_cons_ite]
        split <;> rfl
      · rename_i hne
        simp only [lookup_cons_ite, ih]
        by_cases hk : other = key
        · subst hk
          simp [Ne.symm hne]
        · simp [hk]

/-- A new entry is found under its name, and the others under theirs. -/
@[simp] theorem get?_insert (r : Registry α) (name other : String) (value : α) :
    (r.insert name value).get? other = if other = name then some value else r.get? other :=
  lookup_insertByName name other value r.entries

/-- A mapped registry has the images of the entries. -/
@[simp] theorem get?_map {β : Type} (f : α → β) (r : Registry α) (name : String) :
    (r.map f).get? name = (r.get? name).map f := by
  show (r.entries.map fun entry => (entry.1, f entry.2)).lookup name =
    (r.entries.lookup name).map f
  induction r.entries with
  | nil => rfl
  | cons entry rest ih =>
    rw [List.map_cons, lookup_cons_ite, lookup_cons_ite, ih]
    split <;> rfl

@[simp] theorem contains_map {β : Type} (f : α → β) (r : Registry α) (name : String) :
    (r.map f).contains name = r.contains name := by
  rw [contains, contains, get?_map, Option.isSome_map]

theorem names_sorted (r : Registry α) : r.names.Pairwise (· < ·) :=
  List.pairwise_map.mpr r.sorted

/-- The number of names is the number of entries. -/
@[simp] theorem length_names (r : Registry α) : r.names.length = r.size := by
  simp [names, size]

end Registry

end Narrative
