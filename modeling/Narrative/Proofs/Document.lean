import Mathlib
import Narrative.Document.Quest

/-!
# What a document says

Which data are a document, and which one. For every kind of record there is a relation between the
data that it may be written as and the declaration that they make: the fields by their names, what
stands for a field that is left out, and the forms that a place allows. Reading data finds the
declaration that they make, and finds nothing where they make none.

* **`Decode.fields_iff`** — a record is read field by field, wherever its fields stand.
* **`Decode.lines_reads`**, **`Decode.item_reads`**, **`Decode.recipe_reads`** and
  **`Decode.variableValue_reads`** — the places with several forms.
* **`Decode.document_reads`** — a document is read as what it says, and as nothing else.
-/

namespace Narrative

variable {α β : Type}

/-! ## What data say -/

namespace Datum

/-- What entries give for a field: the datum that stands under it once, or nothing if it does not
stand there. A field that stands there twice gives neither. -/
inductive Gives (entries : List (String × Datum)) (field : String) : Option Datum → Prop
  | once {front rest : List (String × Datum)} {datum : Datum}
      (h : entries = front ++ (field, datum) :: rest)
      (hfront : ∀ entry ∈ front, entry.1 ≠ field) (hrest : ∀ entry ∈ rest, entry.1 ≠ field) :
      Gives entries field (some datum)
  | absent (h : ∀ entry ∈ entries, entry.1 ≠ field) : Gives entries field none

/-- The names that a record of a type may stand behind. -/
inductive OfType (conv : Conventions) (type : String) : Option String → Prop
  | named : OfType conv type (some type)
  | bare (h : conv.namedRecords = false) : OfType conv type none

/-- What a record of a type gives for its fields. The entries may have any order, and others may
stand among them; a list gives its items for the fields in their order. -/
inductive Fields (conv : Conventions) (type : String) (names : List String) :
    Datum → List (Option Datum) → Prop
  | object {entries : List (String × Datum)} {given : List (Option Datum)}
      (h : List.Forall₂ (Gives entries) names given) :
      Fields conv type names (.object entries) given
  | record {name? : Option String} {entries : List (String × Datum)}
      {given : List (Option Datum)} (hname : OfType conv type name?)
      (h : List.Forall₂ (Gives entries) names given) :
      Fields conv type names (.record name? entries) given
  | tuple {name? : Option String} {given : List (Option Datum)} (hname : OfType conv type name?)
      (h : List.Forall₂ (Gives []) names given) : Fields conv type names (.tuple name? []) given
  | unit {given : List (Option Datum)} (hname : OfType conv type none)
      (h : List.Forall₂ (Gives []) names given) : Fields conv type names .unit given
  | list {items : List Datum} (hlists : conv.listsAsRecords = true)
      (hlength : conv.spareItems = true ∨ items.length ≤ names.length) :
      Fields conv type names (.list items) (names.mapIdx fun index _ => items[index]?)

/-- What a field says that has to be there. -/
inductive Required (means : Datum → α → Prop) : Option Datum → α → Prop
  | given {datum : Datum} {value : α} (h : means datum value) : Required means (some datum) value

/-- What a field says that may be left out. -/
inductive OrDefault (default : α) (means : Datum → α → Prop) : Option Datum → α → Prop
  | given {datum : Datum} {value : α} (h : means datum value) :
      OrDefault default means (some datum) value
  | absent : OrDefault default means none default

inductive SaysText : Datum → String → Prop
  | text (s : String) : SaysText (.text s) s

inductive SaysOptionalText (conv : Conventions) : Datum → Option String → Prop
  | null : SaysOptionalText conv .null none
  | absent : SaysOptionalText conv (.optional none) none
  | marked (s : String) : SaysOptionalText conv (.optional (some (.text s))) (some s)
  | bare (h : conv.markedOptions = false) (s : String) : SaysOptionalText conv (.text s) (some s)

/-- What a list says, item by item. -/
inductive SaysList (means : Datum → α → Prop) : Datum → List α → Prop
  | list {items : List Datum} {values : List α} (h : List.Forall₂ means items values) :
      SaysList means (.list items) values

/-- What entries say, one by one. Of a repeated name the last entry counts. -/
inductive SaysEntries (means : Datum → α → Prop) (entries : List (String × Datum)) :
    Registry α → Prop
  | each {values : List (String × α)}
      (h : List.Forall₂ (fun entry value => entry.1 = value.1 ∧ means entry.2 value.2)
        entries values) : SaysEntries means entries (.ofList values)

/-- Pairs as entries, their keys being read as names. -/
def Keyed (key : Datum → String → Prop) (pairs : List (Datum × Datum))
    (entries : List (String × Datum)) : Prop :=
  List.Forall₂ (fun pair entry => key pair.1 entry.1 ∧ pair.2 = entry.2) pairs entries

inductive SaysMap (means : Datum → α → Prop) : Datum → Registry α → Prop
  | object {entries : List (String × Datum)} {r : Registry α} (h : SaysEntries means entries r) :
      SaysMap means (.object entries) r
  | map {pairs : List (Datum × Datum)} {entries : List (String × Datum)} {r : Registry α}
      (hkeys : Keyed SaysText pairs entries) (h : SaysEntries means entries r) :
      SaysMap means (.map pairs) r

/-! ### Places with several forms -/

inductive SaysLooseText : Datum → String → Prop
  | text (s : String) : SaysLooseText (.text s) s
  | bytes {content : List UInt8} {s : String}
      (h : String.fromUTF8? ⟨content.toArray⟩ = some s) : SaysLooseText (.bytes content) s

/-- What a table of any name gives for fields. All of it must be sound. -/
inductive LooseFields (names : List String) : Datum → List (Option Datum) → Prop
  | object {entries : List (String × Datum)} {given : List (Option Datum)}
      (hsound : (Datum.object entries).sound = true)
      (h : List.Forall₂ (Gives entries) names given) : LooseFields names (.object entries) given
  | record {name? : Option String} {entries : List (String × Datum)}
      {given : List (Option Datum)} (hsound : (Datum.record name? entries).sound = true)
      (h : List.Forall₂ (Gives entries) names given) :
      LooseFields names (.record name? entries) given
  | map {pairs : List (Datum × Datum)} {entries : List (String × Datum)}
      {given : List (Option Datum)} (hsound : (Datum.map pairs).sound = true)
      (hkeys : Keyed (Decode.fieldOf names · = some ·) pairs entries)
      (h : List.Forall₂ (Gives entries) names given) : LooseFields names (.map pairs) given

inductive SaysLooseMap (means : Datum → α → Prop) : Datum → Registry α → Prop
  | object {entries : List (String × Datum)} {r : Registry α} (h : SaysEntries means entries r) :
      SaysLooseMap means (.object entries) r
  | record {name? : Option String} {entries : List (String × Datum)} {r : Registry α}
      (h : SaysEntries means entries r) : SaysLooseMap means (.record name? entries) r
  | map {pairs : List (Datum × Datum)} {entries : List (String × Datum)} {r : Registry α}
      (hkeys : Keyed SaysLooseText pairs entries) (h : SaysEntries means entries r) :
      SaysLooseMap means (.map pairs) r

/-- A text is one line, a list of texts is its lines. -/
inductive SaysLines : Datum → Lines → Prop
  | one {datum : Datum} {line : String} (h : SaysLooseText datum line) :
      SaysLines datum (.one line)
  | list {items : List Datum} {lines : List String}
      (h : List.Forall₂ SaysLooseText items lines) : SaysLines (.list items) (.many lines)
  | tuple {name? : Option String} {items : List Datum} {lines : List String}
      (h : List.Forall₂ SaysLooseText items lines) : SaysLines (.tuple name? items) (.many lines)

inductive SaysItem : Datum → ItemDeclaration → Prop
  | short {datum : Datum} {title : String} (h : SaysLooseText datum title) :
      SaysItem datum (.short title)
  | detailed {datum : Datum} {title? : Option Datum} {title : String}
      (h : LooseFields ["title"] datum [title?]) (htitle : Required SaysLooseText title? title) :
      SaysItem datum (.detailed title)

/-- An amount is a whole number that fits 32 bits. -/
inductive SaysAmount : Datum → Amount → Prop
  | int (amount : Amount) : SaysAmount (.int amount.toNat) amount

inductive SaysRecipe : Datum → RecipeDeclaration → Prop
  | shorthand {datum : Datum} {text : String} (h : SaysLooseText datum text) :
      SaysRecipe datum (.shorthand text)
  | amounts {datum : Datum} {ingredients? results? : Option Datum}
      {ingredients results : Registry Amount}
      (h : LooseFields ["ingredients", "results"] datum [ingredients?, results?])
      (hingredients : Required (SaysLooseMap SaysAmount) ingredients? ingredients)
      (hresults : OrDefault .empty (SaysLooseMap SaysAmount) results? results) :
      SaysRecipe datum (.amounts ingredients results)

/-- A whole number stands for the nearest double. -/
inductive SaysVariable : Datum → VariableDeclaration → Prop
  | bool (b : Bool) : SaysVariable (.bool b) (.bool b)
  | text {datum : Datum} {s : String} (h : SaysLooseText datum s) : SaysVariable datum (.text s)
  | int (n : Int) : SaysVariable (.int n) (.number (Float.ofInt n))
  | float (x : Float) : SaysVariable (.float x) (.number x)

/-! ### Records -/

variable (conv : Conventions)

inductive SaysScripts (datum : Datum) (declared : ScriptsDeclaration) : Prop
  | fields {once always : Option Datum}
      (h : Fields conv "ActionsDef" ["once", "always"] datum [once, always])
      (honce : OrDefault (.many []) SaysLines once declared.once)
      (halways : OrDefault (.many []) SaysLines always declared.always)

inductive SaysChoice (datum : Datum) (declared : ChoiceDeclaration) : Prop
  | fields {title condition action : Option Datum}
      (h : Fields conv "ChoiceDef" ["title", "condition", "action"] datum
        [title, condition, action])
      (htitle : Required SaysText title declared.title)
      (hcondition : OrDefault (.many []) SaysLines condition declared.condition)
      (haction : Required SaysLines action declared.action)

inductive SaysScreen (datum : Datum) (declared : ScreenDeclaration) : Prop
  | fields {name title text actions choices : Option Datum}
      (h : Fields conv "ScreenDef" ["internalName", "title", "text", "actions", "choices"] datum
        [name, title, text, actions, choices])
      (hname : OrDefault none (SaysOptionalText conv) name declared.name)
      (htitle : OrDefault "" SaysText title declared.title)
      (htext : OrDefault (.many []) SaysLines text declared.text)
      (hscripts : OrDefault {} (SaysScripts conv) actions declared.scripts)
      (hchoices : OrDefault [] (SaysList (SaysChoice conv)) choices declared.choices)

inductive SaysFork (datum : Datum) (declared : ForkDeclaration) : Prop
  | fields {condition action : Option Datum}
      (h : Fields conv "ForkDef" ["condition", "action"] datum [condition, action])
      (hcondition : OrDefault (.many []) SaysLines condition declared.condition)
      (haction : Required SaysLines action declared.action)

inductive SaysRelay (datum : Datum) (declared : RelayDeclaration) : Prop
  | fields {name actions forks : Option Datum}
      (h : Fields conv "RelayDef" ["internalName", "actions", "forks"] datum
        [name, actions, forks])
      (hname : Required SaysText name declared.name)
      (hscripts : OrDefault {} (SaysScripts conv) actions declared.scripts)
      (hforks : OrDefault [] (SaysList (SaysFork conv)) forks declared.forks)

inductive SaysDocument (datum : Datum) (document : Document) : Prop
  | fields {name title start items recipes defaults screens relays : Option Datum}
      (h : Fields conv "QuestDef" ["internalName", "title", "startScreen", "items", "recipes",
        "variables", "screens", "relays"] datum
        [name, title, start, items, recipes, defaults, screens, relays])
      (hname : Required SaysText name document.name)
      (htitle : OrDefault "" SaysText title document.title)
      (hstart : Required SaysText start document.start)
      (hitems : OrDefault .empty (SaysMap SaysItem) items document.items)
      (hrecipes : OrDefault .empty (SaysMap SaysRecipe) recipes document.recipes)
      (hdefaults : OrDefault .empty (SaysMap SaysVariable) defaults document.defaults)
      (hscreens : OrDefault [] (SaysList (SaysScreen conv)) screens document.screens)
      (hrelays : OrDefault [] (SaysList (SaysRelay conv)) relays document.relays)

end Datum

/-! ## Reading it -/

open Datum

/-- What is given for a field is found under it, if the field does not stand there twice. -/
theorem Datum.gives_iff {entries : List (String × Datum)} {field : String} {given : Option Datum} :
    Gives entries field given ↔
      (entries.filter (·.1 == field)).length ≤ 1 ∧ entries.lookup field = given := by
  constructor
  · intro h
    cases h with
    | @once front rest datum h hfront hrest =>
        subst h
        have hbefore : front.filter (·.1 == field) = [] :=
          List.filter_eq_nil_iff.mpr fun entry hentry => by simpa using hfront entry hentry
        have hbehind : rest.filter (·.1 == field) = [] :=
          List.filter_eq_nil_iff.mpr fun entry hentry => by simpa using hrest entry hentry
        refine ⟨by simp [hbefore, hbehind], List.lookup_eq_some_iff.mpr ⟨front, rest, rfl, ?_⟩⟩
        exact fun entry hentry => bne_iff_ne.mpr (hfront entry hentry).symm
    | absent h =>
        refine ⟨?_, List.lookup_eq_none_iff.mpr fun entry hentry => ?_⟩
        · rw [List.filter_eq_nil_iff.mpr fun entry hentry => by simpa using h entry hentry]
          exact Nat.zero_le 1
        · exact bne_iff_ne.mpr (h entry hentry).symm
  · rintro ⟨hlength, hlookup⟩
    cases given with
    | none =>
        refine .absent fun entry hentry => ?_
        exact (bne_iff_ne.mp (List.lookup_eq_none_iff.mp hlookup entry hentry)).symm
    | some datum =>
        obtain ⟨front, rest, rfl, hfront⟩ := List.lookup_eq_some_iff.mp hlookup
        refine .once rfl (fun entry hentry => (bne_iff_ne.mp (hfront entry hentry)).symm) ?_
        -- the entry found is the one that there is room for
        rw [List.filter_append, List.filter_cons_of_pos (by simp), List.length_append,
          List.length_cons] at hlength
        have hbehind : rest.filter (·.1 == field) = [] :=
          List.eq_nil_of_length_eq_zero (by omega)
        exact fun entry hentry => by simpa using List.filter_eq_nil_iff.mp hbehind entry hentry

namespace Decode

/-- Reading finds exactly what the data say. -/
def Reads (decode : Datum → Option α) (means : Datum → α → Prop) : Prop :=
  ∀ datum value, decode datum = some value ↔ means datum value

variable {decode : Datum → Option α} {means : Datum → α → Prop}

/-- Reading a list succeeds exactly if reading each of its elements does. -/
theorem mapM_eq_some_iff {f : α → Option β} {xs : List α} {ys : List β} :
    xs.mapM f = some ys ↔ List.Forall₂ (fun x y => f x = some y) xs ys := by
  induction xs generalizing ys with
  | nil => simp [eq_comm]
  | cons x rest ih =>
      rw [List.mapM_cons, List.forall₂_cons_left_iff]
      simp only [bind, Option.bind_eq_some_iff, pure, Option.some.injEq, ih, eq_comm (b := ys)]
      exact ⟨fun ⟨y, hy, others, hothers, heq⟩ => ⟨y, others, hy, hothers, heq⟩,
        fun ⟨y, others, hy, hothers, heq⟩ => ⟨y, hy, others, hothers, heq⟩⟩

/-! ### Fields -/

/-- The fields of a record are read one by one, wherever they stand. -/
theorem named_iff {names : List String} {entries : List (String × Datum)}
    {given : List (Option Datum)} :
    named names entries = some given ↔ List.Forall₂ (Gives entries) names given := by
  have hall : List.Forall₂ (Gives entries) names given ↔
      (∀ field ∈ names, (entries.filter (·.1 == field)).length ≤ 1) ∧
        names.map (fun field => entries.lookup field) = given := by
    -- the test for fields that stand twice looks at all names first, the relation at one after the
    -- other
    induction names generalizing given with
    | nil => simp [eq_comm]
    | cons field rest ih =>
        rw [List.forall₂_cons_left_iff, List.forall_mem_cons, List.map_cons]
        constructor
        · rintro ⟨datum?, others, hdatum, hothers, rfl⟩
          obtain ⟨hlength, hlookup⟩ := gives_iff.mp hdatum
          obtain ⟨hlengths, hlookups⟩ := ih.mp hothers
          exact ⟨⟨hlength, hlengths⟩, by rw [hlookup, hlookups]⟩
        · rintro ⟨⟨hlength, hlengths⟩, rfl⟩
          exact ⟨_, _, gives_iff.mpr ⟨hlength, rfl⟩, ih.mpr ⟨hlengths, rfl⟩, rfl⟩
  rw [named, hall]
  simp only [List.all_eq_true, decide_eq_true_eq, Option.ite_none_right_eq_some,
    Option.some.injEq]

/-- The test on the name in front of a record decides `OfType`. -/
theorem mayName_iff {conv : Conventions} {type : String} {name? : Option String} :
    mayName conv type name? = true ↔ OfType conv type name? := by
  constructor
  · intro h
    cases name? with
    | none => exact .bare (by simpa [mayName] using h)
    | some name =>
        obtain rfl : name = type := by simpa [mayName] using h
        exact .named
  · rintro (_ | h)
    · exact beq_self_eq_true type
    · simp [mayName, h]

/-- **A record is read field by field**, in each of its forms. -/
theorem fields_iff {conv : Conventions} {type : String} {names : List String} {datum : Datum}
    {given : List (Option Datum)} :
    fields conv type names datum = some given ↔ Fields conv type names datum given := by
  -- one constructor of the relation for each form that the decoder tells apart
  constructor
  · intro h
    unfold fields at h
    split at h
    · exact .object (named_iff.mp h)
    · split at h
      · rename_i hname
        exact .record (mayName_iff.mp hname) (named_iff.mp h)
      · nomatch h
    · split at h
      · rename_i hname
        exact .tuple (mayName_iff.mp hname) (named_iff.mp h)
      · nomatch h
    · split at h
      · rename_i hname
        exact .unit (mayName_iff.mp hname) (named_iff.mp h)
      · nomatch h
    · split at h
      · rename_i hlist
        rw [Bool.and_eq_true, Bool.or_eq_true, decide_eq_true_eq] at hlist
        cases h
        exact .list hlist.1 hlist.2
      · nomatch h
    · nomatch h
  · intro h
    cases h with
    | object h => exact named_iff.mpr h
    | record hname h => rw [fields, if_pos (mayName_iff.mpr hname), named_iff.mpr h]
    | tuple hname h => rw [fields, if_pos (mayName_iff.mpr hname), named_iff.mpr h]
    | unit hname h => rw [fields, if_pos (mayName_iff.mpr hname), named_iff.mpr h]
    | list hlists hlength =>
        rw [fields, if_pos]
        rw [Bool.and_eq_true, Bool.or_eq_true, decide_eq_true_eq]
        exact ⟨hlists, hlength⟩

/-- A field that has to be there is read as what it says. -/
theorem required_iff (h : Reads decode means) {field : Option Datum} {value : α} :
    required decode field = some value ↔ Required means field value := by
  cases field with
  | none => exact ⟨nofun, nofun⟩
  | some datum => exact (h datum value).trans ⟨.given, fun | .given h => h⟩

/-- A field that may be left out is read as what it says, or as its default. -/
theorem orDefault_iff (h : Reads decode means) {default : α} {field : Option Datum} {value : α} :
    orDefault default decode field = some value ↔ OrDefault default means field value := by
  cases field with
  | none =>
      constructor
      · intro heq
        cases heq
        exact .absent
      · rintro ⟨⟩
        rfl
  | some datum => exact (h datum value).trans ⟨.given, fun | .given h => h⟩

section Next

variable {ρ : Type} {result : ρ}

/-- What is made of the fields of a record is made of what they say. -/
theorem fields_bind_iff {conv : Conventions} {type : String} {names : List String} {datum : Datum}
    {next : List (Option Datum) → Option ρ} :
    (fields conv type names datum).bind next = some result ↔
      ∃ given, Fields conv type names datum given ∧ next given = some result := by
  simp only [Option.bind_eq_some_iff, fields_iff]

/-- What is made of a field that has to be there is made of what it says. -/
theorem required_bind_iff (h : Reads decode means) {field : Option Datum} {next : α → Option ρ} :
    (required decode field).bind next = some result ↔
      ∃ value, Required means field value ∧ next value = some result := by
  simp only [Option.bind_eq_some_iff, required_iff h]

/-- What is made of a field that may be left out is made of what it says, or of its default. -/
theorem orDefault_bind_iff (h : Reads decode means) {default : α} {field : Option Datum}
    {next : α → Option ρ} :
    (orDefault default decode field).bind next = some result ↔
      ∃ value, OrDefault default means field value ∧ next value = some result := by
  simp only [Option.bind_eq_some_iff, orDefault_iff h]

end Next

/-! ### Texts, lists and maps -/

/-- Only texts are read as texts. -/
theorem text_reads : Reads text SaysText := by
  intro datum s
  constructor
  · intro h
    unfold text at h
    split at h
    · cases h
      exact .text s
    · nomatch h
  · rintro ⟨⟩
    rfl

/-- A text that may be missing is read as what it says, marked or bare as the conventions ask. -/
theorem optionalText_reads (conv : Conventions) :
    Reads (optionalText conv) (SaysOptionalText conv) := by
  intro datum s?
  constructor
  · intro h
    unfold optionalText at h
    split at h
    · cases h
      exact .null
    · cases h
      exact .absent
    · obtain ⟨s, hs, rfl⟩ := Option.map_eq_some_iff.mp h
      cases (text_reads _ _).mp hs
      exact .marked s
    · -- a bare value is taken for the text only where the format does not mark what is there
      split at h
      · nomatch h
      · rename_i hmarked
        cases h
        exact .bare (Bool.eq_false_of_not_eq_true hmarked) _
    · nomatch h
  · intro h
    cases h with
    | null => rfl
    | absent => rfl
    | marked s => rfl
    | bare h s => simp [optionalText, h]

/-- A list is read item by item. -/
theorem list_reads (h : Reads decode means) : Reads (list decode) (SaysList means) := by
  intro datum values
  constructor
  · intro heq
    unfold list at heq
    split at heq
    · exact .list ((mapM_eq_some_iff.mp heq).imp fun datum value => (h datum value).mp)
    · nomatch heq
  · rintro ⟨hitems⟩
    exact mapM_eq_some_iff.mpr (hitems.imp fun datum value => (h datum value).mpr)

/-- Entries are read one by one, and make up a registry. -/
theorem mapOf_iff (h : Reads decode means) {entries : List (String × Datum)} {r : Registry α} :
    mapOf decode entries = some r ↔ SaysEntries means entries r := by
  -- an entry keeps its name, and what it says is said by the datum alone
  have hentry (entry : String × Datum) (value : String × α) :
      (decode entry.2).map (entry.1, ·) = some value ↔
        entry.1 = value.1 ∧ means entry.2 value.2 := by
    rw [Option.map_eq_some_iff, ← h]
    constructor
    · rintro ⟨a, ha, rfl⟩
      exact ⟨rfl, ha⟩
    · rintro ⟨hname, ha⟩
      exact ⟨value.2, ha, by rw [hname]⟩
  rw [mapOf, Option.map_eq_some_iff]
  constructor
  · rintro ⟨values, hvalues, rfl⟩
    exact .each ((mapM_eq_some_iff.mp hvalues).imp fun entry value => (hentry entry value).mp)
  · rintro ⟨hvalues⟩
    exact ⟨_, mapM_eq_some_iff.mpr (hvalues.imp fun entry value => (hentry entry value).mpr), rfl⟩

/-- The keys of a map are read one by one. -/
theorem keyed_iff {key : Datum → Option String} {names : Datum → String → Prop}
    (h : Reads key names) {pairs : List (Datum × Datum)} {entries : List (String × Datum)} :
    (pairs.mapM fun pair => (key pair.1).map (·, pair.2)) = some entries ↔
      Keyed names pairs entries := by
  have hpair (pair : Datum × Datum) (entry : String × Datum) :
      (key pair.1).map (·, pair.2) = some entry ↔
        names pair.1 entry.1 ∧ pair.2 = entry.2 := by
    rw [Option.map_eq_some_iff, ← h]
    constructor
    · rintro ⟨name, hname, rfl⟩
      exact ⟨hname, rfl⟩
    · rintro ⟨hname, hvalue⟩
      exact ⟨entry.1, hname, by rw [hvalue]⟩
  rw [mapM_eq_some_iff, Keyed]
  simp only [hpair]

/-- A map with data for keys is read as the entries that its keys name. -/
theorem mapOfPairs_iff {key : Datum → Option String} {names : Datum → String → Prop}
    (hkey : Reads key names) (h : Reads decode means) {pairs : List (Datum × Datum)}
    {r : Registry α} :
    mapOfPairs key decode pairs = some r ↔
      ∃ entries, Keyed names pairs entries ∧ SaysEntries means entries r := by
  rw [mapOfPairs, Option.bind_eq_bind, Option.bind_eq_some_iff]
  simp only [keyed_iff hkey, mapOf_iff h]

/-- A map is read as what it says. -/
theorem map_reads (h : Reads decode means) : Reads (map decode) (SaysMap means) := by
  intro datum r
  constructor
  · intro heq
    unfold map at heq
    split at heq
    · exact .object ((mapOf_iff h).mp heq)
    · obtain ⟨entries, hkeys, hentries⟩ := (mapOfPairs_iff text_reads h).mp heq
      exact .map hkeys hentries
    · nomatch heq
  · rintro (hentries | ⟨hkeys, hentries⟩)
    · exact (mapOf_iff h).mpr hentries
    · exact (mapOfPairs_iff text_reads h).mpr ⟨_, hkeys, hentries⟩

/-! ### Places with several forms -/

/-- Where a place has several forms, bytes that are a text are read as one too. -/
theorem looseText_reads : Reads looseText SaysLooseText := by
  intro datum s
  constructor
  · intro h
    unfold looseText at h
    split at h
    · cases h
      exact .text s
    · exact .bytes h
    · nomatch h
  · intro h
    cases h with
    | text s => rfl
    | bytes h => exact h

/-- The fields of a table are read one by one, whatever its name is and whether it is a record or
a map. -/
theorem looseFields_iff {names : List String} {datum : Datum} {given : List (Option Datum)} :
    looseFields names datum = some given ↔ LooseFields names datum given := by
  -- the keys of a map only have to be fields, so reading them is its own meaning
  have hfield : Reads (fieldOf names) (fieldOf names · = some ·) := fun _ _ => Iff.rfl
  constructor
  · intro h
    unfold looseFields at h
    split at h
    · rename_i hsound
      split at h
      · exact .object hsound (named_iff.mp h)
      · exact .record hsound (named_iff.mp h)
      · obtain ⟨entries, hkeys, hentries⟩ := Option.bind_eq_some_iff.mp h
        exact .map hsound ((keyed_iff hfield).mp hkeys) (named_iff.mp hentries)
      · nomatch h
    · nomatch h
  · intro h
    cases h with
    | object hsound h => rw [looseFields, if_pos hsound, named_iff.mpr h]
    | record hsound h => rw [looseFields, if_pos hsound, named_iff.mpr h]
    | map hsound hkeys h =>
        rw [looseFields, if_pos hsound]
        exact Option.bind_eq_some_iff.mpr ⟨_, (keyed_iff hfield).mpr hkeys, named_iff.mpr h⟩

/-- What is made of the fields of a table is made of what they say. -/
theorem looseFields_bind_iff {ρ : Type} {result : ρ} {names : List String} {datum : Datum}
    {next : List (Option Datum) → Option ρ} :
    (looseFields names datum).bind next = some result ↔
      ∃ given, LooseFields names datum given ∧ next given = some result := by
  simp only [Option.bind_eq_some_iff, looseFields_iff]

/-- A map at a place with several forms is read as what it says. -/
theorem looseMap_reads (h : Reads decode means) :
    Reads (looseMap decode) (SaysLooseMap means) := by
  intro datum r
  constructor
  · intro heq
    unfold looseMap at heq
    split at heq
    · exact .object ((mapOf_iff h).mp heq)
    · exact .record ((mapOf_iff h).mp heq)
    · obtain ⟨entries, hkeys, hentries⟩ := (mapOfPairs_iff looseText_reads h).mp heq
      exact .map hkeys hentries
    · nomatch heq
  · rintro (hentries | hentries | ⟨hkeys, hentries⟩)
    · exact (mapOf_iff h).mpr hentries
    · exact (mapOf_iff h).mpr hentries
    · exact (mapOfPairs_iff looseText_reads h).mpr ⟨_, hkeys, hentries⟩

/-- **One text is one line**, and a list of texts is its lines, in their order. -/
theorem lines_reads : Reads lines SaysLines := by
  intro datum said
  constructor
  · intro h
    unfold lines at h
    split at h
    · -- the form of a single line is tried first
      rename_i line hline
      cases h
      exact .one ((looseText_reads _ _).mp hline)
    · obtain ⟨lines, hlines, rfl⟩ := Option.map_eq_some_iff.mp h
      unfold looseTexts at hlines
      split at hlines
      · exact .list ((mapM_eq_some_iff.mp hlines).imp fun item s => (looseText_reads item s).mp)
      · exact .tuple ((mapM_eq_some_iff.mp hlines).imp fun item s => (looseText_reads item s).mp)
      · nomatch hlines
  · intro h
    cases h with
    | one h => rw [lines, (looseText_reads _ _).mpr h]
    | list h =>
        have hlines := mapM_eq_some_iff.mpr (h.imp fun item s => (looseText_reads item s).mpr)
        exact congrArg (Option.map Lines.many) hlines
    | tuple h =>
        have hlines := mapM_eq_some_iff.mpr (h.imp fun item s => (looseText_reads item s).mpr)
        exact congrArg (Option.map Lines.many) hlines

/-- A table is no text. -/
theorem looseText_eq_none_of_fields {names : List String} {datum : Datum}
    {given : List (Option Datum)} (h : LooseFields names datum given) : looseText datum = none := by
  cases h <;> rfl

/-- **An item is its title**, alone or in a table. -/
theorem item_reads : Reads item SaysItem := by
  intro datum declared
  constructor
  · intro h
    unfold item at h
    split at h
    · rename_i title htitle
      cases h
      exact .short ((looseText_reads _ _).mp htitle)
    · obtain ⟨given, hgiven, h⟩ := looseFields_bind_iff.mp h
      split at h
      · obtain ⟨title, htitle, h⟩ := (required_bind_iff looseText_reads).mp h
        cases h
        exact .detailed hgiven htitle
      · nomatch h
  · intro h
    cases h with
    | short h => rw [item, (looseText_reads _ _).mpr h]
    | detailed h htitle =>
        -- what has fields is no text, so the short form is not taken for it
        rw [item, looseText_eq_none_of_fields h]
        refine looseFields_bind_iff.mpr ⟨_, h, ?_⟩
        exact (required_bind_iff looseText_reads).mpr ⟨_, htitle, rfl⟩

/-- An amount is read from a number that fits. -/
theorem amount_reads :
    Reads (fun datum => (natBelow UInt32.size datum).map UInt32.ofNat) SaysAmount := by
  intro datum amount
  dsimp only
  rw [Option.map_eq_some_iff]
  constructor
  · rintro ⟨n, hn, rfl⟩
    unfold natBelow at hn
    split at hn
    · rename_i k
      split at hn
      · rename_i hrange
        cases hn
        -- the conversion loses nothing, since the number was tested first
        have hback : ((UInt32.ofNat k.toNat).toNat : Int) = k := by
          rw [UInt32.toNat_ofNat_of_lt' (by omega)]
          omega
        have hint := SaysAmount.int (UInt32.ofNat k.toNat)
        rwa [hback] at hint
      · nomatch hn
    · nomatch hn
  · rintro ⟨⟩
    have hlt := amount.toNat_lt
    refine ⟨amount.toNat, ?_, UInt32.ofNat_toNat⟩
    rw [natBelow, if_pos ⟨Int.natCast_nonneg _, by exact_mod_cast hlt⟩]
    rfl

/-- The amounts of a recipe are a map of amounts. -/
theorem amounts_reads : Reads amounts (SaysLooseMap SaysAmount) := looseMap_reads amount_reads

/-- **A recipe is its shorthand**, or a table of the amounts. -/
theorem recipe_reads : Reads recipe SaysRecipe := by
  intro datum declared
  constructor
  · intro h
    unfold recipe at h
    split at h
    · rename_i text htext
      cases h
      exact .shorthand ((looseText_reads _ _).mp htext)
    · obtain ⟨given, hgiven, h⟩ := looseFields_bind_iff.mp h
      split at h
      · obtain ⟨ingredients, hingredients, h⟩ := (required_bind_iff amounts_reads).mp h
        obtain ⟨results, hresults, h⟩ := (orDefault_bind_iff amounts_reads).mp h
        cases h
        exact .amounts hgiven hingredients hresults
      · nomatch h
  · intro h
    cases h with
    | shorthand h => rw [recipe, (looseText_reads _ _).mpr h]
    | amounts h hingredients hresults =>
        -- as for items, what has fields is no text
        rw [recipe, looseText_eq_none_of_fields h]
        refine looseFields_bind_iff.mpr ⟨_, h, ?_⟩
        refine (required_bind_iff amounts_reads).mpr ⟨_, hingredients, ?_⟩
        exact (orDefault_bind_iff amounts_reads).mpr ⟨_, hresults, rfl⟩

/-- **A variable starts with a truth value, a number or a text.** -/
theorem variableValue_reads : Reads variableValue SaysVariable := by
  intro datum declared
  constructor
  · intro h
    unfold variableValue at h
    split at h
    · cases h
      exact .bool _
    · -- what is neither a truth value nor a text has to be a number
      split at h
      · rename_i s hs
        cases h
        exact .text ((looseText_reads _ _).mp hs)
      · unfold Datum.toFloat? at h
        split at h
        · cases h
          exact .int _
        · cases h
          exact .float _
        · nomatch h
  · intro h
    cases h with
    | bool b => rfl
    | text h => cases h with
      | text s => rfl
      | bytes h => rw [variableValue, looseText, h]; nofun
    | int n => rfl
    | float x => rfl

/-! ### Records -/

section

variable (conv : Conventions)

/-- The scripts of a stage are read as what they say. -/
theorem stageScripts_reads : Reads (stageScripts conv) (SaysScripts conv) := by
  intro datum declared
  constructor
  · intro h
    -- the fields in the order of the record, each through what is known of its reader
    obtain ⟨given, hgiven, h⟩ := fields_bind_iff.mp h
    split at h
    · obtain ⟨once, honce, h⟩ := (orDefault_bind_iff lines_reads).mp h
      obtain ⟨always, halways, h⟩ := (orDefault_bind_iff lines_reads).mp h
      cases h
      exact .fields hgiven honce halways
    · nomatch h
  · rintro ⟨h, honce, halways⟩
    refine fields_bind_iff.mpr ⟨_, h, ?_⟩
    refine (orDefault_bind_iff lines_reads).mpr ⟨_, honce, ?_⟩
    exact (orDefault_bind_iff lines_reads).mpr ⟨_, halways, rfl⟩

/-- A choice is read field by field. -/
theorem choice_reads : Reads (choice conv) (SaysChoice conv) := by
  intro datum declared
  constructor
  · intro h
    -- title and commands have to be there; a choice without a condition is always offered
    obtain ⟨given, hgiven, h⟩ := fields_bind_iff.mp h
    split at h
    · obtain ⟨title, htitle, h⟩ := (required_bind_iff text_reads).mp h
      obtain ⟨condition, hcondition, h⟩ := (orDefault_bind_iff lines_reads).mp h
      obtain ⟨action, haction, h⟩ := (required_bind_iff lines_reads).mp h
      cases h
      exact .fields hgiven htitle hcondition haction
    · nomatch h
  · rintro ⟨h, htitle, hcondition, haction⟩
    refine fields_bind_iff.mpr ⟨_, h, ?_⟩
    refine (required_bind_iff text_reads).mpr ⟨_, htitle, ?_⟩
    refine (orDefault_bind_iff lines_reads).mpr ⟨_, hcondition, ?_⟩
    exact (required_bind_iff lines_reads).mpr ⟨_, haction, rfl⟩

/-- A screen is read field by field. -/
theorem screen_reads : Reads (screen conv) (SaysScreen conv) := by
  have hname := optionalText_reads conv
  have hscripts := stageScripts_reads conv
  have hchoices := list_reads (choice_reads conv)
  intro datum declared
  constructor
  · intro h
    -- no field of a screen has to be there: an empty record is a screen without a name
    obtain ⟨given, hgiven, h⟩ := fields_bind_iff.mp h
    split at h
    · obtain ⟨name, hn, h⟩ := (orDefault_bind_iff hname).mp h
      obtain ⟨title, htitle, h⟩ := (orDefault_bind_iff text_reads).mp h
      obtain ⟨lines, hlines, h⟩ := (orDefault_bind_iff lines_reads).mp h
      obtain ⟨scripts, hs, h⟩ := (orDefault_bind_iff hscripts).mp h
      obtain ⟨choices, hc, h⟩ := (orDefault_bind_iff hchoices).mp h
      cases h
      exact .fields hgiven hn htitle hlines hs hc
    · nomatch h
  · rintro ⟨h, hn, htitle, hlines, hs, hc⟩
    refine fields_bind_iff.mpr ⟨_, h, ?_⟩
    refine (orDefault_bind_iff hname).mpr ⟨_, hn, ?_⟩
    refine (orDefault_bind_iff text_reads).mpr ⟨_, htitle, ?_⟩
    refine (orDefault_bind_iff lines_reads).mpr ⟨_, hlines, ?_⟩
    refine (orDefault_bind_iff hscripts).mpr ⟨_, hs, ?_⟩
    exact (orDefault_bind_iff hchoices).mpr ⟨_, hc, rfl⟩

/-- A fork is read field by field. -/
theorem fork_reads : Reads (fork conv) (SaysFork conv) := by
  intro datum declared
  constructor
  · intro h
    -- as in a choice, only the condition may be left out
    obtain ⟨given, hgiven, h⟩ := fields_bind_iff.mp h
    split at h
    · obtain ⟨condition, hcondition, h⟩ := (orDefault_bind_iff lines_reads).mp h
      obtain ⟨action, haction, h⟩ := (required_bind_iff lines_reads).mp h
      cases h
      exact .fields hgiven hcondition haction
    · nomatch h
  · rintro ⟨h, hcondition, haction⟩
    refine fields_bind_iff.mpr ⟨_, h, ?_⟩
    refine (orDefault_bind_iff lines_reads).mpr ⟨_, hcondition, ?_⟩
    exact (required_bind_iff lines_reads).mpr ⟨_, haction, rfl⟩

/-- A relay is read field by field. -/
theorem relay_reads : Reads (relay conv) (SaysRelay conv) := by
  have hscripts := stageScripts_reads conv
  have hforks := list_reads (fork_reads conv)
  intro datum declared
  constructor
  · intro h
    -- a relay has to have a name, unlike a screen
    obtain ⟨given, hgiven, h⟩ := fields_bind_iff.mp h
    split at h
    · obtain ⟨name, hname, h⟩ := (required_bind_iff text_reads).mp h
      obtain ⟨scripts, hs, h⟩ := (orDefault_bind_iff hscripts).mp h
      obtain ⟨forks, hf, h⟩ := (orDefault_bind_iff hforks).mp h
      cases h
      exact .fields hgiven hname hs hf
    · nomatch h
  · rintro ⟨h, hname, hs, hf⟩
    refine fields_bind_iff.mpr ⟨_, h, ?_⟩
    refine (required_bind_iff text_reads).mpr ⟨_, hname, ?_⟩
    refine (orDefault_bind_iff hscripts).mpr ⟨_, hs, ?_⟩
    exact (orDefault_bind_iff hforks).mpr ⟨_, hf, rfl⟩

/-- **A document is read as what it says**, and data that say nothing are not read. -/
theorem document_reads : Reads (document conv) (SaysDocument conv) := by
  have hitems := map_reads item_reads
  have hrecipes := map_reads recipe_reads
  have hdefaults := map_reads variableValue_reads
  have hscreens := list_reads (screen_reads conv)
  have hrelays := list_reads (relay_reads conv)
  intro datum declared
  constructor
  · intro h
    -- name and start have to be there, everything else may be left out
    obtain ⟨given, hgiven, h⟩ := fields_bind_iff.mp h
    split at h
    · obtain ⟨name, hname, h⟩ := (required_bind_iff text_reads).mp h
      obtain ⟨title, htitle, h⟩ := (orDefault_bind_iff text_reads).mp h
      obtain ⟨start, hstart, h⟩ := (required_bind_iff text_reads).mp h
      obtain ⟨items, hi, h⟩ := (orDefault_bind_iff hitems).mp h
      obtain ⟨recipes, hr, h⟩ := (orDefault_bind_iff hrecipes).mp h
      obtain ⟨defaults, hd, h⟩ := (orDefault_bind_iff hdefaults).mp h
      obtain ⟨screens, hs, h⟩ := (orDefault_bind_iff hscreens).mp h
      obtain ⟨relays, hl, h⟩ := (orDefault_bind_iff hrelays).mp h
      cases h
      exact .fields hgiven hname htitle hstart hi hr hd hs hl
    · nomatch h
  · rintro ⟨h, hname, htitle, hstart, hi, hr, hd, hs, hl⟩
    refine fields_bind_iff.mpr ⟨_, h, ?_⟩
    refine (required_bind_iff text_reads).mpr ⟨_, hname, ?_⟩
    refine (orDefault_bind_iff text_reads).mpr ⟨_, htitle, ?_⟩
    refine (required_bind_iff text_reads).mpr ⟨_, hstart, ?_⟩
    refine (orDefault_bind_iff hitems).mpr ⟨_, hi, ?_⟩
    refine (orDefault_bind_iff hrecipes).mpr ⟨_, hr, ?_⟩
    refine (orDefault_bind_iff hdefaults).mpr ⟨_, hd, ?_⟩
    refine (orDefault_bind_iff hscreens).mpr ⟨_, hs, ?_⟩
    exact (orDefault_bind_iff hrelays).mpr ⟨_, hl, rfl⟩

end

end Decode

end Narrative
