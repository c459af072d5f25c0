import Narrative.Document.Datum
import Narrative.Document.Format
import Narrative.Registry

/-!
# Document.Decode — reading data as records, lists and maps

A datum either reads as a value of a type or it does not; no reason is kept. The rules are those
of the syntaxes: fields that a record does not know are ignored, a field may be left out where it
has a default, and of repeated names in a map the last one counts, while a record refuses them.

Where the form of a value is only decided once it is read, the rules are looser: a record may stand
for a map and a map for a record, a record may have any name, and bytes may stand for a text.
-/

namespace Narrative

/-- What the syntaxes do differently. -/
structure Conventions where
  /-- Whether a list may stand for a record, its items being the fields in declared order. -/
  listsAsRecords : Bool
  /-- Whether such a list may be longer than the record. -/
  spareItems : Bool
  /-- Whether an optional value has to be marked as one. -/
  markedOptions : Bool
  /-- Whether a record has to name its type. -/
  namedRecords : Bool

def Format.conventions : Format → Conventions
  | .json => ⟨true, false, false, false⟩
  | .toml => ⟨true, true, false, false⟩
  | .ron => ⟨false, false, true, false⟩

namespace Decode

variable {α : Type}

/-! ## Fields -/

/-- The data of entries under the fields of a record, unless a field is given twice. -/
def named (fields : List String) (entries : List (String × Datum)) :
    Option (List (Option Datum)) :=
  if fields.all fun field => (entries.filter (·.1 == field)).length ≤ 1 then
    some (fields.map fun field => entries.lookup field)
  else none

/-- Whether a record that stands behind a name, or behind none, may be of a type. -/
def mayName (conv : Conventions) (type : String) : Option String → Bool
  | some name => name == type
  | none => !conv.namedRecords

/-- The data under the fields of a record of a type, in the order of the fields. Brackets with
nothing between them are a record without fields. -/
def fields (conv : Conventions) (type : String) (names : List String) :
    Datum → Option (List (Option Datum))
  | .object entries => named names entries
  | .record name? entries => if mayName conv type name? then named names entries else none
  | .tuple name? [] => if mayName conv type name? then named names [] else none
  | .unit => if mayName conv type none then named names [] else none
  | .list items =>
    -- items stand for the fields in their order
    if conv.listsAsRecords && (conv.spareItems || items.length ≤ names.length) then
      some (names.mapIdx fun index _ => items[index]?)
    else none
  | _ => none

/-- A field that has to be there. -/
def required (decode : Datum → Option α) (field : Option Datum) : Option α := field.bind decode

/-- A field that may be left out. -/
def orDefault (default : α) (decode : Datum → Option α) (field : Option Datum) : Option α :=
  match field with
  | some datum => decode datum
  | none => some default

/-! ## Values -/

def text : Datum → Option String
  | .text s => some s
  | _ => none

def optionalText (conv : Conventions) : Datum → Option (Option String)
  | .null => some none
  | .optional none => some none
  | .optional (some content) => (text content).map some
  | .text s => if conv.markedOptions then none else some (some s)
  | _ => none

/-- A natural number below a bound, written as a whole number. -/
def natBelow (bound : Nat) : Datum → Option Nat
  | .int n => if 0 ≤ n ∧ n < bound then some n.toNat else none
  | _ => none

def list (decode : Datum → Option α) : Datum → Option (List α)
  | .list items => items.mapM decode
  | _ => none

/-- The map of entries. -/
def mapOf (decode : Datum → Option α) (entries : List (String × Datum)) : Option (Registry α) :=
  (entries.mapM fun entry => (decode entry.2).map (entry.1, ·)).map Registry.ofList

/-- The map of entries whose keys are read as texts. -/
def mapOfPairs (key : Datum → Option String) (decode : Datum → Option α)
    (entries : List (Datum × Datum)) : Option (Registry α) := do
  mapOf decode (← entries.mapM fun entry => (key entry.1).map (·, entry.2))

/-- A map from texts. -/
def map (decode : Datum → Option α) : Datum → Option (Registry α)
  | .object entries => mapOf decode entries
  | .map entries => mapOfPairs text decode entries
  | _ => none

/-! ## Values whose form is not known beforehand -/

/-- A text, which may be given by its bytes. -/
def looseText : Datum → Option String
  | .text s => some s
  | .bytes content => String.fromUTF8? ⟨content.toArray⟩
  | _ => none

def looseTexts : Datum → Option (List String)
  | .list items | .tuple _ items => items.mapM looseText
  | _ => none

/-- The field that a key stands for. A number stands for the field at its place if it fits a byte,
and for none if it takes more than 32 bits; bytes that are no text stand for no field either. -/
def fieldOf (names : List String) : Datum → Option String
  | .text s => some s
  | .bytes content => some ((String.fromUTF8? ⟨content.toArray⟩).getD "")
  -- small numbers name a field by its place, large ones name none, those in between are refused
  | .int n => do
    let place ← natBelow UInt64.size (.int n)
    if place < UInt8.size then some (names[place]?.getD "")
    else if UInt32.size ≤ place then some ""
    else none
  | _ => none

/-- The data under the fields of a record of any name, or of a map. The whole of it must be
sound. -/
def looseFields (names : List String) (datum : Datum) : Option (List (Option Datum)) :=
  if datum.sound then
    match datum with
    | .object entries | .record _ entries => named names entries
    | .map entries => do
      named names (← entries.mapM fun entry => (fieldOf names entry.1).map (·, entry.2))
    | _ => none
  else none

/-- A map from texts, or a record of any name. -/
def looseMap (decode : Datum → Option α) : Datum → Option (Registry α)
  | .object entries | .record _ entries => mapOf decode entries
  | .map entries => mapOfPairs looseText decode entries
  | _ => none

end Decode

end Narrative
