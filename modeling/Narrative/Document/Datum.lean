/-!
# Document.Datum — what documents are made of

The three document syntaxes read into one type of data. It keeps what they tell apart and what
decides whether a value may be read as a certain type: whole numbers and others, repeated names,
the names of records, and the difference between records and maps.
-/

namespace Narrative

/-- A value in a document. -/
inductive Datum where
  | null
  | bool (b : Bool)
  | int (n : Int)
  | float (x : Float)
  | text (s : String)
  /-- A text given by its bytes, which need not be UTF-8. -/
  | bytes (content : List UInt8)
  | list (items : List Datum)
  /-- Items in round brackets, which may stand behind a name. -/
  | tuple (name? : Option String) (items : List Datum)
  /-- Round brackets with nothing between them. -/
  | unit
  /-- Names with values, as written, repetitions included. It is a record and a map in one. -/
  | object (entries : List (String × Datum))
  /-- Fields with values, as written, repetitions included. It may stand behind a name. -/
  | record (name? : Option String) (fields : List (String × Datum))
  /-- Keys with values, as written, repetitions included. -/
  | map (entries : List (Datum × Datum))
  | optional (content? : Option Datum)
  /-- A value of a type that no story uses. -/
  | foreign
  /-- Well written, but no value of any type. It may be skipped over. -/
  | invalid
deriving Inhabited

namespace Datum

mutual

/-- Whether a datum has no invalid part. -/
def sound : Datum → Bool
  | .invalid => false
  | .list items | .tuple _ items => allSound items
  | .object entries | .record _ entries => allEntriesSound entries
  | .map entries => allPairsSound entries
  | .optional (some content) => sound content
  | _ => true

/-- Whether no item has an invalid part. -/
def allSound : List Datum → Bool
  | [] => true
  | item :: rest => sound item && allSound rest

/-- Whether no value under a name has an invalid part. -/
def allEntriesSound : List (String × Datum) → Bool
  | [] => true
  | (_, value) :: rest => sound value && allEntriesSound rest

/-- Whether no key and no value has an invalid part. -/
def allPairsSound : List (Datum × Datum) → Bool
  | [] => true
  | (key, value) :: rest => sound key && sound value && allPairsSound rest

end

/-- The number of a numeric datum; a whole number becomes the nearest double. -/
def toFloat? : Datum → Option Float
  | .int n => some (Float.ofInt n)
  | .float x => some x
  | _ => none

end Datum

end Narrative
