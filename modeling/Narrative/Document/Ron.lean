import Narrative.Document.Ron.Number

/-!
# Document.Ron — the RON syntax

Records stand in round brackets, lists in square ones and maps in braces; a comma may follow the
last part of each. An optional value is `None` or `Some` of a value. A document starts with the
extensions of the syntax that it asks for, and it may nest no deeper than `depthLimit`.
-/

namespace Narrative.Ron

open Text

/-! ## Extensions -/

/-- The extension by which an optional value stands without `Some`. -/
def implicitSome : String := "implicit_some"

/-- The extension by which a record has to name its type. -/
def explicitNames : String := "explicit_struct_names"

/-- The extension by which the brackets of `Some` are those of its content too. -/
def unwrapVariants : String := "unwrap_variant_newtypes"

/-- The extensions of the syntax. -/
def knownExtensions : List String :=
  [implicitSome, explicitNames, "unwrap_newtypes", unwrapVariants]

/-! ## Values -/

/-- Whether a name and a colon are next, as at the start of a record. -/
def startsField : Scanner Bool := fun cs =>
  match (do let _ ← name; space; Scanner.expect ":" : Scanner Unit) cs with
  | some _ => some (true, cs)
  | none => some (false, cs)

/-- Reads a field with its value. -/
def field (part : Scanner Datum) : Scanner (String × Datum) := do
  let field ← name
  space
  Scanner.expect ":"
  space
  return (field, ← part)

/-- Reads a key with its value. -/
def entry (part : Scanner Datum) : Scanner (Datum × Datum) := do
  let key ← part
  space
  Scanner.expect ":"
  space
  return (key, ← part)

/-- Reads a record or a tuple behind its opening bracket. -/
def bracketed (part : Scanner Datum) (name? : Option String) : Scanner Datum := do
  space
  if ← startsField then return .record name? (← parts ")" (field part))
  else return .tuple name? (← parts ")" part)

/-- Reads on behind a name. A name alone is a value without content. -/
def behindName (part : Scanner Datum) (word : String) : Scanner Datum := do
  space
  if ← Scanner.accept "(" then bracketed part (some word) else return .foreign

/-- The content of an optional value, given what stands in the brackets behind `Some`. Only where
the brackets are shared is it more than one value or none. -/
def contentOf? (shared : Bool) : Datum → Option Datum
  | .tuple _ [content] => some content
  | .tuple _ [] => if shared then some .unit else none
  | content => if shared then some content else none

/-- Reads on behind `Some`. -/
def behindSome (words : List String) (part : Scanner Datum) : Scanner Datum := do
  space
  if ← Scanner.accept "(" then
    match contentOf? (words.contains unwrapVariants) (← bracketed part none) with
    | some content => return .optional (some content)
    | none => Scanner.refuse
  else if words.contains implicitSome then return .optional (some (← part))
  else Scanner.refuse

/-- Reads on behind a word that may be more than a name. -/
def behindWord (words : List String) (part : Scanner Datum) (word : String) : Scanner Datum := do
  match word, namedNumber? word with
  | "true", _ => return .bool true
  | "false", _ => return .bool false
  | "None", _ => return .optional none
  | "Some", _ => behindSome words part
  | _, some x => return .float x
  | _, none => behindName part word

/-- Reads a quoted form that starts with a letter. -/
def prefixed : Scanner Datum := do
  if ← Scanner.accept "b\"" then return .bytes (← quotedBytes)
  else if ← Scanner.accept "b'" then return .int (← quotedByte).toNat
  else if ← Scanner.accept "br" then return .bytes (← rawText).toUTF8.toList
  else
    Scanner.expect "r"
    return .text (← rawText)

/-- Reads a value, given the extensions of the document and how to read the parts of the value. -/
def valueOf (words : List String) (part : Scanner Datum) : Scanner Datum := do
  if ← Scanner.accept "\"" then return .text (← quotedText)
  else if ← Scanner.accept "'" then
    quotedChar
    return .foreign
  else if ← Scanner.accept "[" then return .list (← parts "]" part)
  else if ← Scanner.accept "\x7b" then return .map (← parts "\x7d" (entry part))
  -- a unit is asked for first, since it begins like a tuple
  else if ← Scanner.accept "()" then return .unit
  else if ← Scanner.accept "(" then bracketed part none
  else if opensQuoted (← get) then prefixed
  else if (← get).head?.any startsNumber then number
  else if ← Scanner.isNext "r#" then behindName part (← name)
  else behindWord words part (← name)

/-- Reads a value with room for this many values inside each other. -/
def value (words : List String) : Nat → Scanner Datum
  | 0 => valueOf words Scanner.refuse
  | room + 1 => valueOf words (value words room)

/-! ## Depth -/

mutual

/-- How many levels a value takes: one for its brackets and one more for what stands in them, but a
single one for the content of an optional value. -/
def levels : Datum → Nat
  | .list items | .tuple _ items => 1 + itemLevels items
  | .object entries | .record _ entries => 1 + entryLevels entries
  | .map entries => 1 + pairLevels entries
  | .optional (some content) => 1 + levels content
  | _ => 0

/-- The levels of items. -/
def itemLevels : List Datum → Nat
  | [] => 0
  | item :: rest => Nat.max (1 + levels item) (itemLevels rest)

/-- The levels of values under names. -/
def entryLevels : List (String × Datum) → Nat
  | [] => 0
  | (_, value) :: rest => Nat.max (1 + levels value) (entryLevels rest)

/-- The levels of keys and values. -/
def pairLevels : List (Datum × Datum) → Nat
  | [] => 0
  | (key, value) :: rest =>
    Nat.max (1 + Nat.max (levels key) (levels value)) (pairLevels rest)

end

/-- How many levels a document may take. -/
def depthLimit : Nat := 128

/-! ## Documents -/

/-- Takes each of these texts, with space in front of it. -/
def expectAll : List String → Scanner Unit
  | [] => pure ()
  | expected :: others => do
    space
    Scanner.expect expected
    expectAll others

/-- Reads the extensions that a document asks for. The fuel is the length of the text. -/
def extensions : Nat → Scanner (List String)
  | 0 => Scanner.refuse
  | fuel + 1 => do
    space
    if ← Scanner.isNext "#" then
      expectAll ["#", "!", "[", "enable", "("]
      let words ← parts ")" name
      -- a word that is not known is an error, and so is none
      if words.isEmpty || !words.all knownExtensions.contains then Scanner.refuse
      expectAll ["]"]
      return words ++ (← extensions fuel)
    else return []

/-- Reads a RON document: the extensions it asks for, and its value. -/
def read? (text : String) : Option (List String × Datum) :=
  Scanner.readAll (do
    let words ← extensions (text.length + 1)
    space
    let datum ← value words depthLimit
    space
    if levels datum ≤ depthLimit then return (words, datum) else Scanner.refuse) text.toList

end Narrative.Ron
