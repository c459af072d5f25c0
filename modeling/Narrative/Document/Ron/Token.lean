import Narrative.Text.Name
import Narrative.Text.Scanner

/-!
# Document.Ron.Token — space, names and quoted texts of RON

White space and nested comments, names, and the quoted forms: texts and bytes, each with escapes or
raw, and single characters.
-/

namespace Narrative.Ron

open Text

/-! ## Space -/

/-- White space between tokens. -/
def isSpace (c : Char) : Bool :=
  c ∈ [' ', '\t', '\n', '\x0b', '\x0c', '\r', '\u0085', '\u200e', '\u200f', '\u2028', '\u2029']

/-- What follows a comment whose opening mark was read, with that many comments still open. -/
def afterBlock : Nat → List Char → Option (List Char)
  | 0, cs => some cs
  | _ + 1, [] => none
  | depth + 1, '*' :: '/' :: cs => afterBlock depth cs
  | depth + 1, '/' :: '*' :: cs => afterBlock (depth + 2) cs
  | depth + 1, _ :: cs => afterBlock (depth + 1) cs
termination_by _ cs => cs.length

/-- Skips white space and comments. The fuel is the length of the text. -/
def skipSpace : Nat → Scanner Unit
  | 0 => pure ()
  | fuel + 1 => do
    Scanner.skipWhile isSpace
    if ← Scanner.accept "//" then
      Scanner.skipWhile (· != '\n')
      skipSpace fuel
    else if ← Scanner.accept "/*" then
      -- comments may be nested
      match afterBlock 1 (← get) with
      | some cs => do
        set cs
        skipSpace fuel
      | none => Scanner.refuse

/-- Skips white space and comments. -/
def space : Scanner Unit := do skipSpace ((← get).length + 1)

/-- Takes the comma behind a part, and tells whether a further part may follow. -/
def comma : Scanner Bool := do
  space
  let found ← Scanner.accept ","
  space
  return found

/-- Takes parts with commas between them up to the closing mark. The fuel is the length of the text;
each part but the last takes a comma. -/
def partsUpTo {α : Type} (closing : String) (part : Scanner α) : Nat → Scanner (List α)
  | 0 => Scanner.refuse
  | fuel + 1 => do
    if ← Scanner.accept closing then return []
    let first ← part
    if ← comma then return first :: (← partsUpTo closing part fuel)
    Scanner.expect closing
    return [first]

/-- Takes parts with commas between them up to the closing mark. -/
def parts {α : Type} (closing : String) (part : Scanner α) : Scanner (List α) := do
  space
  partsUpTo closing part ((← get).length + 1)

/-! ## Names -/

/-- The characters of raw names. -/
def isRawNameChar (c : Char) : Bool := continuesName c || c ∈ ['.', '+', '-']

/-- Whether a quoted form that starts with a letter is next. -/
def opensQuoted (cs : List Char) : Bool :=
  ["b\"", "b'", "br\"", "br#", "r\"", "r#\"", "r##"].any fun opening =>
    opening.toList.isPrefixOf cs

/-- Takes a name, if one is next. -/
def name? : Scanner (Option String) := do
  let cs ← get
  -- a quoted text may begin with a letter
  if opensQuoted cs then return none
  else if ← Scanner.accept "r#" then
    let taken ← Scanner.takeWhile isRawNameChar
    if taken.isEmpty then Scanner.refuse else return some (String.ofList taken)
  else if cs.head?.any startsName then
    return some (String.ofList (← Scanner.takeWhile continuesName))
  else return none

/-- Takes a name, which has to be next. -/
def name : Scanner String := do
  match ← name? with
  | some word => return word
  | none => Scanner.refuse

/-! ## Quoted forms -/

/-- Takes a byte that is written by two digits. -/
def byteDigits : Scanner UInt8 := do return UInt8.ofNat (← Scanner.hexDigits 2 0)

/-- The character whose UTF-8 bytes start with these; the rest of them follow, each with its own
escape. There are at most `more` of them. -/
def charOfBytes (taken : List UInt8) : Nat → Scanner Char
  | 0 => oneChar
  | more + 1 => fun cs => oneChar cs <|> (do
    Scanner.expect "\\x"
    charOfBytes (taken ++ [← byteDigits]) more : Scanner Char) cs
where
  /-- The character with exactly these bytes. -/
  oneChar : Scanner Char :=
    match (String.fromUTF8? ⟨taken.toArray⟩).map String.toList with
    | some [c] => pure c
    | _ => Scanner.refuse

/-- A character with a number of at most six digits between braces. -/
def charOfCode : Scanner Char := do
  Scanner.expect "\x7b"
  let digits ← Scanner.takeWhile (· != '\x7d')
  Scanner.expect "\x7d"
  if digits.isEmpty ∨ digits.length > 6 then Scanner.refuse
  match (Scanner.readAll (Scanner.hexDigits digits.length 0) digits).bind charOf? with
  | some c => return c
  | none => Scanner.refuse

/-- The character that an escape without a number stands for. -/
def escaped? : Char → Option Char
  | '\'' => some '\''
  | '"' => some '"'
  | '\\' => some '\\'
  | 'n' => some '\n'
  | 'r' => some '\r'
  | 't' => some '\t'
  | '0' => some '\x00'
  | _ => none

/-- The character that an escape stands for, behind its backslash. It is written with at most
`more` bytes behind the first one. -/
def escapedChar (more : Nat) : Scanner (List Char) := do
  match ← Scanner.next with
  | 'x' => return [← charOfBytes [← byteDigits] more]
  | 'u' => return [← charOfCode]
  | c => match escaped? c with
    | some c => return [c]
    | none => Scanner.refuse

/-- The byte that an escape stands for, behind its backslash. -/
def escapedByte : Scanner (List UInt8) := do
  match ← Scanner.next with
  | 'x' => return [← byteDigits]
  | c => match escaped? c with
    | some c => return String.utf8EncodeChar c
    | none => Scanner.refuse

/-- A quoted form behind its opening quote, in units that escapes and plain characters stand for.
The fuel is the length of the text. -/
def quotedUnits {α : Type} (escape : Scanner (List α)) (plain : Char → List α) :
    Nat → Scanner (List α)
  | 0 => Scanner.refuse
  | fuel + 1 => do
    let c ← Scanner.next
    if c == '"' then return []
    else
      let units ← if c == '\\' then escape else pure (plain c)
      return units ++ (← quotedUnits escape plain fuel)

/-- The text behind an opening quote. -/
def quotedText : Scanner String := do
  return String.ofList (← quotedUnits (escapedChar 3) ([·]) ((← get).length + 1))

/-- The bytes behind an opening quote. -/
def quotedBytes : Scanner (List UInt8) := do
  quotedUnits escapedByte String.utf8EncodeChar ((← get).length + 1)

/-- A text without escapes, up to a quote with these marks behind it. -/
def rawUpTo (marks : List Char) : Nat → Scanner (List Char)
  | 0 => Scanner.refuse
  | fuel + 1 => do
    let c ← Scanner.next
    if c == '"' && (marks.isPrefixOf (← get)) then
      set ((← get).drop marks.length)
      return []
    else return c :: (← rawUpTo marks fuel)

/-- A text without escapes, with the same number of marks in front of its quotes and behind. -/
def rawText : Scanner String := do
  let marks ← Scanner.takeWhile (· == '#')
  Scanner.expect "\""
  return String.ofList (← rawUpTo marks ((← get).length + 1))

/-- A character behind its opening quote. An escape by a byte stands for an ASCII character. -/
def quotedChar : Scanner Unit := do
  let c ← Scanner.next
  if c == '\\' then
    let _ ← escapedChar 0
  Scanner.expect "'"

/-- A byte behind its opening quote: an ASCII character or an escape. -/
def quotedByte : Scanner UInt8 := do
  let c ← Scanner.next
  let units ← if c == '\\' then escapedByte else pure (String.utf8EncodeChar c)
  Scanner.expect "'"
  match units with
  | [byte] => return byte
  | _ => Scanner.refuse

end Narrative.Ron
