import Narrative.Document.Datum
import Narrative.Document.Moment
import Narrative.Decimal.Positional
import Narrative.Text.Blank
import Narrative.Text.Numeral
import Narrative.Text.Scanner

/-!
# Document.Toml — the TOML syntax

A document is a sequence of lines: values under keys, and headers that open tables. The open
table stands apart from the document until the next header; then it is put at its place. Nothing
may be defined twice, and a table that was defined one way cannot be extended in another.
-/

namespace Narrative.Toml

open Text

/-! ## Tables -/

/-- How a table came about. -/
inductive Origin where
  /-- As the parent of a table with a header. -/
  | implied
  /-- By its own header. -/
  | header
  /-- By a dotted key. -/
  | dotted
deriving DecidableEq, Repr

/-- What stands under a key. -/
inductive Node where
  | value (datum : Datum)
  | table (origin : Origin) (entries : List (String × Node))
  /-- The tables of one repeated header. -/
  | tables (elements : List (Origin × List (String × Node)))
deriving Inhabited

/-- A table under construction. -/
abbrev Table := Origin × List (String × Node)

mutual

def Node.datum : Node → Datum
  | .value datum => datum
  | .table _ entries => .object (entryData entries)
  | .tables elements => .list (elementData elements)

/-- The data of the entries of a table. -/
def entryData : List (String × Node) → List (String × Datum)
  | [] => []
  | (name, node) :: rest => (name, node.datum) :: entryData rest

def elementData : List (Origin × List (String × Node)) → List Datum
  | [] => []
  | (_, entries) :: rest => .object (entryData entries) :: elementData rest

end

/-- Puts a node under a name, in place of the one that was there or behind the others. -/
def put (name : String) (node : Node) : List (String × Node) → List (String × Node)
  | [] => [(name, node)]
  | (other, kept) :: rest =>
    if other = name then (name, node) :: rest else (other, kept) :: put name node rest

/-- Changes the table at the end of a path. Missing tables on the way are made; of tables under a
repeated header the last one is meant. A dotted key leads through these, but not through a table
with a header that stands once. -/
def change (dotted : Bool) (f : Table → Option Table) : List String → Table → Option Table
  | [], table => f table
  | name :: path, (origin, entries) =>
    match entries.lookup name with
    | none => do
      let made ← change dotted f path (if dotted then .dotted else .implied, [])
      return (origin, put name (.table made.1 made.2) entries)
    | some (.table inner found) =>
      -- a table with a header of its own is not open to dotted keys
      if dotted && inner == .header then none
      else do
        let changed ← change dotted f path (inner, found)
        return (origin, put name (.table changed.1 changed.2) entries)
    | some (.tables elements) =>
      -- a path through repeated tables means the last of them
      match elements.reverse with
      | [] => none
      | last :: before => do
        let changed ← change dotted f path last
        return (origin, put name (.tables ((changed :: before).reverse)) entries)
    | some (.value _) => none

/-- Puts a value under a key that must be new. A dotted key only adds to tables made by dotted
keys, and a plain key not to those. -/
def define (path : List String) (datum : Datum) (table : Table) : Option Table :=
  match path.reverse with
  | [] => none
  | name :: parents =>
    change true (fun (origin, entries) =>
      if (origin == .dotted) == parents.isEmpty then none
      else if (entries.lookup name).isSome then none
      else some (origin, entries ++ [(name, .value datum)])) parents.reverse table

/-! ## Lexical rules -/

/-- Blanks within a line. -/
def isInlineBlank (c : Char) : Bool := c == ' ' || c == '\t'

def skipBlanks : Scanner Unit := Scanner.skipWhile isInlineBlank

/-- Whether a character may not stand in texts and comments. -/
def isControl (c : Char) : Bool := (c < ' ' && c != '\t') || c == '\x7f'

/-- Skips a comment, if one is next. -/
def skipComment : Scanner Unit := do
  if ← Scanner.accept "#" then Scanner.skipWhile (!isControl ·)

/-- Takes the end of a line, if it is next. -/
def acceptNewline : Scanner Bool := do
  if ← Scanner.accept "\n" then return true else Scanner.accept "\r\n"

/-- Skips blanks, comments and line ends. The fuel is the length of the text. -/
def skipLines : Nat → Scanner Unit
  | 0 => pure ()
  | fuel + 1 => do
    skipBlanks
    skipComment
    if ← acceptNewline then skipLines fuel

/-- The character that an escape stands for, behind its backslash. -/
def escape : Scanner Char := do
  match ← Scanner.next with
  | 'b' => return '\x08'
  | 't' => return '\t'
  | 'n' => return '\n'
  | 'f' => return '\x0c'
  | 'r' => return '\r'
  | '"' => return '"'
  | '\\' => return '\\'
  | 'u' => coded 4
  | 'U' => coded 8
  | _ => Scanner.refuse
where
  /-- The character with a code of that many digits. -/
  coded (count : Nat) : Scanner Char := do
    match charOf? (← Scanner.hexDigits count 0) with
    | some c => return c
    | none => Scanner.refuse

/-- A text on one line, behind its opening double quote. -/
def basicText : Nat → Scanner (List Char)
  | 0 => Scanner.refuse
  | fuel + 1 => do
    let c ← Scanner.next
    if c == '"' then return []
    else if c == '\\' then return (← escape) :: (← basicText fuel)
    else if isControl c then Scanner.refuse
    else return c :: (← basicText fuel)

/-- A text without escapes on one line, behind its opening single quote. -/
def literalText : Scanner (List Char) := do
  let content ← Scanner.takeWhile fun c => c != '\'' && !isControl c
  Scanner.expect "'"
  return content

/-- The end of a text over several lines: three quotes, with up to two more that belong to it. -/
def closing (quote : String) : Scanner (List Char) := do
  Scanner.expect (quote ++ quote ++ quote)
  if ← Scanner.accept (quote ++ quote) then return (quote ++ quote).toList
  else if ← Scanner.accept quote then return quote.toList
  else return []

/-- What follows the blanks and line ends at the front. -/
def dropBlankLines : List Char → List Char
  | '\r' :: '\n' :: cs => dropBlankLines cs
  | c :: cs => if isInlineBlank c || c == '\n' then dropBlankLines cs else c :: cs
  | [] => []

/-- A text over several lines, behind its opening quotes. Only double quotes know escapes, and a
backslash at the end of a line joins it to the next text. -/
def longText (quote : Char) : Nat → Scanner (List Char)
  | 0 => Scanner.refuse
  | fuel + 1 => do
    if ← Scanner.isNext (String.ofList [quote, quote, quote]) then
      closing (String.singleton quote)
    else if ← Scanner.accept "\r\n" then return '\n' :: (← longText quote fuel)
    else
      let c ← Scanner.next
      if c == '\\' && quote == '"' then
        let rest ← get
        -- a backslash at the end of a line takes away the break and all blanks behind it
        let behind := rest.dropWhile isInlineBlank
        if behind.head? == some '\n' || "\r\n".toList.isPrefixOf behind then
          set (dropBlankLines behind)
          longText quote fuel
        else return (← escape) :: (← longText quote fuel)
      else if isControl c && c != '\n' then Scanner.refuse
      else return c :: (← longText quote fuel)

/-- Reads a quoted text of any of the four kinds. -/
def quotedText : Scanner String := do
  let fuel := (← get).length + 1
  if ← Scanner.accept "\"\"\"" then
    -- the line break right behind the opening quotes is not part of the text
    let _ ← acceptNewline
    return String.ofList (← longText '"' fuel)
  else if ← Scanner.accept "'''" then
    let _ ← acceptNewline
    return String.ofList (← longText '\'' fuel)
  else if ← Scanner.accept "\"" then return String.ofList (← basicText fuel)
  else
    Scanner.expect "'"
    return String.ofList (← literalText)

/-- The characters of bare keys. -/
def isKeyChar (c : Char) : Bool := c.isAlphanum || c == '_' || c == '-'

/-- Reads one part of a key. -/
def simpleKey : Scanner String := do
  match ← Scanner.peek? with
  | some '"' => do
    Scanner.expect "\""
    return String.ofList (← basicText ((← get).length + 1))
  | some '\'' => do
    Scanner.expect "'"
    return String.ofList (← literalText)
  | _ => do
    let name ← Scanner.takeWhile isKeyChar
    if name.isEmpty then Scanner.refuse else return String.ofList name

/-- How deep lists and tables may nest within a value, and how many parts a key may have. -/
def depthLimit : Nat := 79

/-- Reads a key of no more parts than there is room for, with points between them. -/
def keyParts : Nat → Scanner (List String)
  | 0 => Scanner.refuse
  | room + 1 => do
    skipBlanks
    let name ← simpleKey
    skipBlanks
    if ← Scanner.accept "." then return name :: (← keyParts room) else return [name]

def key : Scanner (List String) := keyParts depthLimit

/-! ## Numbers, truth values and dates -/

/-- Removes the underscores of a number, each of which stands between two digits. -/
def ungroup (isDigit : Char → Bool) (cs : List Char) : Option (List Char) :=
  let groups := Text.splitAt (· == '_') cs
  if groups.all fun group => !group.isEmpty && group.all isDigit then some groups.flatten else none

/-- Decimal digits without a leading zero. -/
def wholeDigits? (cs : List Char) : Option (List Char) := do
  let digits ← ungroup (·.isDigit) cs
  if digits.length > 1 ∧ digits.head? = some '0' then none else return digits

/-- A whole number of 64 bits with a sign. -/
def ofInt? (n : Int) : Option Datum :=
  if Int64.minValue.toInt ≤ n ∧ n ≤ Int64.maxValue.toInt then some (.int n) else none

/-- A whole number in another base. -/
def based? (isDigit : Char → Bool) (base : Nat) (cs : List Char) : Option Datum := do
  let digits ← ungroup isDigit cs
  let worth (c : Char) : Nat :=
    if c.isDigit then c.toNat - '0'.toNat else c.toLower.toNat - 'a'.toNat + 10
  ofInt? (digits.foldl (fun n c => base * n + worth c) 0)

/-- The exponent behind its mark. -/
def shift? : List Char → Option Int
  | '-' :: cs => (ungroup (·.isDigit) cs).map fun digits => -(ofDigits digits : Int)
  | '+' :: cs => (ungroup (·.isDigit) cs).map fun digits => (ofDigits digits : Int)
  | cs => (ungroup (·.isDigit) cs).map fun digits => (ofDigits digits : Int)

/-- A decimal number without its sign: a whole number, or one with a fraction or an exponent. -/
def decimal? (negative : Bool) (cs : List Char) : Option Datum := do
  let mantissa := cs.takeWhile fun c => c != 'e' && c != 'E'
  let whole ← wholeDigits? (mantissa.takeWhile (· != '.'))
  let fraction ← match mantissa.dropWhile (· != '.') with
    | [] => some []
    | _ :: digits => ungroup (·.isDigit) digits
  let exponent ← match cs.dropWhile fun c => c != 'e' && c != 'E' with
    | [] => some 0
    | _ :: shift => shift? shift
  -- digits alone are a whole number
  if cs.all fun c => c.isDigit || c == '_' then
    ofInt? (if negative then -(ofDigits whole) else ofDigits whole)
  else
    let x := Decimal.toFloat ⟨ofDigits (whole ++ fraction), exponent - fraction.length⟩
    let x := if negative then -x else x
    -- a number too large is refused, though not if it is negative
    if x.isInf && !negative then none else return .float x

/-- The value of a number or a truth value. -/
def scalar? (cs : List Char) : Option Datum :=
  match cs with
  | '+' :: rest => signed false rest
  | '-' :: rest => signed true rest
  | '0' :: 'x' :: rest => based? isHex 16 rest
  | '0' :: 'o' :: rest => based? (fun c => '0' ≤ c && c ≤ '7') 8 rest
  | '0' :: 'b' :: rest => based? (fun c => c == '0' || c == '1') 2 rest
  | _ =>
    -- none of the words begins like a number
    if cs = "true".toList then some (.bool true)
    else if cs = "false".toList then some (.bool false)
    else signed false cs
where
  /-- Hexadecimal digits. -/
  isHex (c : Char) : Bool := c.isDigit || ('a' ≤ c && c ≤ 'f') || ('A' ≤ c && c ≤ 'F')
  /-- A number behind its sign. -/
  signed (negative : Bool) (rest : List Char) : Option Datum :=
    if rest = "inf".toList then some (.float (if negative then -1 / 0 else 1 / 0))
    else if rest = "nan".toList then some (.float (0 / 0))
    else decimal? negative rest

/-- The characters of numbers and truth values. -/
def isScalarChar (c : Char) : Bool :=
  c.isAlphanum || c == '_' || c == '+' || c == '-' || c == '.'

/-- The name under which a date or time stands in the table that it is read as. -/
def momentField : String := "$__toml_private_datetime"

/-- Reads a number, a truth value, or a date or time. -/
def scalar : Scanner Datum := do
  if Moment.isNext (← get) then return .object [(momentField, .text (← Moment.moment))]
  else
    match scalar? (← Scanner.takeWhile isScalarChar) with
    | some datum => return datum
    | none => Scanner.refuse

/-! ## Values and lines -/

mutual

/-- Reads a value with room for this many levels of lists and tables. The fuel bounds the
recursion; each value takes at least one character. -/
def value : Nat → Nat → Scanner Datum
  | 0, _ => Scanner.refuse
  | fuel + 1, room => do
    match ← Scanner.peek?, room with
    | some '"', _ | some '\'', _ => return .text (← quotedText)
    -- there is no room for another level
    | some '[', 0 | some '\x7b', 0 => Scanner.refuse
    | some '[', room + 1 => do
      Scanner.expect "["
      return .list (← items fuel room)
    | some '\x7b', room + 1 => do
      Scanner.expect "\x7b"
      skipBlanks
      if ← Scanner.accept "\x7d" then return .object []
      let (_, entries) ← fields fuel room (.implied, [])
      return .object (entryData entries)
    | _, _ => scalar

/-- Reads items up to the closing bracket. They may stand on several lines. -/
def items : Nat → Nat → Scanner (List Datum)
  | 0, _ => Scanner.refuse
  | fuel + 1, room => do
    skipLines (← get).length
    if ← Scanner.accept "]" then return []
    let item ← value fuel room
    skipLines (← get).length
    -- a comma may stand behind the last item
    if ← Scanner.accept "]" then return [item]
    Scanner.expect ","
    return item :: (← items fuel room)

/-- Reads keys with values up to the closing brace, all on one line. -/
def fields : Nat → Nat → Table → Scanner Table
  | 0, _, _ => Scanner.refuse
  | fuel + 1, room, table => do
    let path ← key
    Scanner.expect "="
    skipBlanks
    let datum ← value fuel room
    skipBlanks
    match define path datum table with
    | none => Scanner.refuse
    | some table =>
      if ← Scanner.accept "\x7d" then return table
      Scanner.expect ","
      fields fuel room table

end

/-- A document being read: the tables put at their places, and the open one with its path. -/
structure Draft where
  root : Table := (.header, [])
  path : List String := []
  repeated : Bool := false
  table : Table := (.header, [])

namespace Draft

/-- Puts the open table at its place. -/
def close (draft : Draft) : Option Table :=
  match draft.path.reverse with
  | [] => some draft.table
  | name :: parents =>
    change false (fun (origin, entries) =>
      match draft.repeated, entries.lookup name with
      | true, none => some (origin, entries ++ [(name, .tables [draft.table])])
      | true, some (.tables elements) =>
        some (origin, put name (.tables (elements ++ [draft.table])) entries)
      | false, none => some (origin, entries ++ [(name, .table draft.table.1 draft.table.2)])
      -- what stands there is of another kind, or there already
      | _, _ => none) parents.reverse draft.root

/-- Opens the table of a header. One that only stands there as a parent is taken up again. -/
def openTable (draft : Draft) (path : List String) : Option Draft := do
  let root ← draft.close
  let (name, parents) ← match path.reverse with
    | [] => none
    | name :: parents => some (name, parents.reverse)
  let entries ← entriesAt parents root
  match entries.lookup name with
  | none => return { root, path, table := (.header, []) }
  -- a table that was only passed through gets its header now, with what it holds already
  | some (.table .implied found) => do
    let root ← change false (fun (origin, entries) =>
      some (origin, entries.filter (·.1 != name))) parents root
    return { root, path, table := (.header, found) }
  | some _ => none
where
  /-- The entries of the table at the end of a path; a missing one has none. -/
  entriesAt : List String → Table → Option (List (String × Node))
    | [], (_, entries) => some entries
    | name :: path, (_, entries) =>
      match entries.lookup name with
      | none => some []
      | some (.table origin found) => entriesAt path (origin, found)
      | some (.tables elements) => elements.getLast?.bind (entriesAt path)
      | some (.value _) => none

/-- Opens a further table of a repeated header. -/
def openRepeated (draft : Draft) (path : List String) : Option Draft := do
  let root ← draft.close
  let (name, parents) ← match path.reverse with
    | [] => none
    | name :: parents => some (name, parents.reverse)
  let root ← change false (fun (origin, entries) =>
    match entries.lookup name with
    -- the list is made here, so that its place among the entries is the first header's
    | none => some (origin, entries ++ [(name, .tables [])])
    | some (.tables _) => some (origin, entries)
    | some _ => none) parents root
  return { root, path, repeated := true, table := (.header, []) }

end Draft

/-- Reads on with one line: a header, or a value under a key. -/
def line (draft : Draft) : Scanner Draft := do
  if ← Scanner.accept "[[" then
    let path ← key
    Scanner.expect "]]"
    ofOption (draft.openRepeated path)
  else if ← Scanner.accept "[" then
    let path ← key
    Scanner.expect "]"
    ofOption (draft.openTable path)
  else
    let path ← key
    Scanner.expect "="
    skipBlanks
    let datum ← value ((← get).length + 1) depthLimit
    match define path datum draft.table with
    | none => Scanner.refuse
    | some table => return { draft with table }
where
  /-- A result that has to be there. -/
  ofOption (result : Option Draft) : Scanner Draft :=
    match result with
    | some draft => pure draft
    | none => Scanner.refuse

/-- Reads lines up to the end of the text. -/
def lines : Nat → Draft → Scanner Draft
  | 0, _ => Scanner.refuse
  | fuel + 1, draft => do
    skipLines (← get).length
    if ← Scanner.atEnd then return draft
    let draft ← line draft
    -- behind an entry or a header the line has to end
    skipBlanks
    skipComment
    if ← Scanner.atEnd then return draft
    else if ← acceptNewline then lines fuel draft
    else Scanner.refuse

/-- Reads a TOML document. A byte order mark in front of it is skipped. -/
def read? (text : String) : Option Datum := do
  let cs := match text.toList with
    | '\ufeff' :: rest => rest
    | cs => cs
  let draft ← Scanner.readAll (lines (cs.length + 1) {}) cs
  let (_, entries) ← draft.close
  return .object (entryData entries)

end Narrative.Toml
