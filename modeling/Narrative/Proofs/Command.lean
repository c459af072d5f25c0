import Narrative.Proofs.Phrase

/-!
# Commands as they are printed

A command is printed as its verb and its fields: texts in quotes, amounts in decimal digits,
operators by their symbols. What is printed is read back, and nothing that is read is beyond what
can be printed.

* **`Phrase.command_fields`** — the words of its fields are the arguments of a command.
* **`Command.parse_print`** — a command is read as it is printed.
* **`Phrase.quotable_of_command`** — the texts of a command come of its arguments, so they have no
  quotes.
-/

namespace Narrative

namespace Command

/-- What a command is made of behind its verb. -/
inductive Field where
  | text (text : String)
  | amount (amount : Amount)
  | operator (assignment : Assignment)

namespace Field

/-- The word that is read as the field. -/
def word : Field → String
  | .text content => content
  | .amount held => toString held.toNat
  | .operator assignment => assignment.symbol

/-- How the field is printed. -/
def printed : Field → String
  | .text content => "\"" ++ content ++ "\""
  | field => field.word

/-- Whether the field can stand in quotes, if it has to. -/
def Quotable : Field → Prop
  | .text content => '"' ∉ content.toList
  | _ => True

end Field

/-- The fields of a command in their order. -/
def fields : Command → List Field
  | .jump text | .relay text | .message text | .unlock text | .lock text => [.text text]
  | .give item amount | .consume item amount => [.text item, .amount amount]
  | .set name assignment expression => [.text name, .operator assignment, .text expression]
  | .exit => []
  | .next offset => [.amount offset]

/-- The command as a source. -/
def print (command : Command) : String :=
  " ".intercalate (command.verb.keyword :: command.fields.map Field.printed)

/-- No text in the command has a quote in it. -/
def Quotable (command : Command) : Prop := ∀ field ∈ command.fields, field.Quotable

end Command

/-! ## From the command to its words -/

/-- A verb is found under its keyword. -/
theorem Verb.ofKeyword?_keyword (verb : Verb) : Verb.ofKeyword? verb.keyword = some verb := by
  cases verb <;> decide

/-- The keywords need no quotes. -/
theorem Verb.isBareWord_keyword (verb : Verb) : Phrase.IsBareWord verb.keyword := by
  cases verb <;> decide +kernel

/-- An assignment is found under its symbol. -/
theorem Assignment.ofSymbol?_symbol (assignment : Assignment) :
    Assignment.ofSymbol? assignment.symbol = some assignment := by
  cases assignment <;> decide

/-- The symbols of the assignments need no quotes. -/
theorem Assignment.isBareWord_symbol (assignment : Assignment) :
    Phrase.IsBareWord assignment.symbol := by
  cases assignment <;> decide +kernel

/-- Digits are characters of bare words. -/
theorem Phrase.isBareWord_toString (n : Nat) : Phrase.IsBareWord (toString n) := by
  have hdigits : (toString n).toList = Nat.toDigits 10 n := by
    rw [Nat.toString_eq_ofList_toDigits, String.toList_ofList]
  have hbare : ∀ c ∈ Nat.toDigits 10 n, Phrase.isBare c = true := by
    intro c hc
    have hdigit := Text.isDigit_of_mem_toDigits n c hc
    have hquote : c ≠ '"' := by
      rintro rfl
      nomatch hdigit
    exact Phrase.isBare_iff.mpr ⟨Text.isBlank_of_isDigit hdigit, hquote⟩
  -- a number is no empty word, and its digits are neither blanks nor quotes
  constructor
  · intro hempty
    rw [hempty] at hdigits
    exact Nat.toDigits_ne_nil hdigits.symm
  · rw [hdigits, List.all_eq_true]
    exact hbare

/-- An amount is read as it is printed. -/
theorem Amount.read?_toString (amount : Amount) :
    Amount.read? (toString amount.toNat) = some amount := by
  rw [Amount.read?, Nat.toString_eq_ofList_toDigits, String.toList_ofList,
    Text.readBelow?_toDigits amount.toNat_lt, Option.map_some, UInt32.ofNat_toNat]

/-- An amount is read back from its decimal digits. -/
theorem Phrase.amountOrOne_of_getElem? {verb : Verb} {arguments : List String} {index : Nat}
    {amount : Amount} (h : arguments[index]? = some (toString amount.toNat)) :
    Phrase.amountOrOne verb arguments index = .ok amount := by
  rw [Phrase.amountOrOne, h]
  dsimp only
  rw [Amount.read?_toString]

/-- An assignment is read from the second argument. -/
theorem Phrase.assignment_of_getElem? {arguments : List String} {assignment : Assignment}
    (h : arguments[1]? = some assignment.symbol) :
    Phrase.assignment arguments = .ok assignment := by
  have hrequired : Phrase.required .set .operator arguments 1 = .ok assignment.symbol := by
    rw [Phrase.required, h]
  simp only [Phrase.assignment, hrequired, bind, Except.bind, Assignment.ofSymbol?_symbol]
  rfl

/-- **The words of its fields are the arguments of a command.** -/
theorem Phrase.command_fields (command : Command) :
    Phrase.command command.verb (command.fields.map Command.Field.word) = .ok command := by
  cases command with
  | jump | relay | unlock | lock | exit => rfl
  | message text => rfl
  | give item amount =>
      -- the verbs with an amount print it even where it is one, so it is read and not assumed
      have hread : Phrase.amountOrOne .give [item, toString amount.toNat] 1 = .ok amount :=
        Phrase.amountOrOne_of_getElem? rfl
      exact congrArg (fun read => Command.give item <$> read) hread
  | consume item amount =>
      have hread : Phrase.amountOrOne .consume [item, toString amount.toNat] 1 = .ok amount :=
        Phrase.amountOrOne_of_getElem? rfl
      exact congrArg (fun read => Command.consume item <$> read) hread
  | set name assignment expression =>
      have hread : Phrase.assignment [name, assignment.symbol, expression] = .ok assignment :=
        Phrase.assignment_of_getElem? rfl
      exact congrArg (fun read => (Command.set name · expression) <$> read) hread
  | next offset =>
      have hread : Phrase.amountOrOne .next [toString offset.toNat] 0 = .ok offset :=
        Phrase.amountOrOne_of_getElem? rfl
      exact congrArg (fun read => Command.next <$> read) hread

/-! ## From the words to a command -/

/-- What a sequence comes to that goes well, it comes to behind a first part that goes well. -/
theorem exists_ok_of_bind_eq_ok {ε α β : Type} {first : Except ε α} {next : α → Except ε β}
    {value : β} (h : first >>= next = .ok value) :
    ∃ found, first = .ok found ∧ next found = .ok value := by
  cases first with
  | error error => nomatch h
  | ok found => exact ⟨found, rfl, h⟩

namespace Phrase

variable {verb : Verb} {parameter : Parameter} {arguments : List String} {index : Nat}
  {text : String} {command : Command}

/-- The characters of a joined line are those of its words, and spaces. -/
theorem quote_notMem_intercalate : ∀ {words : List String}, (∀ word ∈ words, '"' ∉ word.toList) →
    '"' ∉ (" ".intercalate words).toList
  | [], _ => List.not_mem_nil
  | [word], h => by
      rw [String.intercalate_singleton]
      exact h word List.mem_cons_self
  | word :: next :: rest, h => by
      obtain ⟨hword, hrest⟩ := List.forall_mem_cons.mp h
      have hspace : '"' ∉ " ".toList := by decide
      rw [String.intercalate_cons_cons, String.toList_append, String.toList_append,
        List.mem_append, List.mem_append]
      rintro ((hmem | hmem) | hmem)
      · exact hword hmem
      · exact hspace hmem
      · exact quote_notMem_intercalate hrest hmem

/-- An argument that is required is taken as it stands. -/
theorem mem_of_required (h : required verb parameter arguments index = .ok text) :
    text ∈ arguments := by
  rw [required] at h
  cases hargument : arguments[index]? with
  | none =>
      rw [hargument] at h
      nomatch h
  | some argument =>
      rw [hargument] at h
      obtain rfl := Except.ok.inj h
      exact List.mem_of_getElem? hargument

section

variable (harguments : ∀ argument ∈ arguments, '"' ∉ argument.toList)
include harguments

/-- The rest of a line is its words and the spaces between them. -/
theorem quote_notMem_of_remainder (h : remainder verb parameter arguments index = .ok text) :
    '"' ∉ text.toList := by
  obtain ⟨-, -, hjoined⟩ := exists_ok_of_bind_eq_ok h
  obtain rfl := Except.ok.inj hjoined
  exact quote_notMem_intercalate fun argument hargument =>
    harguments argument (List.mem_of_mem_drop hargument)

/-- **The texts of a command come of its arguments**, so they have no quotes either. -/
theorem quotable_of_command (h : Phrase.command verb arguments = .ok command) :
    command.Quotable := by
  cases verb with
  | jump | relay | unlock | lock =>
      obtain ⟨name, hname, hcommand⟩ := exists_ok_of_bind_eq_ok h
      obtain rfl := Except.ok.inj hcommand
      exact List.forall_mem_singleton.mpr (harguments name (mem_of_required hname))
  | message =>
      -- the remainder of a line is joined again from the words, so it has no quote either
      obtain ⟨text, htext, hcommand⟩ := exists_ok_of_bind_eq_ok h
      obtain rfl := Except.ok.inj hcommand
      exact List.forall_mem_singleton.mpr (quote_notMem_of_remainder harguments htext)
  | give | consume =>
      obtain ⟨item, hitem, hrest⟩ := exists_ok_of_bind_eq_ok h
      obtain ⟨amount, -, hcommand⟩ := exists_ok_of_bind_eq_ok hrest
      obtain rfl := Except.ok.inj hcommand
      exact List.forall_mem_cons.mpr ⟨harguments item (mem_of_required hitem),
        List.forall_mem_singleton.mpr trivial⟩
  | set =>
      obtain ⟨name, hname, hrest⟩ := exists_ok_of_bind_eq_ok h
      obtain ⟨assignment, -, hrest⟩ := exists_ok_of_bind_eq_ok hrest
      obtain ⟨expression, hexpression, hcommand⟩ := exists_ok_of_bind_eq_ok hrest
      obtain rfl := Except.ok.inj hcommand
      exact List.forall_mem_cons.mpr ⟨harguments name (mem_of_required hname),
        List.forall_mem_cons.mpr ⟨trivial,
          List.forall_mem_singleton.mpr (quote_notMem_of_remainder harguments hexpression)⟩⟩
  | exit =>
      obtain rfl := Except.ok.inj h
      exact fun field hfield => nomatch hfield
  | next =>
      obtain ⟨offset, -, hcommand⟩ := exists_ok_of_bind_eq_ok h
      obtain rfl := Except.ok.inj hcommand
      exact List.forall_mem_singleton.mpr trivial

end

end Phrase

/-! ## Commands -/

namespace Command

variable {command : Command} {source : String}

/-- A field is printed in one of the forms of its word. -/
theorem Field.form {field : Field} (h : field.Quotable) :
    Phrase.Form field.word.toList field.printed.toList := by
  cases field with
  | text content =>
      have hprinted : (Field.text content).printed.toList =
          '"' :: (content.toList ++ ['"']) := by
        simp [Field.printed]
      rw [hprinted]
      exact .quoted h
  | amount held => exact (Phrase.isBareWord_toString held.toNat).form
  | operator assignment => exact assignment.isBareWord_symbol.form

/-- A command is read as the verb and the words that it is printed from. -/
theorem read?_print (h : command.Quotable) :
    Phrase.read? command.print =
      some ⟨command.verb.keyword, command.fields.map Field.word⟩ := by
  have hforms : List.Forall₂ Phrase.Form ((command.fields.map Field.word).map String.toList)
      ((command.fields.map Field.printed).map String.toList) := by
    rw [List.map_map, List.map_map, List.forall₂_map_left_iff, List.forall₂_map_right_iff,
      List.forall₂_same]
    exact fun field hfield => Field.form (h field hfield)
  refine Phrase.read?_of_written ?_
  rw [print, String.toList_intercalate]
  exact Phrase.written_intercalate command.verb.isBareWord_keyword.form hforms

/-- **A command is read as it is printed.** -/
theorem parse_print (h : command.Quotable) : parse command.print = .ok command := by
  rw [parse, read?_print h]
  simp only [Phrase.toCommand, Verb.ofKeyword?_keyword, Phrase.command_fields]

/-- **Whatever is read can be printed.** -/
theorem quotable_of_parse (h : parse source = .ok command) : command.Quotable := by
  rw [parse] at h
  cases hread : Phrase.read? source with
  | none =>
      rw [hread] at h
      cases h
  | some phrase =>
      rw [hread] at h
      cases hverb : Verb.ofKeyword? phrase.verb with
      | none =>
          simp only [Phrase.toCommand, hverb] at h
          cases h
      | some verb =>
          simp only [Phrase.toCommand, hverb] at h
          exact Phrase.quotable_of_command (Phrase.quote_notMem_arguments hread) h

end Command

/-- **Commands survive printing and parsing.** Words without quotes are read as they are written,
each in quotes or bare, with white space between them. A command whose texts have no quotes is read
as it is printed. And whatever is read is such a command, so it is read again as it is printed. -/
theorem commands_survive_printing :
    (∀ (verb : String) (arguments : List String) (source : String),
      Phrase.Written ((verb :: arguments).map String.toList) source.toList →
        Phrase.read? source = some ⟨verb, arguments⟩) ∧
    (∀ command : Command, command.Quotable → Command.parse command.print = .ok command) ∧
    ∀ (source : String) (command : Command), Command.parse source = .ok command →
      command.Quotable ∧ Command.parse command.print = .ok command := by
  refine ⟨fun _ _ _ hwritten => Phrase.read?_of_written hwritten,
    fun _ hquotable => Command.parse_print hquotable, fun _ _ hparse => ?_⟩
  have hquotable := Command.quotable_of_parse hparse
  exact ⟨hquotable, Command.parse_print hquotable⟩

/-- A message of a quoted and a bare word that touch each other, with a quote behind them that is
never closed. -/
theorem message_survives_printing :
    Phrase.Written (["give", "gold coin", "3"].map String.toList)
        "give \"gold coin\" \t3".toList ∧
      Phrase.read? "give \"gold coin\" \t3" = some ⟨"give", ["gold coin", "3"]⟩ ∧
      Command.parse "message \"two  words\"and more \"" =
        .ok (.message "two  words and more") ∧
      Command.parse "message \"two  words and more\"" = .ok (.message "two  words and more") := by
  -- the first word is bare, the second in quotes, the third bare again
  have hforms : Phrase.Written (["give", "gold coin", "3"].map String.toList)
      ("give".toList ++ ([' '] ++
        ('"' :: ("gold coin".toList ++ ['"']) ++ ([' ', '\t'] ++ "3".toList)))) :=
    .cons (.bare (by decide) (by decide +kernel)) (by decide) (List.forall_mem_singleton.mpr rfl)
      (.cons (.quoted (by decide)) (by decide) (List.all_eq_true.mp (by decide +kernel))
        (.single (.bare (by decide) (by decide +kernel))))
  have hwritten : Phrase.Written (["give", "gold coin", "3"].map String.toList)
      "give \"gold coin\" \t3".toList := hforms
  have hparse : Command.parse "message \"two  words\"and more \"" =
      .ok (.message "two  words and more") := by cbv
  obtain ⟨hread, -, hprint⟩ := commands_survive_printing
  exact ⟨hwritten, hread _ _ _ hwritten, hparse, (hprint _ _ hparse).2⟩

end Narrative
