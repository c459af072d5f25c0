import Narrative.Proofs.Command
import Narrative.Proofs.Expr.Parsing
import Narrative.Session.Script

/-!
# The expression of an assignment

A command is cut into words wherever white space stands, also in the middle of a literal text, and
an assignment joins the words of its expression by single spaces. As long as the white space within
the literal texts is single spaces, that changes nothing that an expression says.

* **`Phrase.Even.joinedBehind_append`** — joining keeps a run of characters in which white space is
  single spaces, and goes on behind it.
* **`Spelled.joined`** — joining the words of a spelling spells the same tokens.
* **`set_keeps_its_expression`** — the expression of an assignment is parsed as it was written.
-/

namespace Narrative

namespace Phrase

variable {c : Char} {cs run : List Char}

/-! ## Joining words -/

/-- The words of a text with single spaces between them. -/
def joined (cs : List Char) : List Char := [' '].intercalate (words cs)

/-- What joining leaves of a text behind some word: there is a space in front, if the word has
ended and others follow. -/
def joinedBehind (cs : List Char) : List Char :=
  if cs.takeWhile isBare = [] ∧ words cs ≠ [] then ' ' :: joined cs else joined cs

/-- What stands behind a word are the other words, in front of them perhaps a space. -/
theorem joinedBehind_eq_or (cs : List Char) :
    joinedBehind cs = joined cs ∨ joinedBehind cs = ' ' :: joined cs := by
  rw [joinedBehind]
  split
  · exact .inr rfl
  · exact .inl rfl

/-- A text without a word joins to nothing. -/
theorem joined_eq_nil (h : words cs = []) : joined cs = [] := by
  rw [joined, h, List.intercalate_nil]

/-- No space is put in front of a character that goes on with the word. -/
theorem joinedBehind_cons_of_bare (hc : isBare c = true) :
    joinedBehind (c :: cs) = joined (c :: cs) := by
  rw [joinedBehind, List.takeWhile_cons_of_pos hc]
  exact if_neg fun h => nomatch h.1

/-- **Joining goes on behind a character of a bare word.** -/
theorem joined_cons_of_bare (hc : isBare c = true) : joined (c :: cs) = c :: joinedBehind cs := by
  by_cases hend : cs.takeWhile isBare = []
  · -- the word ends here, and the others are those of the rest
    have hall : [c].all isBare = true := List.all_eq_true.mpr (List.forall_mem_singleton.mpr hc)
    have hwords : words ([c] ++ cs) = [c] :: words cs :=
      words_append (List.cons_ne_nil c []) hall hend
    rw [List.singleton_append] at hwords
    rw [joined, hwords, joinedBehind]
    by_cases hnone : words cs = []
    · rw [if_neg fun h => h.2 hnone, joined_eq_nil hnone, hnone, List.intercalate_singleton]
    · rw [if_pos ⟨hend, hnone⟩, List.intercalate_cons_of_ne_nil hnone]
      rfl
  · -- the word goes on, and what is left of it is the first word of the rest
    cases cs with
    | nil => exact absurd rfl hend
    | cons d cs =>
        have hd : isBare d = true := by
          by_contra hno
          exact hend (List.takeWhile_cons_of_neg hno)
        rw [joinedBehind_cons_of_bare hd, joined, joined, words_cons_of_bare hc,
          words_cons_of_bare hd, List.takeWhile_cons_of_pos hd, List.dropWhile_cons_of_pos hd,
          List.intercalate_cons_cons_left]

/-- A run of characters in which white space is single spaces, each in front of a character of a
bare word. -/
inductive Even : List Char → Prop
  | nil : Even []
  | bare {c : Char} {cs : List Char} (hc : isBare c = true) (h : Even cs) : Even (c :: cs)
  | space {c : Char} {cs : List Char} (hc : isBare c = true) (h : Even (c :: cs)) :
      Even (' ' :: c :: cs)

/-- **Joining keeps such a run** and goes on behind it. -/
theorem Even.joinedBehind_append (h : Even run) (cs : List Char) :
    joinedBehind (run ++ cs) = run ++ joinedBehind cs := by
  induction h with
  | nil => rfl
  | bare hc _ ih =>
      rw [List.cons_append, joinedBehind_cons_of_bare hc, joined_cons_of_bare hc, ih,
        List.cons_append]
  | @space c run hc _ ih =>
      -- a single space stands between two words of the run, so joining puts it back
      have hspace : Text.isBlank ' ' = true := by decide
      have hskip : words (' ' :: (c :: run ++ cs)) = words (c :: run ++ cs) :=
        words_cons_of_blank hspace
      have hsome : words (c :: run ++ cs) ≠ [] := by
        rw [List.cons_append, words_cons_of_bare hc]
        exact List.cons_ne_nil _ _
      have hkept : joinedBehind (' ' :: (c :: run ++ cs)) = ' ' :: joined (c :: run ++ cs) := by
        rw [joinedBehind, joined, hskip]
        exact if_pos ⟨rfl, hsome⟩
      have hbehind : joinedBehind (c :: run ++ cs) = joined (c :: run ++ cs) :=
        joinedBehind_cons_of_bare hc
      rw [List.cons_append, hkept, ← hbehind, ih]
      rfl

/-- A run that starts with a character of a bare word is kept in front, too. -/
theorem Even.joined_append (hc : isBare c = true) (h : Even run) (cs : List Char) :
    joined (c :: run ++ cs) = c :: run ++ joinedBehind cs := by
  rw [List.cons_append, joined_cons_of_bare hc, h.joinedBehind_append, List.cons_append]

/-- A run within one word has no spaces that could be lost. -/
theorem even_of_forall_isBare (h : ∀ c ∈ cs, isBare c = true) : Even cs := by
  induction cs with
  | nil => exact .nil
  | cons c cs ih =>
      obtain ⟨hc, hcs⟩ := List.forall_mem_cons.mp h
      exact .bare hc (ih hcs)

/-- A text without white space and quotes is such a run behind its first character. -/
theorem exists_even (hne : cs ≠ []) (h : ∀ c ∈ cs, isBare c = true) :
    ∃ c run, cs = c :: run ∧ isBare c = true ∧ Even run := by
  obtain ⟨c, run, rfl⟩ := List.exists_cons_of_ne_nil hne
  obtain ⟨hc, hrun⟩ := List.forall_mem_cons.mp h
  exact ⟨c, run, rfl, hc, even_of_forall_isBare hrun⟩

end Phrase

/-- All white space of the text is spaces, no two of them side by side. -/
def Text.SingleSpaced (cs : List Char) : Prop :=
  (∀ c ∈ cs, isBlank c = true → c = ' ') ∧
    cs.IsChain fun c d => isBlank c = false ∨ isBlank d = false

/-- Behind such a text a quote stops it from ending in a space. -/
theorem Text.SingleSpaced.even {cs : List Char} (h : SingleSpaced cs) (hquote : '"' ∉ cs) :
    Phrase.Even (cs ++ ['\'']) := by
  have hmark : Phrase.isBare '\'' = true := by decide +kernel
  induction cs with
  | nil => exact .bare hmark .nil
  | cons c cs ih =>
      obtain ⟨hblanks, hchain⟩ := h
      obtain ⟨hc, hrest⟩ := List.forall_mem_cons.mp hblanks
      obtain ⟨hhead, htail⟩ := List.isChain_cons.mp hchain
      obtain ⟨hcquote, hfree⟩ := not_or.mp (mt List.mem_cons.mpr hquote)
      have hbehind : Phrase.Even (cs ++ ['\'']) := ih ⟨hrest, htail⟩ hfree
      cases hblank : Text.isBlank c with
      | false => exact .bare (Phrase.isBare_iff.mpr ⟨hblank, fun heq => hcquote heq.symm⟩) hbehind
      | true =>
          obtain rfl := hc hblank
          cases cs with
          | nil => exact .space hmark hbehind
          | cons d cs =>
              -- what follows a space is not white space
              have hd : Text.isBlank d = false := by
                rcases hhead d rfl with hno | hd
                · rw [hblank] at hno
                  nomatch hno
                · exact hd
              have hdquote : d ≠ '"' := fun heq => hfree (heq ▸ List.mem_cons_self)
              exact .space (Phrase.isBare_iff.mpr ⟨hd, hdquote⟩) hbehind

/-! ## Tokens -/

/-- The characters of a name need no quotes. -/
theorem Phrase.isBare_of_isWordChar {c : Char} (h : Token.isWordChar c = true) :
    Phrase.isBare c = true := by
  have hquote : c ≠ '"' := by
    rintro rfl
    nomatch h
  rcases Token.isWordChar_iff.mp h with halphanum | rfl
  · exact Phrase.isBare_iff.mpr ⟨Text.isBlank_of_isAlphanum halphanum, hquote⟩
  · decide +kernel

namespace Token

variable {t : Token} {ts : List Token} {lexeme cs : List Char}

/-- The white space within a text is single spaces. -/
def SingleSpaced (t : Token) : Prop := ∀ content, t = .text content → Text.SingleSpaced content

/-- **A token is written without white space, or with single spaces only**, and it starts with
something else. -/
theorem Spelling.exists_even (h : t.Spelling lexeme) (hquote : '"' ∉ lexeme)
    (hspaced : t.SingleSpaced) :
    ∃ c run, lexeme = c :: run ∧ Phrase.isBare c = true ∧ Phrase.Even run := by
  have hword : ∀ {c : Char}, c.isAlphanum = true ∨ c = '_' → Phrase.isBare c = true :=
    fun hc => Phrase.isBare_of_isWordChar (isWordChar_iff.mpr hc)
  have hdigit : ∀ {c : Char}, c.isDigit = true → Phrase.isBare c = true :=
    fun hc => Phrase.isBare_of_isWordChar (isWordChar_of_isDigit hc)
  cases h with
  | word hname => exact Phrase.exists_even hname.1 fun c hc => hword (hname.2 c hc)
  | @decimal whole fraction hwhole hfraction =>
      refine Phrase.exists_even (by simp) (List.forall_mem_append.mpr ⟨?_, ?_⟩)
      · exact fun c hc => hdigit (hwhole.2 c hc)
      · exact List.forall_mem_cons.mpr ⟨by decide +kernel, fun c hc => hdigit (hfraction.2 c hc)⟩
  | @text quote content hmark hfree =>
      -- of the two marks only the single quote can be meant, since the lexeme has no double one
      rcases hmark with rfl | rfl
      · exact absurd List.mem_cons_self hquote
      · have hcontent : '"' ∉ content := fun hmem =>
          hquote (List.mem_cons_of_mem _ (List.mem_append_left _ hmem))
        exact ⟨'\'', content ++ ['\''], rfl, by decide +kernel,
          (hspaced content rfl).even hcontent⟩
  | bang | opening | closing =>
      exact Phrase.exists_even (by decide) (List.all_eq_true.mp (by decide +kernel))
  | operator op =>
      have hall : op.symbol.toList ≠ [] ∧ op.symbol.toList.all Phrase.isBare = true := by
        cases op <;> decide +kernel
      exact Phrase.exists_even hall.1 (List.all_eq_true.mp hall.2)

end Token

/-- **Joining the words of a spelling spells the same tokens.** -/
theorem Spelled.joined {ts : List Token} {cs : List Char} (h : Spelled ts cs) (hquote : '"' ∉ cs)
    (hspaced : ∀ t ∈ ts, t.SingleSpaced) : Spelled ts (Phrase.joined cs) := by
  have hblank {gap : List Char} (hgap : Gap gap) : ∀ c ∈ gap, Text.isBlank c = true := by
    intro c hc
    rcases hgap c hc with rfl | rfl | rfl | rfl <;> decide +kernel
  induction h with
  | @nil gap hgap =>
      have hnone : Phrase.words (gap ++ []) = [] := by
        rw [Phrase.words_blanks_append (hblank hgap), Phrase.words]
      rw [List.append_nil] at hnone
      rw [Phrase.joined_eq_nil hnone]
      exact .nil (List.forall_mem_nil _)
  | @cons t ts gap lexeme cs hgap hlexeme h ih =>
      obtain ⟨hfront, hrest⟩ := not_or.mp (mt List.mem_append.mpr hquote)
      obtain ⟨-, hfree⟩ := not_or.mp (mt List.mem_append.mpr hfront)
      obtain ⟨ht, hts⟩ := List.forall_mem_cons.mp hspaced
      obtain ⟨c, run, rfl, hc, hrun⟩ := hlexeme.exists_even hfree ht
      -- the token is kept, and behind it there may be one space more than in front of the rest
      have hjoined : Phrase.joined (gap ++ (c :: run) ++ cs) =
          c :: run ++ Phrase.joinedBehind cs := by
        rw [List.append_assoc, Phrase.joined, Phrase.words_blanks_append (hblank hgap)]
        exact hrun.joined_append hc cs
      have hbehind : Spelled ts (Phrase.joinedBehind cs) := by
        rcases Phrase.joinedBehind_eq_or cs with heq | heq
        · rw [heq]
          exact ih hrest hts
        · rw [heq]
          exact (ih hrest hts).blank (.inl rfl)
      rw [hjoined]
      exact .cons (List.forall_mem_nil _) hlexeme hbehind

/-! ## Assignments -/

/-- The words of an assignment are its verb, the variable, the operator, and those of the
expression. -/
theorem Phrase.words_assignment {v : String} (hv : Phrase.IsBareWord v) (o : Assignment)
    (source : String) :
    Phrase.words ("set " ++ v ++ " " ++ o.symbol ++ " " ++ source).toList =
      "set".toList :: v.toList :: o.symbol.toList :: Phrase.words source.toList := by
  have hspace : Text.isBlank ' ' = true := by decide
  have hsource : ("set " ++ v ++ " " ++ o.symbol ++ " " ++ source).toList =
      "set".toList ++ ' ' :: (v.toList ++ ' ' :: (o.symbol.toList ++ ' ' :: source.toList)) := by
    simp
  have hset : Phrase.Form "set".toList "set".toList := (Verb.isBareWord_keyword .set).form
  rw [hsource, hset.words_append_cons hspace, hv.form.words_append_cons hspace,
    o.isBareWord_symbol.form.words_append_cons hspace]

/-- The rest of a line is the words of its source, joined. -/
theorem Phrase.remainder_eq_joined {verb : Verb} {parameter : Parameter} {cs : List Char}
    (front : List String) (h : Phrase.words cs ≠ []) :
    Phrase.remainder verb parameter (front ++ (Phrase.words cs).map String.ofList) front.length =
      .ok (String.ofList (Phrase.joined cs)) := by
  -- on characters instead of strings, joining with spaces is what `joined` does
  have htext : " ".intercalate ((Phrase.words cs).map String.ofList) =
      String.ofList (Phrase.joined cs) := by
    have hwords : ((Phrase.words cs).map String.ofList).map String.toList = Phrase.words cs := by
      rw [List.map_map]
      exact List.map_id'' (fun _ => String.toList_ofList) _
    rw [← String.toList_inj, String.toList_intercalate, hwords, joined]
    exact String.toList_ofList.symm
  obtain ⟨word, rest, hwords⟩ := List.exists_cons_of_ne_nil h
  have hthere : Phrase.required verb parameter
      (front ++ (Phrase.words cs).map String.ofList) front.length = .ok (String.ofList word) := by
    rw [required, hwords]
    simp
  rw [remainder, hthere, List.drop_left, htext]
  rfl

/-- **An assignment takes the words of its expression, joined.** -/
theorem Command.parse_set {v : String} (hv : Phrase.IsBareWord v) (o : Assignment)
    {source : String} (h : Phrase.words source.toList ≠ []) :
    Command.parse ("set " ++ v ++ " " ++ o.symbol ++ " " ++ source) =
      .ok (.set v o (String.ofList (Phrase.joined source.toList))) := by
  -- the words in front of the expression are fixed, so the verb and the operator can be read off
  have hread : Phrase.read? ("set " ++ v ++ " " ++ o.symbol ++ " " ++ source) =
      some ⟨"set", [v, o.symbol] ++ (Phrase.words source.toList).map String.ofList⟩ := by
    rw [Phrase.read?, Phrase.words_assignment hv]
    simp
  have hassignment : Phrase.assignment
      ([v, o.symbol] ++ (Phrase.words source.toList).map String.ofList) = .ok o :=
    Phrase.assignment_of_getElem? rfl
  have hremainder : Phrase.remainder .set .expression
      ([v, o.symbol] ++ (Phrase.words source.toList).map String.ofList) 2 =
      .ok (String.ofList (Phrase.joined source.toList)) :=
    Phrase.remainder_eq_joined [v, o.symbol] h
  have hverb : Verb.ofKeyword? "set" = some .set := Verb.ofKeyword?_keyword .set
  rw [Command.parse, hread]
  simp only [Phrase.toCommand, hverb, Phrase.command, hassignment, hremainder]
  rfl

/-- An expression is no blank text. -/
theorem Expr.words_ne_nil {source : String} {ts : List Token} {e : Expr}
    (hwrites : Expr.Writes 0 e ts) (hjoined : Spelled ts (Phrase.joined source.toList)) :
    Phrase.words source.toList ≠ [] := by
  intro hnone
  rw [Phrase.joined_eq_nil hnone] at hjoined
  obtain ⟨t, rest, rfl, -⟩ := hwrites.joined.starts
  have hscan := Token.scan_of_spelled hjoined hwrites.joined.meets
  rw [Token.scan] at hscan
  cases hscan

/-- **An assignment evaluates the expression that was written.** -/
theorem set_keeps_its_expression (v : String) (hv : Phrase.IsBareWord v) (o : Assignment)
    (source : String) (e : Expr) (hparse : Expr.parse source = .ok e)
    (hquote : '"' ∉ source.toList)
    (htexts : ∀ ts, Token.scan source.toList = some ts →
      ∀ content, Token.text content ∈ ts → Text.SingleSpaced content) :
    ∃ expression,
      Command.parse ("set " ++ v ++ " " ++ o.symbol ++ " " ++ source) = .ok (.set v o expression) ∧
      Expr.parse expression = Expr.parse source ∧
      ∀ old, Play.assignedValue old o expression = Play.assignedValue old o source := by
  obtain ⟨ts, hwrites, hspelled⟩ := Expr.parse_eq_ok_iff.mp hparse
  have hscan := Token.scan_of_spelled hspelled hwrites.joined.meets
  have hspaced : ∀ t ∈ ts, t.SingleSpaced := by
    rintro t ht content rfl
    exact htexts ts hscan content ht
  -- the tokens are the same ones, though spelled with other gaps between them
  have hjoined : Spelled ts (Phrase.joined source.toList) := hspelled.joined hquote hspaced
  have hsame : Expr.parse (String.ofList (Phrase.joined source.toList)) = Expr.parse source := by
    rw [hparse, Expr.parse_eq_ok_iff]
    exact ⟨ts, hwrites, by rwa [String.toList_ofList]⟩
  refine ⟨_, Command.parse_set hv o (Expr.words_ne_nil hwrites hjoined), hsame, fun old => ?_⟩
  rw [Play.assignedValue, hsame, Play.assignedValue]

/-- A text with single spaces in it, and an operator between a tab and a line break. -/
theorem door_keeps_its_expression :
    Phrase.IsBareWord "door" ∧ '"' ∉ "' old door'\t==\n!true ".toList ∧
      Expr.parse "' old door'\t==\n!true " =
        .ok (.binary .eq (.literal (.text " old door")) (.unary .not (.literal (.bool true)))) ∧
      Command.parse "set door += ' old door'\t==\n!true " =
        .ok (.set "door" .add "' old door' == !true") ∧
      Expr.parse "' old door' == !true" = Expr.parse "' old door'\t==\n!true " := by
  have hv : Phrase.IsBareWord "door" := by decide +kernel
  have hquote : '"' ∉ "' old door'\t==\n!true ".toList := by decide
  have hparse : Expr.parse "' old door'\t==\n!true " =
      .ok (.binary .eq (.literal (.text " old door")) (.unary .not (.literal (.bool true)))) := by
    cbv
  have hscan : Token.scan "' old door'\t==\n!true ".toList = some
      [.text [' ', 'o', 'l', 'd', ' ', 'd', 'o', 'o', 'r'], .operator .eq, .bang,
        .word ['t', 'r', 'u', 'e']] := by
    cbv
  have hspaced : Text.SingleSpaced [' ', 'o', 'l', 'd', ' ', 'd', 'o', 'o', 'r'] := by
    refine ⟨?_, by decide +kernel⟩
    simp [Text.isBlank, Text.inRanges, Text.blankRanges]
  have htexts : ∀ ts, Token.scan "' old door'\t==\n!true ".toList = some ts →
      ∀ content, Token.text content ∈ ts → Text.SingleSpaced content := by
    intro ts hts content hcontent
    obtain rfl := Option.some.inj (hscan.symm.trans hts)
    obtain rfl : content = [' ', 'o', 'l', 'd', ' ', 'd', 'o', 'o', 'r'] := by
      simpa using hcontent
    exact hspaced
  have hcommand : Command.parse "set door += ' old door'\t==\n!true " =
      .ok (.set "door" .add "' old door' == !true") := by cbv
  obtain ⟨expression, hset, hsame, -⟩ :=
    set_keeps_its_expression "door" hv .add _ _ hparse hquote htexts
  -- the command has one expression
  obtain rfl : expression = "' old door' == !true" := by
    have hboth : Except.ok (Command.set "door" .add expression) = _ := hset.symm.trans hcommand
    exact (Command.set.inj (Except.ok.inj hboth)).2.2
  exact ⟨hv, hquote, hparse, hcommand, hsame⟩

end Narrative
