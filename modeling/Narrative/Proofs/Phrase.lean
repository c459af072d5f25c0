import Mathlib.Data.List.Forall2
import Mathlib.Data.List.TakeWhile
import Narrative.Command.Parser
import Narrative.Proofs.Text

/-!
# Reading words as they are written

A word is written in quotes, or bare if it is not empty and has no white space, and what is written
with white space between the words is read back. Whatever the quotes of a text, no word that is read
from it has one.

* **`Phrase.words_of_written`** — words are read as they are written.
* **`Phrase.quote_notMem_of_mem_words`** — no word has a quote in it.
-/

namespace Narrative

namespace Phrase

variable {c : Char} {cs word rest : List Char}

/-- White space in front of words is no part of them. -/
theorem words_cons_of_blank (h : Text.isBlank c = true) : words (c :: cs) = words cs := by
  have hquote : c ≠ '"' := by
    rintro rfl
    exact absurd h (by decide)
  rw [words, if_pos h]
  exact hquote

/-- What needs no quotes is neither white space nor a quote. -/
theorem isBare_iff : isBare c = true ↔ Text.isBlank c = false ∧ c ≠ '"' := by
  rw [isBare, Bool.and_eq_true, Bool.not_eq_true', bne_iff_ne]

/-- A word goes as far as its characters need no quotes. -/
theorem words_cons_of_bare (h : isBare c = true) :
    words (c :: cs) = (c :: cs.takeWhile isBare) :: words (cs.dropWhile isBare) := by
  obtain ⟨hblank, hquote⟩ := isBare_iff.mp h
  rw [words, if_neg (ne_true_of_eq_false hblank)]
  exact hquote

/-- A run of characters of bare words is one word where it ends. -/
theorem words_append (hne : word ≠ []) (hword : word.all isBare = true)
    (hrest : rest.takeWhile isBare = []) : words (word ++ rest) = word :: words rest := by
  obtain ⟨c, cs, rfl⟩ := List.exists_cons_of_ne_nil hne
  obtain ⟨hc, hcs⟩ := List.forall_mem_cons.mp (List.all_eq_true.mp hword)
  have hbehind : rest.dropWhile isBare = rest := by
    have hall := List.takeWhile_append_dropWhile (p := isBare) (l := rest)
    rwa [hrest, List.nil_append] at hall
  rw [List.cons_append, words_cons_of_bare hc, List.takeWhile_append_of_pos hcs, hrest,
    List.append_nil, List.dropWhile_append_of_pos hcs, hbehind]

/-- A quote that is closed holds the characters up to the next quote together. -/
theorem words_cons_of_closed {closing : Char} {behind : List Char}
    (h : cs.dropWhile (· != '"') = closing :: behind) :
    words ('"' :: cs) = cs.takeWhile (· != '"') :: words behind := by
  rw [words]
  split
  next _ _ hclosing =>
    obtain ⟨-, rfl⟩ := List.cons.inj (h.symm.trans hclosing)
    rfl
  next hclosing => cases h.symm.trans hclosing

/-- A quote that is not closed is skipped. -/
theorem words_cons_of_unclosed (h : cs.dropWhile (· != '"') = []) :
    words ('"' :: cs) = words cs := by
  rw [words]
  split
  next _ _ hclosing => cases h.symm.trans hclosing
  next => rfl

/-- A word in quotes is read as what is between them. -/
theorem words_quoted (h : '"' ∉ word) :
    words ('"' :: (word ++ '"' :: rest)) = word :: words rest := by
  obtain ⟨htake, hdrop⟩ := Text.span_until h rest
  rw [words_cons_of_closed hdrop, htake]

/-- White space in front makes no difference. -/
theorem words_blanks_append {gap : List Char} (hgap : ∀ c ∈ gap, Text.isBlank c = true) :
    words (gap ++ rest) = words rest := by
  induction gap with
  | nil => rfl
  | cons c gap ih =>
      obtain ⟨hc, hrest⟩ := List.forall_mem_cons.mp hgap
      rw [List.cons_append, words_cons_of_blank hc, ih hrest]

/-- **No word has a quote in it**, whatever the quotes in the text. -/
theorem quote_notMem_of_mem_words : ∀ word ∈ words cs, '"' ∉ word := by
  induction cs using words.induct with
  | case1 =>
      rw [words]
      exact fun word hword => nomatch hword
  | case2 cs closing behind hclosing hlt ih =>
      -- a quoted word ends in front of the next quote
      rw [words_cons_of_closed hclosing]
      refine List.forall_mem_cons.mpr ⟨fun hquote => ?_, ih⟩
      have hinside := List.mem_takeWhile_imp hquote
      exact bne_iff_ne.mp hinside rfl
  | case3 cs hclosing ih =>
      rw [words_cons_of_unclosed hclosing]
      exact ih
  | case4 c cs hquote hblank ih =>
      rw [words_cons_of_blank hblank]
      exact ih
  | case5 c cs hquote hblank hlt ih =>
      have hc : isBare c = true := isBare_iff.mpr ⟨Bool.eq_false_iff.mpr hblank, hquote⟩
      rw [words_cons_of_bare hc]
      refine List.forall_mem_cons.mpr ⟨fun hmem => ?_, ih⟩
      rcases List.mem_cons.mp hmem with heq | hinside
      · exact hquote heq.symm
      · exact absurd (List.mem_takeWhile_imp hinside) (by decide)

/-- No argument of a phrase has a quote in it. -/
theorem quote_notMem_arguments {source : String} {phrase : Phrase}
    (h : read? source = some phrase) : ∀ argument ∈ phrase.arguments, '"' ∉ argument.toList := by
  intro argument hargument
  rw [read?] at h
  cases hwords : (words source.toList).map String.ofList with
  | nil =>
      rw [hwords] at h
      nomatch h
  | cons verb arguments =>
      rw [hwords] at h
      obtain rfl := Option.some.inj h
      -- arguments are the words behind the first one, and no word holds a quote
      have hmem : argument ∈ (words source.toList).map String.ofList :=
        hwords ▸ List.mem_cons_of_mem verb hargument
      obtain ⟨word, hword, rfl⟩ := List.mem_map.mp hmem
      rw [String.toList_ofList]
      exact quote_notMem_of_mem_words word hword

/-! ## Words as they are written -/

/-- The ways to write a word. -/
inductive Form : List Char → List Char → Prop
  /-- In quotes, if there are none in it. -/
  | quoted {word : List Char} (h : '"' ∉ word) : Form word ('"' :: (word ++ ['"']))
  /-- As it is, if it is not empty and has neither quotes nor white space. -/
  | bare {word : List Char} (hne : word ≠ []) (h : word.all isBare = true) : Form word word

/-- These words one behind the other, with white space between them. -/
inductive Written : List (List Char) → List Char → Prop
  | single {word form : List Char} (head : Form word form) : Written [word] form
  | cons {word form gap cs : List Char} {words : List (List Char)} (head : Form word form)
      (hne : gap ≠ []) (hgap : ∀ c ∈ gap, Text.isBlank c = true) (rest : Written words cs) :
      Written (word :: words) (form ++ (gap ++ cs))

/-- A word is read in either form, where no further characters of a bare word follow. -/
theorem Form.words_append {form : List Char} (h : Form word form)
    (hrest : rest.takeWhile isBare = []) : words (form ++ rest) = word :: words rest := by
  cases h with
  | quoted hquote =>
      have hform : '"' :: (word ++ ['"']) ++ rest = '"' :: (word ++ '"' :: rest) := by simp
      rw [hform, words_quoted hquote]
  | bare hne hbare => exact Phrase.words_append hne hbare hrest

/-- A word in front of white space is read in either form. -/
theorem Form.words_append_cons {form : List Char} (h : Form word form)
    (hc : Text.isBlank c = true) : words (form ++ c :: cs) = word :: words cs := by
  have hbare : isBare c = false := by
    rw [isBare, hc]
    rfl
  have hend : (c :: cs).takeWhile isBare = [] :=
    List.takeWhile_cons_of_neg (ne_true_of_eq_false hbare)
  rw [h.words_append hend, words_cons_of_blank hc]

/-- **Words are read as they are written.** -/
theorem words_of_written {written : List (List Char)} (h : Written written cs) :
    words cs = written := by
  induction h with
  | @single word form head =>
      have hword : words (form ++ []) = word :: words [] := head.words_append rfl
      rwa [List.append_nil, words] at hword
  | cons head hne hgap rest ih =>
      obtain ⟨c, gap, rfl⟩ := List.exists_cons_of_ne_nil hne
      obtain ⟨hc, hrest⟩ := List.forall_mem_cons.mp hgap
      rw [List.cons_append, head.words_append_cons hc, words_blanks_append hrest, ih]

/-- A verb and arguments that are written are read. -/
theorem read?_of_written {verb source : String} {arguments : List String}
    (h : Written ((verb :: arguments).map String.toList) source.toList) :
    read? source = some ⟨verb, arguments⟩ := by
  have htexts : (verb :: arguments).map (String.ofList ∘ String.toList) = verb :: arguments :=
    List.map_id'' (fun _ => String.ofList_toList) _
  rw [read?, words_of_written h, List.map_map, htexts]

/-- Forms with single spaces between them are words as they are written. -/
theorem written_intercalate {form : List Char} {words forms : List (List Char)}
    (head : Form word form) (rest : List.Forall₂ Form words forms) :
    Written (word :: words) ([' '].intercalate (form :: forms)) := by
  induction rest generalizing word form with
  | nil => simpa using Written.single head
  | cons next rest ih =>
      have hgap : ∀ c ∈ [' '], Text.isBlank c = true := List.forall_mem_singleton.mpr rfl
      rw [List.intercalate_cons_cons, List.append_assoc]
      exact .cons head (List.cons_ne_nil _ _) hgap (ih next)

/-- Whether a text is a word that needs no quotes. -/
def IsBareWord (text : String) : Prop := text ≠ "" ∧ text.toList.all isBare = true

instance (text : String) : Decidable (IsBareWord text) :=
  inferInstanceAs (Decidable (text ≠ "" ∧ text.toList.all isBare = true))

/-- A bare word stands for itself. -/
theorem IsBareWord.form {text : String} (h : IsBareWord text) : Form text.toList text.toList :=
  .bare (by simpa using h.1) h.2

/-- Two bare words with a space between them are read as a verb and its argument. -/
theorem read?_of_bareWords {verb argument : String} (hverb : IsBareWord verb)
    (hargument : IsBareWord argument) :
    read? (verb ++ " " ++ argument) = some ⟨verb, [argument]⟩ := by
  refine read?_of_written ?_
  have hwritten := written_intercalate hverb.form (.cons hargument.form .nil)
  simpa using hwritten

end Phrase

/-- A jump to a screen whose name is a bare word. -/
theorem Command.parse_jump {name : String} (h : Phrase.IsBareWord name) :
    Command.parse ("jump " ++ name) = .ok (.jump name) := by
  have hverb : Phrase.IsBareWord "jump" := by decide
  have hread : Phrase.read? ("jump" ++ " " ++ name) = some ⟨"jump", [name]⟩ :=
    Phrase.read?_of_bareWords hverb h
  have hsource : "jump " ++ name = "jump" ++ " " ++ name := rfl
  rw [Command.parse, hsource, hread]
  rfl

end Narrative
