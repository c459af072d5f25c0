import Mathlib.Data.List.Chain
import Mathlib.Data.List.TakeWhile
import Narrative.Proofs.Expr.Grammar
import Narrative.Proofs.Text

/-!
# Scanning reads what is spelled

* **`Token.scan_spelled`** — the tokens that scanning finds are a spelling of the source.
* **`Token.scan_of_spelled`** — scanning finds the tokens of a spelling, as long as none of them
  can go on with the text of the next one (`Token.Meets`).
* **`Expr.Writes.meets`** — in the tokens of a tree none can.
-/

namespace Narrative

namespace Token

variable {c : Char} {cs rest lexeme : List Char} {t u : Token} {ts : List Token}

/-- The characters of words are ASCII letters, digits and the underscore. -/
theorem isWordChar_iff : isWordChar c = true ↔ c.isAlphanum = true ∨ c = '_' := by
  rw [isWordChar, Bool.or_eq_true, beq_iff_eq]

/-- Spaces are four characters and no more. -/
theorem isSpace_iff : isSpace c = true ↔ c = ' ' ∨ c = '\t' ∨ c = '\r' ∨ c = '\n' := by
  simp only [isSpace, Bool.or_eq_true, beq_iff_eq, or_assoc]

/-- Digits are characters of words. -/
theorem isWordChar_of_isDigit (h : c.isDigit = true) : isWordChar c = true :=
  isWordChar_iff.mpr (.inl (by rw [Char.isAlphanum, h, Bool.or_true]))

/-- What is no character of words is no digit. -/
theorem not_isDigit_of_not_isWordChar (h : isWordChar c = false) : c.isDigit = false := by
  rw [Bool.eq_false_iff]
  intro hdigit
  rw [isWordChar_of_isDigit hdigit] at h
  nomatch h

/-- Characters of words are no spaces. -/
theorem not_isSpace_of_isWordChar (h : isWordChar c = true) : isSpace c = false := by
  rw [Bool.eq_false_iff]
  intro hspace
  rcases isSpace_iff.mp hspace with rfl | rfl | rfl | rfl <;> exact absurd h (by decide)

/-! ## One step of scanning -/

/-- A space between tokens is passed over. -/
theorem scan_of_space (h : isSpace c = true) : scan (c :: cs) = scan cs := by
  rw [scan, if_pos h]

/-- A token in front is cut off, and the others are those of the rest. -/
theorem scan_of_next (hspace : isSpace c = false) (h : next? c cs = some (t, rest)) :
    scan (c :: cs) = (scan rest).map (t :: ·) := by
  rw [scan, if_neg (by rw [hspace]; decide)]
  split
  · rename_i hnone
    rw [h] at hnone
    cases hnone
  · rename_i token rest' hsome
    rw [h] at hsome
    cases hsome
    rfl

/-- A text is rejected where no token begins. -/
theorem scan_of_none (hspace : isSpace c = false) (h : next? c cs = none) :
    scan (c :: cs) = none := by
  rw [scan, if_neg (by rw [hspace]; decide)]
  split
  · rfl
  · rename_i hsome
    rw [h] at hsome
    cases hsome

/-- A gap in front is passed over. -/
theorem scan_gap {gap : List Char} (h : Gap gap) : scan (gap ++ cs) = scan cs := by
  induction gap with
  | nil => rfl
  | cons c gap ih =>
      obtain ⟨hc, hgap⟩ := List.forall_mem_cons.mp h
      rw [List.cons_append, scan_of_space (isSpace_iff.mpr hc), ih hgap]

/-! ## Tokens are spelled by what they are read from -/

/-- A sign that is read stands at the front. -/
theorem symbol?_spelling (h : symbol? cs = some (t, rest)) :
    ∃ lexeme, t.Spelling lexeme ∧ cs = lexeme ++ rest := by
  unfold symbol? at h
  split at h <;> simp only [Option.some.injEq, Prod.mk.injEq, reduceCtorEq] at h
  case h_7 => obtain ⟨rfl, rfl⟩ := h; exact ⟨_, .bang, rfl⟩
  case h_16 => obtain ⟨rfl, rfl⟩ := h; exact ⟨_, .opening, rfl⟩
  case h_17 => obtain ⟨rfl, rfl⟩ := h; exact ⟨_, .closing, rfl⟩
  all_goals
    obtain ⟨rfl, rfl⟩ := h
    exact ⟨_, .operator _, rfl⟩

/-- A word or number that is read stands at the front. -/
theorem ofWord_spelling {word : List Char} (h : IsName word) (rest : List Char) :
    ∃ lexeme, (ofWord word rest).1.Spelling lexeme ∧
      word ++ rest = lexeme ++ (ofWord word rest).2 := by
  unfold ofWord
  split
  · rename_i after
    dsimp only
    split
    · -- digits, a point and digits again make one number; otherwise the point is left for what
      -- follows
      rename_i hdecimal
      rw [Bool.and_eq_true, List.all_eq_true, Bool.not_eq_true', List.isEmpty_eq_false_iff]
        at hdecimal
      obtain ⟨hwhole, hfraction⟩ := hdecimal
      refine ⟨_, .decimal ⟨h.1, hwhole⟩ ⟨hfraction, fun c hc => List.mem_takeWhile_imp hc⟩, ?_⟩
      rw [List.append_assoc, List.cons_append, List.takeWhile_append_dropWhile]
    · exact ⟨_, .word h, rfl⟩
  · exact ⟨_, .word h, rfl⟩

/-- A token that is read stands at the front. -/
theorem next?_spelling (h : next? c cs = some (t, rest)) :
    ∃ lexeme, t.Spelling lexeme ∧ c :: cs = lexeme ++ rest := by
  unfold next? at h
  split at h
  · rename_i hword
    have hname : IsName (c :: cs.takeWhile isWordChar) := by
      refine ⟨List.cons_ne_nil _ _, List.forall_mem_cons.mpr ⟨isWordChar_iff.mp hword, ?_⟩⟩
      exact fun d hd => isWordChar_iff.mp (List.mem_takeWhile_imp hd)
    obtain ⟨lexeme, hlexeme, hsplit⟩ := ofWord_spelling hname (cs.dropWhile isWordChar)
    rw [Option.some.inj h, List.cons_append, List.takeWhile_append_dropWhile] at *
    exact ⟨lexeme, hlexeme, hsplit⟩
  · split at h
    · rename_i hquote
      rw [Bool.or_eq_true, beq_iff_eq, beq_iff_eq] at hquote
      split at h
      · rename_i d after hdrop
        cases h
        have hstop := List.head?_dropWhile_not (· != c) cs
        rw [hdrop] at hstop
        -- the text was taken up to the first quote of its kind
        obtain rfl : d = c := by simpa using hstop
        have hfree : d ∉ cs.takeWhile (· != d) := fun hmem => by
          simpa using List.mem_takeWhile_imp hmem
        refine ⟨_, .text hquote hfree, ?_⟩
        rw [List.cons_append, List.cons_append, List.append_assoc, List.singleton_append, ← hdrop,
          List.takeWhile_append_dropWhile]
      · nomatch h
    · exact symbol?_spelling h

end Token

/-- A text with a space in front spells the same tokens. -/
theorem Spelled.blank {c : Char} {cs : List Char} {ts : List Token}
    (hc : c = ' ' ∨ c = '\t' ∨ c = '\r' ∨ c = '\n') (h : Spelled ts cs) : Spelled ts (c :: cs) := by
  cases h with
  | nil hgap => exact .nil (List.forall_mem_cons.mpr ⟨hc, hgap⟩)
  | cons hgap hlexeme h => exact .cons (List.forall_mem_cons.mpr ⟨hc, hgap⟩) hlexeme h

/-- **The tokens of a source spell it.** -/
theorem Token.scan_spelled (cs : List Char) :
    ∀ {ts}, Token.scan cs = some ts → Spelled ts cs := by
  induction cs using Token.scan.induct with
  | case1 =>
      intro ts h
      rw [scan] at h
      cases h
      exact .nil (List.forall_mem_nil _)
  | case2 c cs hspace ih =>
      intro ts h
      rw [scan_of_space hspace] at h
      exact (ih h).blank (isSpace_iff.mp hspace)
  | case3 c cs hspace hnone =>
      intro ts h
      rw [scan_of_none (by simpa using hspace) hnone] at h
      nomatch h
  | case4 c cs hspace t rest hnext _ ih =>
      intro ts h
      rw [scan_of_next (by simpa using hspace) hnext, Option.map_eq_some_iff] at h
      obtain ⟨ts, hscan, rfl⟩ := h
      -- no gap is needed in front, since the spaces went in the case before
      obtain ⟨lexeme, hlexeme, hsplit⟩ := next?_spelling hnext
      rw [hsplit]
      exact .cons (List.forall_mem_nil _) hlexeme (ih hscan)

/-! ## Where a token ends -/

namespace Token

variable {c : Char} {cs rest lexeme : List Char} {t u : Token} {ts : List Token}

/-- A token does not go on with this character. -/
def StopsAt : Token → Char → Prop
  | .word _, c | .decimal _ _, c => isWordChar c = false ∧ c ≠ '.'
  | .bang, c | .operator _, c => c ≠ '='
  | .text _, _ | .opening, _ | .closing, _ => True

/-- A token does not go on with the text of another one. -/
def Meets (t u : Token) : Prop := ∀ lexeme, u.Spelling lexeme → ∀ c ∈ lexeme.head?, t.StopsAt c

/-- Every token ends at a space. -/
theorem stopsAt_of_isSpace (t : Token) (h : isSpace c = true) : t.StopsAt c := by
  -- a blank neither goes on with a word nor makes a longer operator
  have hword : isWordChar c = false := by
    rw [Bool.eq_false_iff]
    intro hword
    rw [not_isSpace_of_isWordChar hword] at h
    nomatch h
  have hpoint : c ≠ '.' := by rintro rfl; nomatch h
  have hequals : c ≠ '=' := by rintro rfl; nomatch h
  cases t with
  | word name => exact ⟨hword, hpoint⟩
  | decimal whole fraction => exact ⟨hword, hpoint⟩
  | bang => exact hequals
  | operator op => exact hequals
  | _ => trivial

/-- A word with no point behind it is all there is. -/
theorem ofWord_of_stop {word : List Char} (hstop : ∀ d ∈ rest.head?, d ≠ '.') :
    ofWord word rest = (.word word, rest) := by
  unfold ofWord
  split
  · exact absurd rfl (hstop '.' rfl)
  · rfl

/-- Digits behind a point belong to the number in front of it. -/
theorem ofWord_of_point {whole fraction : List Char} (hwhole : IsDigits whole)
    (hfraction : IsDigits fraction) (hstop : ∀ d ∈ rest.head?, d.isDigit = false) :
    ofWord whole ('.' :: (fraction ++ rest)) = (.decimal whole fraction, rest) := by
  obtain ⟨htake, hdrop⟩ := Text.span_append hfraction.2 hstop
  have hall : whole.all (·.isDigit) = true := List.all_eq_true.mpr hwhole.2
  have hsome : fraction.isEmpty = false := List.isEmpty_eq_false_iff.mpr hfraction.1
  rw [ofWord, htake, hdrop, hall, hsome]
  rfl

/-- A negation with no equals sign behind it is one. -/
theorem symbol?_bang (hstop : ∀ d ∈ rest.head?, d ≠ '=') :
    symbol? ('!' :: rest) = some (.bang, rest) := by
  cases rest with
  | nil => rfl
  | cons d rest =>
      have hd : d ≠ '=' := hstop d rfl
      simp [symbol?, hd]

/-- An operator with no equals sign behind it is read whole. -/
theorem symbol?_operator (op : BinaryOp) (hstop : ∀ d ∈ rest.head?, d ≠ '=') :
    symbol? (op.symbol.toList ++ rest) = some (.operator op, rest) := by
  cases rest with
  | nil => cases op <;> rfl
  | cons d rest =>
      have hd : d ≠ '=' := hstop d rfl
      cases op <;> simp [symbol?, BinaryOp.symbol, hd]

/-- **A token is read as far as it goes.** -/
theorem next?_of_spelling (h : t.Spelling lexeme) (hstop : ∀ d ∈ rest.head?, t.StopsAt d) :
    ∃ c cs, lexeme = c :: cs ∧ isSpace c = false ∧ next? c (cs ++ rest) = some (t, rest) := by
  cases h with
  | word hname =>
      obtain ⟨c, cs, rfl⟩ := List.exists_cons_of_ne_nil hname.1
      have hword : ∀ d ∈ c :: cs, isWordChar d = true :=
        fun d hd => isWordChar_iff.mpr (hname.2 d hd)
      obtain ⟨hc, hcs⟩ := List.forall_mem_cons.mp hword
      obtain ⟨htake, hdrop⟩ := Text.span_append hcs fun d hd => (hstop d hd).1
      refine ⟨c, cs, rfl, not_isSpace_of_isWordChar hc, ?_⟩
      rw [next?, if_pos hc, htake, hdrop, ofWord_of_stop fun d hd => (hstop d hd).2]
  | @decimal whole fraction hwhole hfraction =>
      obtain ⟨c, cs, rfl⟩ := List.exists_cons_of_ne_nil hwhole.1
      have hword : ∀ d ∈ c :: cs, isWordChar d = true :=
        fun d hd => isWordChar_of_isDigit (hwhole.2 d hd)
      obtain ⟨hc, hcs⟩ := List.forall_mem_cons.mp hword
      have hpoint : ∀ d ∈ ('.' :: (fraction ++ rest)).head?, isWordChar d = false := by
        rintro d ⟨⟩
        decide
      have hdigit : ∀ d ∈ rest.head?, d.isDigit = false := fun d hd =>
        not_isDigit_of_not_isWordChar (hstop d hd).1
      -- the point ends the word that the number starts as
      obtain ⟨htake, hdrop⟩ := Text.span_append hcs hpoint
      refine ⟨c, cs ++ '.' :: fraction, rfl, not_isSpace_of_isWordChar hc, ?_⟩
      rw [next?, if_pos hc, List.append_assoc, List.cons_append, htake, hdrop,
        ofWord_of_point hwhole hfraction hdigit]
  | @text quote content hquote hfree =>
      obtain ⟨htake, hdrop⟩ := Text.span_until hfree rest
      refine ⟨quote, content ++ [quote], rfl, ?_, ?_⟩
      · rcases hquote with rfl | rfl <;> rfl
      · have hword : isWordChar quote = false := by rcases hquote with rfl | rfl <;> rfl
        have hmark : (quote == '"' || quote == '\'') = true := by
          rcases hquote with rfl | rfl <;> rfl
        rw [next?, hword, if_neg (by decide), if_pos hmark, List.append_assoc,
          List.singleton_append, htake, hdrop]
  | bang =>
      exact ⟨'!', [], rfl, rfl, symbol?_bang hstop⟩
  | operator op =>
      -- no operator starts with a character of words or with a quote
      have hsymbol := symbol?_operator op hstop
      obtain ⟨c, cs, hlexeme, hspace, hnext⟩ : ∃ c cs, op.symbol.toList = c :: cs ∧
          isSpace c = false ∧ ∀ after, next? c after = symbol? (c :: after) := by
        cases op <;> exact ⟨_, _, rfl, rfl, fun _ => rfl⟩
      refine ⟨c, cs, hlexeme, hspace, ?_⟩
      rw [hnext, ← List.cons_append, ← hlexeme, hsymbol]
  | opening => exact ⟨_, _, rfl, rfl, rfl⟩
  | closing => exact ⟨_, _, rfl, rfl, rfl⟩

/-- Every token has a character. -/
theorem Spelling.exists_cons (h : t.Spelling lexeme) : ∃ c cs, lexeme = c :: cs := by
  have hstop : ∀ d ∈ ([] : List Char).head?, t.StopsAt d := fun _ hd => nomatch hd
  obtain ⟨c, cs, hcons, -⟩ := next?_of_spelling h hstop
  exact ⟨c, cs, hcons⟩

/-- What is spelled starts with a blank or with the first token. -/
theorem stopsAt_of_spelled (h : Spelled ts cs) (hmeets : ∀ u ∈ ts.head?, t.Meets u) :
    ∀ c ∈ cs.head?, t.StopsAt c := by
  intro c hc
  cases h with
  | nil hgap =>
      exact t.stopsAt_of_isSpace (isSpace_iff.mpr (hgap c (List.mem_of_mem_head? hc)))
  | @cons u ts gap lexeme cs hgap hlexeme h =>
      -- a blank in front of the next token stops this one; without one the next token itself has to
      cases gap with
      | cons d gap =>
          cases hc
          exact t.stopsAt_of_isSpace (isSpace_iff.mpr (hgap _ List.mem_cons_self))
      | nil =>
          obtain ⟨d, rest, rfl⟩ := hlexeme.exists_cons
          exact hmeets u rfl _ hlexeme c hc

/-- **Scanning finds the tokens of a spelling** if none can go on with the next one. -/
theorem scan_of_spelled (h : Spelled ts cs) (hmeets : ts.IsChain Meets) : scan cs = some ts := by
  induction h with
  | @nil gap hgap =>
      have hscan : scan (gap ++ []) = scan [] := scan_gap hgap
      rwa [List.append_nil, scan] at hscan
  | cons hgap hlexeme h ih =>
      obtain ⟨hhead, htail⟩ := List.isChain_cons.mp hmeets
      obtain ⟨c, cs, rfl, hspace, hnext⟩ :=
        next?_of_spelling hlexeme (stopsAt_of_spelled h hhead)
      rw [List.append_assoc, scan_gap hgap, List.cons_append, scan_of_next hspace hnext, ih htail]
      rfl

/-! ## Tokens of a tree side by side -/

/-- The tokens that an operand can start with. -/
def StartsOperand : Token → Prop
  | .operator op => op = .sub
  | .closing => False
  | .word _ | .decimal _ _ | .text _ | .bang | .opening => True

/-- The tokens that an operand can end with. -/
def EndsOperand : Token → Prop
  | .word _ | .decimal _ _ | .text _ | .closing => True
  | .bang | .operator _ | .opening => False

/-- No operand begins with an equals sign, so none is taken into the operator in front of it. -/
theorem StartsOperand.head_ne (hu : u.StartsOperand) (h : u.Spelling lexeme) :
    ∀ c ∈ lexeme.head?, c ≠ '=' := by
  cases h with
  | word hname =>
      rintro c hc rfl
      exact absurd (hname.2 '=' (List.mem_of_mem_head? hc)) (by decide)
  | @decimal whole fraction hwhole hfraction =>
      obtain ⟨d, ds, rfl⟩ := List.exists_cons_of_ne_nil hwhole.1
      rintro c ⟨⟩ rfl
      exact absurd (hwhole.2 '=' List.mem_cons_self) (by decide)
  | text hquote hfree =>
      rintro c ⟨⟩ rfl
      rcases hquote with h | h <;> nomatch h
  | operator op =>
      -- the only operator in front of an operand is the minus sign
      cases hu
      rintro c ⟨⟩
      decide
  | _ =>
      rintro c ⟨⟩
      decide

/-- Operators and opening parentheses do not run into an operand. -/
theorem StartsOperand.met (hu : u.StartsOperand) (ht : ¬ t.EndsOperand) : t.Meets u := by
  intro lexeme hlexeme c hc
  cases t with
  | bang => exact hu.head_ne hlexeme c hc
  | operator op => exact hu.head_ne hlexeme c hc
  | opening => trivial
  | _ => exact absurd trivial ht

/-- The end of an operand does not run into operators or parentheses. -/
theorem EndsOperand.meets (ht : t.EndsOperand)
    (hu : u = .opening ∨ u = .closing ∨ ∃ op, u = .operator op) : t.Meets u := by
  intro lexeme hlexeme c hc
  -- what may follow an operand starts with a mark, which no word and no number goes on with
  have hmark : isWordChar c = false ∧ c ≠ '.' := by
    rcases hu with rfl | rfl | ⟨op, rfl⟩ <;> cases hlexeme
    · cases hc; decide
    · cases hc; decide
    · cases op <;> cases hc <;> decide
  cases t with
  | word name => exact hmark
  | decimal whole fraction => exact hmark
  | text content => trivial
  | closing => trivial
  | _ => exact ht.elim

/-- Tokens that form an operand or several operands joined by operators. -/
structure Joined (ts : List Token) : Prop where
  meets : ts.IsChain Meets
  starts : ∃ t rest, ts = t :: rest ∧ t.StartsOperand
  ends : ∃ front t, ts = front ++ [t] ∧ t.EndsOperand

namespace Joined

variable {ls rs : List Token}

/-- An operand of one token stands joined. -/
theorem single (hstart : t.StartsOperand) (hend : t.EndsOperand) : Joined [t] where
  meets := List.isChain_singleton t
  starts := ⟨t, [], rfl, hstart⟩
  ends := ⟨[], t, rfl, hend⟩

/-- What does not end an operand may stand in front of joined tokens. -/
theorem meets_cons (h : Joined rs) (ht : ¬ t.EndsOperand) : (t :: rs).IsChain Meets := by
  obtain ⟨u, rest, rfl, hu⟩ := h.starts
  exact List.isChain_cons_cons.mpr ⟨hu.met ht, h.meets⟩

/-- A parenthesis or an operator may stand behind joined tokens. -/
theorem meets_append (h : Joined ls) (hu : u = .opening ∨ u = .closing ∨ ∃ op, u = .operator op)
    (hrest : (u :: rs).IsChain Meets) : (ls ++ u :: rs).IsChain Meets := by
  obtain ⟨front, t, rfl, ht⟩ := h.ends
  rw [List.append_assoc, List.singleton_append]
  exact List.isChain_append_cons_cons.mpr ⟨h.meets, ht.meets hu, hrest⟩

/-- Joined tokens stay joined behind a sign. -/
theorem prefixed (h : Joined ts) (hstart : t.StartsOperand) (hend : ¬ t.EndsOperand) :
    Joined (t :: ts) where
  meets := h.meets_cons hend
  starts := ⟨t, ts, rfl, hstart⟩
  ends := by
    obtain ⟨front, u, rfl, hu⟩ := h.ends
    exact ⟨t :: front, u, rfl, hu⟩

/-- An operator joins its two sides. -/
theorem infixed (hl : Joined ls) (op : BinaryOp) (hr : Joined rs) :
    Joined (ls ++ .operator op :: rs) where
  meets := hl.meets_append (.inr (.inr ⟨op, rfl⟩)) (hr.meets_cons id)
  starts := by
    obtain ⟨t, rest, rfl, ht⟩ := hl.starts
    exact ⟨t, rest ++ .operator op :: rs, rfl, ht⟩
  ends := by
    obtain ⟨front, t, rfl, ht⟩ := hr.ends
    refine ⟨ls ++ .operator op :: front, t, ?_, ht⟩
    rw [List.append_assoc, List.cons_append]

/-- Joined tokens stay joined in parentheses. -/
theorem group (h : Joined ts) : Joined (.opening :: ts ++ [.closing]) where
  meets := by
    obtain ⟨t, rest, rfl, ht⟩ := h.starts
    have hclosed := h.meets_append (.inr (.inl rfl)) (List.isChain_singleton _)
    exact List.isChain_cons_cons.mpr ⟨ht.met id, hclosed⟩
  starts := ⟨.opening, ts ++ [.closing], rfl, trivial⟩
  ends := ⟨.opening :: ts, .closing, rfl, trivial⟩

/-- An access stands joined. -/
theorem access (keyword name : List Char) :
    Joined [.word keyword, .opening, .word name, .closing] where
  meets := by
    have hkeyword : Joined [.word keyword] := .single trivial trivial
    have hname : Joined [.word name] := .single trivial trivial
    exact hkeyword.meets_append (.inl rfl) hname.group.meets
  starts := ⟨.word keyword, _, rfl, trivial⟩
  ends := ⟨[.word keyword, .opening, .word name], .closing, rfl, trivial⟩

end Joined

end Token

/-- **No token of a tree can go on with the next one.** -/
theorem Expr.Writes.joined {level : Nat} {e : Expr} {ts : List Token} (h : Writes level e ts) :
    Token.Joined ts := by
  induction h with
  | atom h =>
      cases h with
      | access accessor name => exact .access _ name
      | _ => exact .single trivial trivial
  | group _ ih => exact ih.group
  | unary op _ ih => cases op with
    | not => exact ih.prefixed trivial id
    | neg => exact ih.prefixed rfl id
  | binary _ _ _ ihl ihr => exact ihl.infixed _ ihr

end Narrative
