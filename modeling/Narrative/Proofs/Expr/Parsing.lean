import Mathlib
import Narrative.Proofs.Expr.Reading
import Narrative.Proofs.Expr.Scanning

/-!
# Parsing and printing expressions

The parser yields a tree for the sentences of the grammar and for nothing else, and the tree is the
one that the sentence is a way of writing.
-/

namespace Narrative

namespace Expr

variable {e : Expr} {level : Nat} {ts : List Token} {source : String}

/-! ## Parsing and ways of writing -/

/-- Every way of writing a tree is read as that tree. -/
theorem parse?_of_writes {cs : List Char} (h : Writes 0 e ts) (hspelled : Spelled ts cs) :
    parse? cs = some e := by
  rw [parse?, Token.scan_of_spelled hspelled h.joined.meets, Option.bind_some, h.operand_eq]

/-- What is read was written. -/
theorem writes_of_parse? {cs : List Char} (h : parse? cs = some e) :
    ∃ ts, Writes 0 e ts ∧ Spelled ts cs := by
  obtain ⟨ts, hscan, hread⟩ := Option.bind_eq_some_iff.mp h
  exact ⟨ts, writes_of_operand .nil hread, Token.scan_spelled cs hscan⟩

/-- The characters of a source decide whether it is read. -/
theorem parse_eq_ok : parse source = .ok e ↔ parse? source.toList = some e := by
  rw [parse]
  cases parse? source.toList with
  | none => exact ⟨(nomatch ·), (nomatch ·)⟩
  | some found =>
      exact ⟨fun h => congrArg some (Except.ok.inj h), fun h => congrArg _ (Option.some.inj h)⟩

/-- **Parsing yields the tree that the source is a way of writing.** -/
theorem parse_eq_ok_iff :
    parse source = .ok e ↔ ∃ ts, Writes 0 e ts ∧ Spelled ts source.toList := by
  rw [parse_eq_ok]
  exact ⟨writes_of_parse?, fun ⟨_, hwrites, hspelled⟩ => parse?_of_writes hwrites hspelled⟩

/-- A source can be read exactly if it is a sentence of the grammar. -/
theorem exists_parse_iff : (∃ e, parse source = .ok e) ↔ IsSentence source.toList := by
  constructor
  · rintro ⟨e, hparse⟩
    obtain ⟨ts, hwrites, hspelled⟩ := parse_eq_ok_iff.mp hparse
    exact ⟨ts, derives_iff_writes.mpr ⟨e, hwrites⟩, hspelled⟩
  · rintro ⟨ts, hderives, hspelled⟩
    obtain ⟨e, hwrites⟩ := derives_iff_writes.mp hderives
    exact ⟨e, parse_eq_ok_iff.mpr ⟨ts, hwrites, hspelled⟩⟩

/-- **The parser accepts exactly the sentences of the grammar.** It refuses every other text as
malformed. However a sentence is divided into tokens by the grammar, scanning divides it just so,
and the tokens come to a tree. -/
theorem parse_accepts_sentences (source : String) :
    ((∃ e, parse source = .ok e) ↔ IsSentence source.toList) ∧
    (¬ IsSentence source.toList → parse source = .error (.malformed source)) ∧
    ∀ ts, Derives .expression ts → Spelled ts source.toList →
      Token.scan source.toList = some ts ∧ ∃ e, operand [] ts = some e := by
  refine ⟨exists_parse_iff, fun hno => ?_, fun ts hderives hspelled => ?_⟩
  · -- what has no tree has an error, and there is only one
    rw [← exists_parse_iff] at hno
    rw [parse] at hno ⊢
    cases hparse : parse? source.toList with
    | none => rfl
    | some e =>
        rw [hparse] at hno
        exact (hno ⟨e, rfl⟩).elim
  · obtain ⟨e, hwrites⟩ := derives_iff_writes.mp hderives
    exact ⟨Token.scan_of_spelled hspelled hwrites.joined.meets, e, hwrites.operand_eq⟩

/-- One text inside the grammar and one outside. -/
theorem parse_accepts_guard :
    IsSentence "!var(owl)&& 'x'<=item( coin )".toList ∧ ¬ IsSentence "1 <= = item(coin)".toList ∧
      parse "1 <= = item(coin)" = .error (.malformed "1 <= = item(coin)") := by
  obtain ⟨haccepts, -, -⟩ := parse_accepts_sentences "!var(owl)&& 'x'<=item( coin )"
  obtain ⟨hrefuses, hmalformed, -⟩ := parse_accepts_sentences "1 <= = item(coin)"
  have hno : ¬ IsSentence "1 <= = item(coin)".toList := by
    rw [← hrefuses]
    rintro ⟨e, hparse⟩
    have hnone : parse? "1 <= = item(coin)".toList = none := by cbv
    rw [parse_eq_ok, hnone] at hparse
    cases hparse
  refine ⟨haccepts.mp ?_, hno, hmalformed hno⟩
  exact ⟨.binary .and (.unary .not (.access .var "owl"))
    (.binary .le (.literal (.text "x")) (.access .item "coin")), by cbv⟩

/-! ## Printing -/

/-- The trees that can be written down. -/
inductive Printable : Expr → Prop
  | whole {digits : List Char} (h : IsDigits digits) :
      Printable (.literal (decimalValue digits []))
  | decimal {whole fraction : List Char} (h : IsDigits whole) (h' : IsDigits fraction) :
      Printable (.literal (decimalValue whole fraction))
  | boolean (b : Bool) : Printable (.literal (.bool b))
  | text {content : List Char} (h : '"' ∉ content ∨ '\'' ∉ content) :
      Printable (.literal (.text (String.ofList content)))
  | access (accessor : Accessor) {name : List Char} (h : IsName name) :
      Printable (.access accessor (String.ofList name))
  | unary (op : UnaryOp) {e : Expr} (h : Printable e) : Printable (.unary op e)
  | binary (op : BinaryOp) {lhs rhs : Expr} (hl : Printable lhs) (hr : Printable rhs) :
      Printable (.binary op lhs rhs)

end Expr

/-- Characters of words make up a name. -/
theorem isName_of_all {cs : List Char} (hne : cs ≠ []) (h : cs.all Token.isWordChar = true) :
    IsName cs :=
  ⟨hne, fun c hc => Token.isWordChar_iff.mp (List.all_eq_true.mp h c hc)⟩

/-- Digits make up a name. -/
theorem IsDigits.isName {cs : List Char} (h : IsDigits cs) : IsName cs :=
  ⟨h.1, fun c hc => Token.isWordChar_iff.mp (Token.isWordChar_of_isDigit (h.2 c hc))⟩

/-- A token that can be written down. -/
def Token.Spellable (t : Token) : Prop := ∃ lexeme, t.Spelling lexeme

/-- What is spelled can be spelled. -/
theorem Spelled.spellable {ts : List Token} {cs : List Char} (h : Spelled ts cs) :
    ∀ t ∈ ts, t.Spellable := by
  induction h with
  | nil _ => exact List.forall_mem_nil _
  | cons _ hlexeme _ ih => exact List.forall_mem_cons.mpr ⟨⟨_, hlexeme⟩, ih⟩

/-- Tokens that can each be spelled can be spelled in a row. -/
theorem exists_spelled {ts : List Token} (h : ∀ t ∈ ts, t.Spellable) : ∃ cs, Spelled ts cs := by
  induction ts with
  | nil => exact ⟨[], .nil (List.forall_mem_nil _)⟩
  | cons t ts ih =>
      obtain ⟨⟨lexeme, hlexeme⟩, hts⟩ := List.forall_mem_cons.mp h
      obtain ⟨cs, hcs⟩ := ih hts
      exact ⟨_, .cons (List.forall_mem_nil _) hlexeme hcs⟩

/-- Every sign in front of an operand can be spelled. -/
theorem UnaryOp.spellable (op : UnaryOp) : op.token.Spellable := by
  cases op with
  | not => exact ⟨_, .bang⟩
  | neg => exact ⟨_, .operator .sub⟩

namespace Expr

/-- A word that can be spelled is a name. -/
theorem spellable_word {name : List Char} (h : (Token.word name).Spellable) : IsName name := by
  obtain ⟨_, ⟨hname⟩⟩ := h
  exact hname

/-- A printable tree can be written for any place: every operator in its own parentheses. -/
theorem Printable.writes (h : Printable e) :
    ∃ ts, (∀ t ∈ ts, t.Spellable) ∧ ∀ level, Writes level e ts := by
  induction h with
  | @whole digits h =>
      refine ⟨[.word digits], ?_, fun _ => .atom (.whole h.2)⟩
      exact List.forall_mem_singleton.mpr ⟨_, .word h.isName⟩
  | @decimal whole fraction h h' =>
      refine ⟨[.decimal whole fraction], ?_, fun _ => .atom (.decimal whole fraction)⟩
      exact List.forall_mem_singleton.mpr ⟨_, .decimal h h'⟩
  | boolean b =>
      refine ⟨_, ?_, fun _ => .atom (.boolean b)⟩
      refine List.forall_mem_singleton.mpr ⟨_, .word ?_⟩
      cases b <;> exact isName_of_all (by decide) rfl
  | @text content h =>
      refine ⟨_, ?_, fun _ => .atom (.text content)⟩
      rcases h with h | h
      · exact List.forall_mem_singleton.mpr ⟨_, .text (.inl rfl) h⟩
      · exact List.forall_mem_singleton.mpr ⟨_, .text (.inr rfl) h⟩
  | @access accessor name h =>
      have hkeyword : IsName accessor.keyword.toList := by
        cases accessor <;> exact isName_of_all (by decide) rfl
      refine ⟨_, ?_, fun _ => .atom (.access accessor name)⟩
      simp only [List.forall_mem_cons]
      exact ⟨⟨_, .word hkeyword⟩, ⟨_, .opening⟩, ⟨_, .word h⟩, ⟨_, .closing⟩,
        List.forall_mem_nil _⟩
  | unary op _ ih =>
      obtain ⟨ts, hts, hwrites⟩ := ih
      exact ⟨_, List.forall_mem_cons.mpr ⟨op.spellable, hts⟩, fun _ => .unary op (hwrites _)⟩
  | binary op _ _ ihl ihr =>
      -- in parentheses, an operator may stand at every level
      obtain ⟨ls, hls, hl⟩ := ihl
      obtain ⟨rs, hrs, hr⟩ := ihr
      refine ⟨_, ?_, fun _ => .group (.binary (Nat.zero_le op.tier) (hl _) (hr _))⟩
      rw [List.cons_append, List.forall_mem_cons, List.forall_mem_append, List.forall_mem_append,
        List.forall_mem_cons, List.forall_mem_singleton]
      exact ⟨⟨_, .opening⟩, ⟨hls, ⟨_, .operator op⟩, hrs⟩, ⟨_, .closing⟩⟩

/-- Only printable trees are written with tokens that can be written down. -/
theorem Writes.printable (h : Writes level e ts) (hts : ∀ t ∈ ts, t.Spellable) : Printable e := by
  induction h with
  | atom h =>
      cases h with
      | access accessor name =>
          -- a printable tree is one whose leaves can be spelled; nothing else can go wrong
          exact .access accessor (spellable_word (hts (.word name) (by simp)))
      | whole h =>
          exact .whole ⟨(spellable_word (hts _ List.mem_cons_self)).1, h⟩
      | decimal whole fraction =>
          obtain ⟨_, hlexeme⟩ := hts _ List.mem_cons_self
          cases hlexeme with
          | decimal hwhole hfraction => exact .decimal hwhole hfraction
      | boolean b => exact .boolean b
      | text content =>
          obtain ⟨_, hlexeme⟩ := hts _ List.mem_cons_self
          cases hlexeme with
          | text hquote hfree =>
              rcases hquote with rfl | rfl
              · exact .text (.inl hfree)
              · exact .text (.inr hfree)
  | group _ ih =>
      rw [List.cons_append, List.forall_mem_cons, List.forall_mem_append] at hts
      exact ih hts.2.1
  | unary op _ ih => exact .unary op (ih (List.forall_mem_cons.mp hts).2)
  | @binary level op hlevel lhs rhs ls rs _ _ ihl ihr =>
      rw [List.forall_mem_append, List.forall_mem_cons] at hts
      exact .binary op (ihl hts.1) (ihr hts.2.2)

/-- **Printing and parsing again gives the tree back**, whatever the way of writing it. The trees
that can be written are the printable ones. No text has two trees, or two divisions into tokens.
So neither blanks nor parentheses nor the kind of quotes tell two texts of one tree apart. -/
theorem parse_reads_back_writings :
    (∀ e ts (source : String), Writes 0 e ts → Spelled ts source.toList →
      parse source = .ok e) ∧
    (∀ e, Printable e ↔ ∃ ts, ∃ source : String, Writes 0 e ts ∧ Spelled ts source.toList) ∧
    (∀ (source : String) e e' ts ts', Writes 0 e ts → Spelled ts source.toList →
      Writes 0 e' ts' → Spelled ts' source.toList → e' = e ∧ ts' = ts) ∧
    ∀ e ts ts' (source source' : String), Writes 0 e ts → Spelled ts source.toList →
      Writes 0 e ts' → Spelled ts' source'.toList → parse source' = parse source := by
  have hreads (e : Expr) (ts : List Token) (source : String) (hwrites : Writes 0 e ts)
      (hspelled : Spelled ts source.toList) : parse source = .ok e :=
    parse_eq_ok_iff.mpr ⟨ts, hwrites, hspelled⟩
  refine ⟨hreads, fun e => ⟨fun hprintable => ?_, ?_⟩, ?_, ?_⟩
  · -- with no blank between the tokens
    obtain ⟨ts, hts, hwrites⟩ := hprintable.writes
    obtain ⟨cs, hspelled⟩ := exists_spelled hts
    exact ⟨ts, String.ofList cs, hwrites 0, by rwa [String.toList_ofList]⟩
  · rintro ⟨ts, source, hwrites, hspelled⟩
    exact hwrites.printable hspelled.spellable
  · intro source e e' ts ts' hwrites hspelled hwrites' hspelled'
    -- one source has one list of tokens, and these one tree
    have hscan := Token.scan_of_spelled hspelled hwrites.joined.meets
    have hscan' := Token.scan_of_spelled hspelled' hwrites'.joined.meets
    have hparse := hreads e ts source hwrites hspelled
    have hparse' := hreads e' ts' source hwrites' hspelled'
    rw [hparse] at hparse'
    rw [hscan] at hscan'
    exact ⟨(Except.ok.inj hparse').symm, (Option.some.inj hscan').symm⟩
  · intro e ts ts' source source' hwrites hspelled hwrites' hspelled'
    rw [hreads e ts source hwrites hspelled, hreads e ts' source' hwrites' hspelled']

/-- A minus sign in front of parentheses, a redundant pair of them, and a product on the right. -/
theorem parse_reads_back_difference :
    parse "-(1-'a\"b')  -\t!(var(x_1))*2.50" =
      .ok (.binary .sub
        (.unary .neg
          (.binary .sub (.literal (decimalValue ['1'] [])) (.literal (.text "a\"b"))))
        (.binary .mul (.unary .not (.access .var "x_1"))
          (.literal (decimalValue ['2'] ['5', '0'])))) := by
  have hone : Writes (BinaryOp.tier .sub) (.literal (decimalValue ['1'] [])) [.word ['1']] :=
    .atom (.whole (List.forall_mem_singleton.mpr rfl))
  have htext : Writes (BinaryOp.tier .sub + 1) (.literal (.text "a\"b"))
      [.text ['a', '"', 'b']] :=
    .atom (.text ['a', '"', 'b'])
  have hvar : Writes UnaryOp.tier (.access .var "x_1") _ :=
    .group (.atom (.access .var ['x', '_', '1']))
  have hnumber : Writes (BinaryOp.tier .mul + 1) (.literal (decimalValue ['2'] ['5', '0'])) _ :=
    .atom (.decimal ['2'] ['5', '0'])
  have hproduct : Writes (BinaryOp.tier .sub + 1) _ _ :=
    .binary (by decide) (.unary .not hvar) hnumber
  -- the tree from the leaves up; the operators stand at their own levels
  have hwrites : Writes 0 _ _ :=
    .binary (Nat.zero_le _) (.unary .neg (.group (.binary (Nat.zero_le _) hone htext))) hproduct
  exact parse_reads_back_writings.1 _ _ _ hwrites (Token.scan_spelled _ (by cbv))

end Expr

end Narrative
