import Mathlib.Data.List.DropRight
import Mathlib.Data.List.TakeWhile
import Narrative.Text.Blank
import Narrative.Text.Numeral

/-!
# Words and numbers in texts

A text is cut at separators; what its words are and what number it stands for is said here for
texts that are put together of parts.

* **`Text.span_until`** — how far a search for a character goes.
* **`Text.trim_append`**, **`Text.exists_trim`** — trimming takes away the white space around a text
  and no more.
* **`Text.words_append_cons`** — the words around a blank are those on either side of it.
* **`Text.readNat?_toDigits`** — a number is read as it is printed.
-/

namespace Narrative.Text

variable {isSeparator : Char → Bool} {c : Char} {cs : List Char}

/-! ## Runs of characters -/

/-- A run of characters of a class goes as far as its text, where no other one follows. -/
theorem span_append {p : Char → Bool} {run rest : List Char} (hrun : ∀ d ∈ run, p d = true)
    (hstop : ∀ d ∈ rest.head?, p d = false) :
    (run ++ rest).takeWhile p = run ∧ (run ++ rest).dropWhile p = rest := by
  rw [List.takeWhile_append_of_pos hrun, List.dropWhile_append_of_pos hrun]
  cases rest with
  | nil => exact ⟨List.append_nil run, rfl⟩
  | cons d rest =>
      have hd : p d = false := hstop d rfl
      rw [List.takeWhile_cons_of_neg (by rw [hd]; decide), List.append_nil,
        List.dropWhile_cons_of_neg (by rw [hd]; decide)]
      exact ⟨rfl, rfl⟩

/-- A search for a character that is not in front of it finds it. -/
theorem span_until {stop : Char} {run : List Char} (h : stop ∉ run) (after : List Char) :
    (run ++ stop :: after).takeWhile (· != stop) = run ∧
      (run ++ stop :: after).dropWhile (· != stop) = stop :: after := by
  refine span_append (fun d hd => bne_iff_ne.mpr fun heq => h (heq ▸ hd)) ?_
  simp

/-! ## Cutting at separators -/

/-- The first piece ends in front of the first separator, and the others come of what is behind
it. -/
theorem splitAt_eq (isSeparator : Char → Bool) (cs : List Char) :
    splitAt isSeparator cs =
      cs.takeWhile (!isSeparator ·) ::
        match cs.dropWhile (!isSeparator ·) with
        | [] => []
        | _ :: rest => splitAt isSeparator rest := by
  induction cs with
  | nil => rfl
  | cons c rest ih =>
      rw [splitAt]
      cases hc : isSeparator c with
      | true => simp [hc]
      | false =>
          rw [ih]
          simp [hc]

/-- Two pieces are what is in front of the only separator and what is behind it. -/
theorem splitAt_eq_pair {lhs rhs : List Char} (h : splitAt isSeparator cs = [lhs, rhs]) :
    lhs = cs.takeWhile (!isSeparator ·) ∧ rhs = (cs.dropWhile (!isSeparator ·)).tail := by
  rw [splitAt_eq] at h
  cases hrest : cs.dropWhile (!isSeparator ·) with
  | nil =>
      rw [hrest] at h
      nomatch h
  | cons separator rest =>
      rw [hrest] at h
      dsimp only at h
      rw [splitAt_eq isSeparator rest] at h
      obtain ⟨hlhs, htail⟩ := List.cons.inj h
      obtain ⟨hrhs, hend⟩ := List.cons.inj htail
      refine ⟨hlhs.symm, ?_⟩
      cases hbehind : rest.dropWhile (!isSeparator ·) with
      | nil =>
          -- no further separator, so the piece is all that is left
          have hall := List.takeWhile_append_dropWhile (p := (!isSeparator ·)) (l := rest)
          rw [hbehind, List.append_nil] at hall
          rw [← hrhs, hall, List.tail_cons]
      | cons other behind =>
          rw [hbehind] at hend
          dsimp only at hend
          rw [splitAt_eq] at hend
          nomatch hend

/-- A text without a separator is a single piece. -/
theorem splitAt_of_no_separator (h : ∀ c ∈ cs, isSeparator c = false) :
    splitAt isSeparator cs = [cs] := by
  have hall : ∀ c ∈ cs, (!isSeparator c) = true := fun c hc => by rw [h c hc]; rfl
  have htake : cs.takeWhile (!isSeparator ·) = cs := List.takeWhile_eq_self_iff.mpr hall
  have hdrop : cs.dropWhile (!isSeparator ·) = [] := List.dropWhile_eq_nil_iff.mpr hall
  rw [splitAt_eq, htake, hdrop]

/-- There is one more piece than there are separators. -/
theorem length_splitAt (isSeparator : Char → Bool) (cs : List Char) :
    (splitAt isSeparator cs).length = cs.countP isSeparator + 1 := by
  induction cs with
  | nil => rfl
  | cons c rest ih =>
      cases hc : isSeparator c with
      | true => rw [splitAt, hc, List.length_cons, ih, List.countP_cons_of_pos hc]
      | false =>
          rw [List.countP_cons_of_neg (by rw [hc]; decide), ← ih, splitAt, hc]
          cases hpieces : splitAt isSeparator rest with
          | nil =>
              rw [splitAt_eq] at hpieces
              nomatch hpieces
          | cons piece pieces => rfl

/-- The pieces around a separator are those on either side of it. -/
theorem splitAt_append_cons (hc : isSeparator c = true) (front back : List Char) :
    splitAt isSeparator (front ++ c :: back) =
      splitAt isSeparator front ++ splitAt isSeparator back := by
  induction front with
  | nil =>
      have hnil : splitAt isSeparator [] = [[]] := rfl
      rw [List.nil_append, hnil, splitAt, hc, List.singleton_append]
  | cons d front ih =>
      rw [List.cons_append, splitAt, splitAt, ih]
      -- a separator opens a new piece in front, any other character joins the first piece
      cases isSeparator d with
      | true => rfl
      | false =>
          rw [splitAt_eq isSeparator front]
          rfl

/-- A text without the sign is a single piece. -/
theorem splitAt_of_notMem {sign : Char} (h : sign ∉ cs) : splitAt (· == sign) cs = [cs] :=
  splitAt_of_no_separator fun c hc => beq_eq_false_iff_ne.mpr fun heq => h (by rwa [← heq])

/-- A piece goes as far as the first separator. -/
theorem splitAt_of_first {sign : Char} {piece : List Char} (h : sign ∉ piece) (rest : List Char) :
    splitAt (· == sign) (piece ++ sign :: rest) = piece :: splitAt (· == sign) rest := by
  have hcut : splitAt (· == sign) (piece ++ sign :: rest) =
      splitAt (· == sign) piece ++ splitAt (· == sign) rest := by
    refine splitAt_append_cons ?_ piece rest
    exact beq_self_eq_true sign
  rw [hcut, splitAt_of_notMem h, List.singleton_append]

/-! ## Trimming -/

/-- No white space at either end. -/
def Trimmed (cs : List Char) : Prop :=
  (∀ c ∈ cs.head?, isBlank c = false) ∧ ∀ c ∈ cs.getLast?, isBlank c = false

/-- A search for a character of a class stops at one that is not in it. -/
theorem not_of_mem_head?_dropWhile {p : Char → Bool} :
    ∀ c ∈ (cs.dropWhile p).head?, p c = false := by
  intro c hc
  have hstop := List.head?_dropWhile_not p cs
  rwa [Option.mem_def.mp hc] at hstop

/-- White space around a text is what trimming takes away. -/
theorem trim_append {before middle after : List Char} (hbefore : ∀ c ∈ before, isBlank c = true)
    (hmiddle : Trimmed middle) (hafter : ∀ c ∈ after, isBlank c = true) :
    trim (before ++ middle ++ after) = middle := by
  obtain ⟨hfirst, hlast⟩ := hmiddle
  have hbehind : ∀ c ∈ after.reverse, isBlank c = true :=
    fun c hc => hafter c (List.mem_reverse.mp hc)
  cases middle with
  | nil =>
      -- nothing but white space, and all of it is in front
      have hall : ∀ c ∈ before ++ [] ++ after, isBlank c = true := by
        simpa [or_imp, forall_and] using And.intro hbefore hafter
      rw [trim, trimStart, List.dropWhile_eq_nil_iff.mpr hall]
      rfl
  | cons c rest =>
      have hfront : trimStart (before ++ (c :: rest ++ after)) = c :: rest ++ after :=
        (span_append hbefore (by simpa using hfirst)).2
      have hback : (after.reverse ++ (c :: rest).reverse).dropWhile isBlank = (c :: rest).reverse :=
        (span_append hbehind (by rwa [List.head?_reverse])).2
      rw [trim, List.append_assoc, hfront, trimEnd, List.reverse_append, hback,
        List.reverse_reverse]

theorem trimmed_trim (cs : List Char) : Trimmed (trim cs) := by
  have hlast : ∀ c ∈ (trim cs).getLast?, isBlank c = false := by
    rw [trim, trimEnd, List.getLast?_reverse]
    exact not_of_mem_head?_dropWhile
  refine ⟨fun c hc => ?_, hlast⟩
  -- what is left begins where the text without the white space in front of it begins
  obtain ⟨behind, hbehind⟩ : trim cs <+: trimStart cs :=
    List.rdropWhile_prefix isBlank (trimStart cs)
  have hstart : c ∈ (trimStart cs).head? := by
    rw [← hbehind, List.head?_append, Option.mem_def.mp hc]
    rfl
  exact not_of_mem_head?_dropWhile c hstart

/-- A text is what is left when it is trimmed, with white space around it. -/
theorem exists_trim (cs : List Char) :
    ∃ before after, (∀ c ∈ before, isBlank c = true) ∧ (∀ c ∈ after, isBlank c = true) ∧
      cs = before ++ trim cs ++ after := by
  refine ⟨cs.takeWhile isBlank, (trimStart cs).rtakeWhile isBlank,
    fun c => List.mem_takeWhile_imp, fun c => List.mem_rtakeWhile_imp, ?_⟩
  have hback : trim cs ++ (trimStart cs).rtakeWhile isBlank = trimStart cs :=
    List.rdropWhile_append_rtakeWhile
  rw [List.append_assoc, hback, trimStart, List.takeWhile_append_dropWhile]

/-! ## Words -/

/-- **The words around a blank are those on either side of it.** -/
theorem words_append_cons (hc : isBlank c = true) (front back : List Char) :
    words (front ++ c :: back) = words front ++ words back := by
  rw [words, splitAt_append_cons hc, List.filter_append]
  rfl

/-- A text without white space is a single word. -/
theorem words_of_solid (hne : cs ≠ []) (h : ∀ c ∈ cs, isBlank c = false) : words cs = [cs] := by
  rw [words, splitAt_of_no_separator h]
  simp [hne]

/-! ## Numbers -/

/-- No printable ASCII character but the space is white space. -/
theorem isBlank_of_printable (h : 0x21 ≤ c.toNat ∧ c.toNat ≤ 0x7E) : isBlank c = false := by
  rw [Bool.eq_false_iff, Ne, isBlank_iff]
  simp [blankRanges]
  omega

/-- Letters and digits are no white space. -/
theorem isBlank_of_isAlphanum (h : c.isAlphanum = true) : isBlank c = false := by
  have hclass : (c.isUpper || c.isLower || c.isDigit) = true := h
  rw [Bool.or_eq_true, Bool.or_eq_true] at hclass
  -- letters and digits lie in three ranges, all above the blanks of ASCII and below the others
  rcases hclass with (hupper | hlower) | hdigit
  · have hrange : 65 ≤ c.toNat ∧ c.toNat ≤ 90 := of_decide_eq_true hupper
    exact isBlank_of_printable (by omega)
  · obtain ⟨hfirst, hlast⟩ := Bool.and_eq_true_iff.mp hlower
    have hrange : 97 ≤ c.toNat ∧ c.toNat ≤ 122 :=
      ⟨of_decide_eq_true hfirst, of_decide_eq_true hlast⟩
    exact isBlank_of_printable (by omega)
  · obtain ⟨hfirst, hlast⟩ := Bool.and_eq_true_iff.mp hdigit
    have hrange : 48 ≤ c.toNat ∧ c.toNat ≤ 57 :=
      ⟨of_decide_eq_true hfirst, of_decide_eq_true hlast⟩
    exact isBlank_of_printable (by omega)

theorem isBlank_of_isDigit (h : c.isDigit = true) : isBlank c = false :=
  isBlank_of_isAlphanum (by rw [Char.isAlphanum, h, Bool.or_true])

/-- The digits of a number are digits. -/
theorem isDigit_of_mem_toDigits (n : Nat) : ∀ c ∈ Nat.toDigits 10 n, c.isDigit = true :=
  fun _ hc => Nat.isDigit_of_mem_toDigits (by omega) (by omega) hc

/-- A number is read as it is printed. -/
theorem readNat?_toDigits (n : Nat) : readNat? (Nat.toDigits 10 n) = some n := by
  have hdigits := isDigit_of_mem_toDigits n
  have hvalue : ofDigits (Nat.toDigits 10 n) = n := by
    rw [ofDigits, ← Nat.ofDigitChars_eq_foldl, Nat.ofDigitChars_toDigits (by omega) (by omega)]
  cases hcs : Nat.toDigits 10 n with
  | nil => exact absurd hcs Nat.toDigits_ne_nil
  | cons c rest =>
      rw [hcs] at hdigits hvalue
      have hhead : c.isDigit = true := hdigits c List.mem_cons_self
      -- no sign in front is taken away from what `toDigits` writes
      have hplus : c ≠ '+' := by
        rintro rfl
        nomatch hhead
      have hall : (c :: rest).all (·.isDigit) = true := List.all_eq_true.mpr hdigits
      simp [readNat?, hall, hvalue, hplus]

/-- Below its bound too. -/
theorem readBelow?_toDigits {bound n : Nat} (h : n < bound) :
    readBelow? bound (Nat.toDigits 10 n) = some n := by
  rw [readBelow?, readNat?_toDigits]
  simp [h]

end Narrative.Text
