import Narrative.Text.Blank
import Narrative.Text.LineBreak

/-!
# Text.Wrap — fitting text into columns

`fill` breaks every line of a text that is too long. Each way to lay a line out has a cost that
counts lines and room left over, and the cheapest way is taken. The spaces in front of a break are
dropped, and a piece that is longer than a whole line is cut.

* **`wrapLine_broken`** — the lines into which a line is broken make it up, with the spaces between
  them. It rests on `segments_flatten` for the places where a line may be broken, on
  `Piece.ofSegmentCut_spaced` for what is cut, and on `layout_flatten` for the layout.
* **`fill_ink`** — a filled text shows what the text shows: the same characters in the same order,
  but for spaces and line breaks.
-/

namespace Narrative.Text

/-! ## Pieces -/

/-- A part of a line that is not broken, and the number of spaces behind it. -/
structure Piece where
  text : List Char
  spaces : Nat
  /-- The columns that the text takes. -/
  columns : Nat := width text
  columns_eq : columns = width text := by rfl
deriving DecidableEq

namespace Piece

/-- A piece from a segment of a line. -/
def ofSegment (segment : List Char) : Piece :=
  { text := (segment.reverse.dropWhile (· == ' ')).reverse
    spaces := (segment.reverse.takeWhile (· == ' ')).length }

def spaced (piece : Piece) : List Char := piece.text ++ List.replicate piece.spaces ' '

/-- Pieces from the parts of a piece. The spaces go to the last one. -/
def ofParts (spaces : Nat) : List (List Char) → List Piece
  | [] => []
  | [last] => [{ text := last, spaces }]
  | part :: rest => { text := part, spaces := 0 } :: ofParts spaces rest

/-- Cuts a text behind the hyphens that join two letters or numbers; `previous?` is the character in
front of it. -/
def hyphenated (previous? : Option Char) : List Char → List (List Char)
  | [] => [[]]
  | c :: cs =>
    let parts := hyphenated (some c) cs
    if c == '-' && previous?.any isAlphanumeric && cs.head?.any isAlphanumeric then [c] :: parts
    else extendFirst [c] parts

/-- Cuts a text where it would take more columns than a line has; `used` columns are taken. An
escape sequence at a cut stays in front of it. -/
def chunks (limit : Nat) (used : Nat) : List Glyph → List (List Char)
  | [] => [[]]
  | glyph :: rest =>
    let taken := glyph.columns
    if glyph.shown?.isSome && 0 < used && limit < used + taken then
      glyph.hidden :: extendFirst glyph.shown?.toList (chunks limit taken rest)
    else extendFirst glyph.chars (chunks limit (used + taken) rest)

/-- The pieces of which each fits into a line. -/
def cut (limit : Nat) (piece : Piece) : List Piece :=
  if piece.columns ≤ limit then [piece]
  else ofParts piece.spaces (chunks limit 0 (glyphs piece.text))

def ofSegmentCut (limit : Nat) (segment : List Char) : List Piece :=
  let piece := ofSegment segment
  (ofParts piece.spaces (hyphenated none piece.text)).flatMap (cut limit)

/-! ### Pieces keep the text -/

/-- A piece with its spaces is the segment it was made from. -/
theorem ofSegment_spaced (segment : List Char) : (ofSegment segment).spaced = segment := by
  have hspaces : segment.reverse.takeWhile (· == ' ') =
      List.replicate (segment.reverse.takeWhile (· == ' ')).length ' ' :=
    List.eq_replicate_iff.mpr ⟨rfl, fun c hc => by
      have hall := List.all_eq_true.mp (List.all_takeWhile (l := segment.reverse) (p := (· == ' ')))
      simpa using hall c hc⟩
  have hparts := congrArg List.reverse
    (List.takeWhile_append_dropWhile (p := (· == ' ')) (l := segment.reverse))
  rw [List.reverse_append, hspaces, List.reverse_replicate, List.reverse_reverse] at hparts
  exact hparts

/-- The pieces of parts are the parts with the spaces behind them. Induction on the parts. -/
theorem ofParts_spaced (spaces : Nat) {parts : List (List Char)} (h : parts ≠ []) :
    (ofParts spaces parts).flatMap spaced = parts.flatten ++ List.replicate spaces ' ' := by
  fun_induction ofParts spaces parts with
  | case1 => exact absurd rfl h
  | case2 last => simp [spaced]
  | case3 part rest hrest ih => simp [spaced, ih hrest]

/-- There is a first part, since it grows by characters. -/
theorem extendFirst_ne_nil (cs : List Char) (parts : List (List Char)) :
    extendFirst cs parts ≠ [] := by
  cases parts <;> simp [extendFirst]

/-- Cutting behind hyphens keeps the text. Induction on it. -/
theorem hyphenated_flatten (previous? : Option Char) (cs : List Char) :
    (hyphenated previous? cs).flatten = cs ∧ hyphenated previous? cs ≠ [] := by
  induction cs generalizing previous? with
  | nil => simp [hyphenated]
  | cons c cs ih =>
    simp only [hyphenated]
    split
    · simp [(ih (some c)).1]
    · exact ⟨by simp [extendFirst_flatten, (ih (some c)).1], extendFirst_ne_nil _ _⟩

/-- Cutting at the columns keeps the text. Induction on the glyphs. -/
theorem chunks_flatten (limit used : Nat) (line : List Glyph) :
    (chunks limit used line).flatten = line.flatMap Glyph.chars ∧ chunks limit used line ≠ [] := by
  induction line generalizing used with
  | nil => simp [chunks]
  | cons glyph rest ih =>
    simp only [chunks]
    split
    · simp [extendFirst_flatten, (ih _).1, Glyph.chars]
    · exact ⟨by simp [extendFirst_flatten, (ih _).1], extendFirst_ne_nil _ _⟩

/-- Cutting a piece keeps its text and its spaces. -/
theorem cut_spaced (limit : Nat) (piece : Piece) :
    (cut limit piece).flatMap spaced = piece.spaced := by
  unfold cut
  split
  · simp
  · have h := chunks_flatten limit 0 (glyphs piece.text)
    rw [ofParts_spaced _ h.2, h.1, glyphs_chars, spaced]

/-- The pieces of a segment put together are the segment. -/
theorem ofSegmentCut_spaced (limit : Nat) (segment : List Char) :
    (ofSegmentCut limit segment).flatMap spaced = segment := by
  have h := hyphenated_flatten none (ofSegment segment).text
  simp only [ofSegmentCut, List.flatMap_assoc, cut_spaced]
  rw [ofParts_spaced _ h.2, h.1]
  exact ofSegment_spaced segment

end Piece

/-! ## The cost of a layout -/

/-- What every line costs. -/
def lineCost : Nat := 1000

/-- What every column beyond the limit costs. -/
def excessCost : Nat := 2500

/-- What a short last line with a single piece costs. -/
def lonelyCost : Nat := 25

/-- The cost of a line that takes `used` columns. Unused columns cost their square, except in the
last line; that one should not be a single piece shorter than a quarter of a line. -/
def costOf (limit used : Nat) (single last : Bool) : Nat :=
  lineCost +
    if limit < used then excessCost * (used - limit)
    else if !last then (limit - used) * (limit - used)
    else if single && 4 * used < limit then lonelyCost
    else 0

/-- A layout of the first pieces of a line with its cost. -/
structure Draft where
  cost : Nat
  /-- The lines, the last one first. -/
  lines : List (List Piece)

/-- The layout of nothing. -/
def Draft.empty : Draft := { cost := 0, lines := [] }

/-- The pieces of a draft, in order. -/
def Draft.pieces (draft : Draft) : List Piece := draft.lines.reverse.flatten

/-- The draft that costs less; the later one, if both cost the same. -/
def Draft.better (earlier? : Option Draft) (later : Draft) : Draft :=
  match earlier? with
  | none => later
  | some earlier => if later.cost ≤ earlier.cost then later else earlier

/-- The cheapest draft that ends with a line from one of these places on. A place is a piece with
the cheapest draft of all pieces before it; the places are given backwards. `line` holds the
pieces behind them, which take `used` columns. -/
def cheapest (limit : Nat) (last : Bool) (line : List Piece) (used : Nat) (best? : Option Draft) :
    List (Draft × Piece) → Draft
  | [] => best?.getD .empty
  | (before, piece) :: earlier =>
    -- the spaces of the last piece of a line take no room
    let used := piece.columns + (if line.isEmpty then 0 else piece.spaces + used)
    let draft : Draft :=
      { cost := before.cost + costOf limit used line.isEmpty last
        lines := (piece :: line) :: before.lines }
    cheapest limit last (piece :: line) used (some (.better best? draft)) earlier

/-- The cheapest draft of all pieces, those of `places` and then the rest; `current` is that of
the former. -/
def draftAfter (limit : Nat) (places : List (Draft × Piece)) (current : Draft) :
    List Piece → Draft
  | [] => current
  | piece :: rest =>
    let places := (current, piece) :: places
    draftAfter limit places (cheapest limit rest.isEmpty [] 0 none places) rest

/-- The lines of the cheapest layout. -/
def layout (limit : Nat) (pieces : List Piece) : List (List Piece) :=
  (draftAfter limit [] .empty pieces).lines.reverse

/-! ## Filling -/

/-- The text of a line: all spaces but those behind its last piece. -/
def lineText : List Piece → List Char
  | [] => []
  | [last] => last.text
  | piece :: rest => piece.spaced ++ lineText rest

/-- The lines into which a line is broken. -/
def wrapLine (limit : Nat) (line : List Char) : List (List Char) :=
  (layout limit ((segments line).flatMap (Piece.ofSegmentCut limit))).map lineText

/-- A text with all its lines broken so that they fit into this many columns. -/
def fill (limit : Nat) (text : List Char) : List Char :=
  ['\n'].intercalate ((splitAt (· == '\n') text).flatMap (wrapLine limit))

/-! ## A layout keeps all pieces -/

/-- The pieces of places that are given backwards. -/
def piecesOf (places : List (Draft × Piece)) : List Piece := (places.map (·.2)).reverse

/-- Every place has a draft of all pieces before it. -/
def Consistent : List (Draft × Piece) → Prop
  | [] => True
  | (before, _) :: earlier => before.pieces = piecesOf earlier ∧ Consistent earlier

/-- The better of two drafts of the same pieces is one of them. -/
theorem better_pieces {earlier? : Option Draft} {later : Draft} {pieces : List Piece}
    (hearlier : ∀ earlier ∈ earlier?, earlier.pieces = pieces) (hlater : later.pieces = pieces) :
    (Draft.better earlier? later).pieces = pieces := by
  unfold Draft.better
  split
  · exact hlater
  · split
    · exact hlater
    · exact hearlier _ rfl

/-- The cheapest draft is one of all pieces. Induction on the places. -/
theorem cheapest_pieces (limit : Nat) (last : Bool) {places : List (Draft × Piece)} :
    ∀ {line used best?}, Consistent places →
      (∀ best ∈ best?, best.pieces = piecesOf places ++ line) → (places = [] → best?.isSome) →
      (cheapest limit last line used best? places).pieces = piecesOf places ++ line := by
  induction places with
  | nil =>
    intro line used best? _ hbest hsome
    obtain ⟨best, rfl⟩ := Option.isSome_iff_exists.mp (hsome rfl)
    simpa [cheapest] using hbest best rfl
  | cons place earlier ih =>
    obtain ⟨before, piece⟩ := place
    intro line used best? hplaces hbest _
    have hpieces : piecesOf ((before, piece) :: earlier) ++ line =
        piecesOf earlier ++ piece :: line := by
      simp [piecesOf]
    rw [hpieces] at hbest ⊢
    simp only [cheapest]
    refine ih hplaces.2 (fun best h => ?_) (fun _ => rfl)
    obtain rfl := Option.mem_some.mp h
    -- the new draft extends the one of its place by a line
    have hdraft : ∀ cost, Draft.pieces ⟨cost, (piece :: line) :: before.lines⟩ =
        piecesOf earlier ++ piece :: line := fun _ => by
      simpa [Draft.pieces] using hplaces.1
    exact better_pieces hbest (hdraft _)

/-- A layout keeps all pieces in order. Induction on the pieces. -/
theorem layout_flatten (limit : Nat) (pieces : List Piece) :
    (layout limit pieces).flatten = pieces := by
  -- any draft that is consistent keeps its pieces; the one at the start has none
  have general : ∀ places current, Consistent places → current.pieces = piecesOf places →
      (draftAfter limit places current pieces).pieces = piecesOf places ++ pieces := by
    induction pieces with
    | nil => simp [draftAfter]
    | cons piece rest ih =>
      intro places current hplaces hcurrent
      have hnext : Consistent ((current, piece) :: places) := ⟨hcurrent, hplaces⟩
      simp only [draftAfter]
      rw [ih _ _ hnext (by
        simpa using @cheapest_pieces limit rest.isEmpty _ [] 0 none hnext (by simp) (by simp))]
      simp [piecesOf]
  simpa [layout, Draft.pieces, piecesOf] using general [] .empty trivial rfl

/-! ## A filled text shows what the text shows -/

/-- Lines that make up a text, where each line may be followed by spaces that none of them has. -/
inductive Broken : List (List Char) → List Char → Prop
  | done : Broken [] []
  | line (spaces : Nat) {line text : List Char} {rest : List (List Char)} (h : Broken rest text) :
      Broken (line :: rest) (line ++ List.replicate spaces ' ' ++ text)

/-- The text of a line lacks the spaces behind its last piece and no more. Induction along
`lineText`. -/
theorem exists_lineText_spaces (line : List Piece) :
    ∃ spaces, line.flatMap Piece.spaced = lineText line ++ List.replicate spaces ' ' := by
  fun_induction lineText line with
  | case1 => exact ⟨0, rfl⟩
  | case2 last => exact ⟨last.spaces, by simp [Piece.spaced]⟩
  | case3 piece rest _ ih =>
    obtain ⟨spaces, hrest⟩ := ih
    exact ⟨spaces, by rw [List.flatMap_cons, hrest, List.append_assoc]⟩

/-- The lines of a layout make up the text of its pieces. Induction on the lines. -/
theorem map_lineText_broken (lines : List (List Piece)) :
    Broken (lines.map lineText) (lines.flatten.flatMap Piece.spaced) := by
  induction lines with
  | nil => exact .done
  | cons line rest ih =>
    obtain ⟨spaces, hline⟩ := exists_lineText_spaces line
    rw [List.map_cons, List.flatten_cons, List.flatMap_append, hline]
    exact .line spaces ih

/-- **Breaking a line loses nothing but spaces at the breaks.** -/
theorem wrapLine_broken (limit : Nat) (line : List Char) : Broken (wrapLine limit line) line := by
  have hpieces : ((segments line).flatMap (Piece.ofSegmentCut limit)).flatMap Piece.spaced =
      line := by
    simp only [List.flatMap_assoc, Piece.ofSegmentCut_spaced]
    rw [List.flatMap_id', segments_flatten]
  have h := map_lineText_broken (layout limit ((segments line).flatMap (Piece.ofSegmentCut limit)))
  rwa [layout_flatten, hpieces] at h

/-- Whether a character leaves ink on a page: all but spaces and line breaks. -/
def isInk (c : Char) : Bool := c != ' ' && c != '\n'

/-- Broken lines have the ink of their text. Induction on the lines. -/
theorem Broken.ink {lines : List (List Char)} {text : List Char} (h : Broken lines text) :
    lines.flatten.filter isInk = text.filter isInk := by
  induction h with
  | done => rfl
  | line spaces _ ih =>
    have hspaces : (List.replicate spaces ' ').filter isInk = [] := by simp [isInk]
    simp only [List.flatten_cons, List.filter_append, hspaces, List.append_nil, ih]

/-- Line breaks between lines leave no ink. Induction on the lines. -/
theorem intercalate_ink (lines : List (List Char)) :
    (['\n'].intercalate lines).filter isInk = lines.flatten.filter isInk := by
  have hbreak : ['\n'].filter isInk = [] := by decide
  induction lines with
  | nil => rfl
  | cons line rest ih =>
    cases rest with
    | nil => simp
    | cons next rest =>
      rw [List.intercalate_cons_cons, List.filter_append, List.filter_append, hbreak, ih,
        List.append_nil, ← List.filter_append, ← List.flatten_cons]

/-- The lines of a text have its ink: what is cut away are line breaks. Induction on the text. -/
theorem splitAt_ink (text : List Char) :
    (splitAt (· == '\n') text).flatten.filter isInk = text.filter isInk := by
  induction text with
  | nil => rfl
  | cons c cs ih =>
    rw [List.filter_cons, ← ih, splitAt]
    cases hc : c == '\n' with
    | true =>
      have hink : isInk c = false := by rw [eq_of_beq hc]; decide
      simp [hink]
    | false => cases splitAt (· == '\n') cs <;> simp [List.filter_cons]

/-- **A filled text shows what the text shows:** the same characters in the same order, but for
spaces and line breaks. -/
theorem fill_ink (limit : Nat) (text : List Char) :
    (fill limit text).filter isInk = text.filter isInk := by
  have hlines : ∀ line : List Char,
      (wrapLine limit line).flatten.filter isInk = line.filter isInk :=
    fun line => (wrapLine_broken limit line).ink
  rw [fill, intercalate_ink, ← splitAt_ink text]
  induction splitAt (· == '\n') text with
  | nil => rfl
  | cons line rest ih =>
    rw [List.flatMap_cons, List.flatten_append, List.filter_append, hlines, ih, List.flatten_cons,
      List.filter_append]

end Narrative.Text
