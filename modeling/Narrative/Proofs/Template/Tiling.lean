import Narrative.Proofs.Template

/-!
# Texts as tiles

A text with tags is laid out in tiles: stretches of plain text and complete tags. Preparing the
text leaves the plain stretches as they are and takes every tag for itself. A layout is the one
that counts if no complete tag begins inside a plain stretch, and every text has such a layout.

* **`Tiled`** — a text is laid out in tiles, with the leftmost complete tags among them.
  `tiled_of_wellFormed` — what is written with tags in mind is laid out as it is written, and
  `exists_tiled` — every text is laid out in some way.
* **`Tiled.prepares`** — what a text comes to, tile by tile.
* **`templates_work_tile_by_tile`** — all of it, for texts that are written with tags in mind and
  for any others.
-/

namespace Narrative.Template

/-- A stretch of plain text, or a tag. -/
inductive Tile where
  | plain (stretch : List Char)
  | tag (guard body : List Char)

namespace Tile

/-- The text of a tile. -/
def written : Tile → List Char
  | plain stretch => stretch
  | tag guard body => "[if ".toList ++ guard ++ "]".toList ++ body ++ "[/if]".toList

/-- Plain text without an opening bracket, or a complete tag. -/
def WellFormed : Tile → Prop
  | plain stretch => '[' ∉ stretch
  | tag guard body => guard ≠ [] ∧ ']' ∉ guard ∧ '[' ∉ body

/-- The parts that a tile is cut into. -/
def segments : Tile → List Segment
  | plain stretch => stretch.map .plain
  | tag guard body => [.tag guard body]

/-- A tag whose guard is an expression, or no tag at all. -/
def Readable : Tile → Prop
  | plain _ => True
  | tag guard _ => ∃ e, Expr.parse (String.ofList guard) = .ok e

/-- What is left of a tile: plain text as it is, and of a tag its body if its guard holds. -/
def kept (ctx : Context) : Tile → List Char
  | plain stretch => stretch
  | tag guard body => if Condition.evaluate ctx [String.ofList guard] = .ok true then body else []

end Tile

variable {cs guard body rest : List Char} {tiles tiles' : List Tile} {ctx : Context}
  {text : String} {error : ExprError}

/-! ## Layouts -/

/-- A complete tag begins here. -/
def HasTag (cs : List Char) : Prop := ∃ guard body rest, Tagged cs guard body rest

/-- A text is laid out in these tiles, from left to right: no complete tag begins inside a stretch
of plain text. -/
inductive Tiled : List Char → List Tile → Prop
  | nil : Tiled [] []
  | plain {stretch rest : List Char} {tiles : List Tile}
      (h : ∀ back, back <:+ stretch → back ≠ [] → ¬ HasTag (back ++ rest))
      (later : Tiled rest tiles) : Tiled (stretch ++ rest) (.plain stretch :: tiles)
  | tag {cs guard body rest : List Char} {tiles : List Tile} (h : Tagged cs guard body rest)
      (later : Tiled rest tiles) : Tiled cs (.tag guard body :: tiles)

/-- A complete tag begins with an opening bracket. -/
theorem HasTag.head?_eq (h : HasTag cs) : cs.head? = some '[' := by
  obtain ⟨guard, body, rest, htag⟩ := h
  rw [htag.spelled]
  rfl

/-- The tiles make up the text. -/
theorem Tiled.eq_written (h : Tiled cs tiles) : cs = tiles.flatMap Tile.written := by
  induction h with
  | nil => rfl
  | plain h _ ih =>
      rw [List.flatMap_cons, ← ih]
      rfl
  | @tag cs guard body rest tiles h _ ih =>
      have hspelled : cs = (Tile.tag guard body).written ++ rest := h.spelled
      rw [List.flatMap_cons, ← ih, hspelled]

/-- **What is written with tags in mind is laid out as it is written.** -/
theorem tiled_of_wellFormed (h : ∀ tile ∈ tiles, tile.WellFormed) :
    Tiled (tiles.flatMap Tile.written) tiles := by
  induction tiles with
  | nil => exact .nil
  | cons tile tiles ih =>
      obtain ⟨htile, hrest⟩ := List.forall_mem_cons.mp h
      have hlater := ih hrest
      rw [List.flatMap_cons]
      cases tile with
      | plain stretch =>
          refine .plain (fun back hsuffix hne htag => htile ?_) hlater
          -- a tag that began in there would begin with a bracket
          obtain ⟨c, back, rfl⟩ := List.exists_cons_of_ne_nil hne
          obtain rfl : c = '[' := Option.some.inj htag.head?_eq
          exact hsuffix.subset List.mem_cons_self
      | tag guard body =>
          obtain ⟨hguard, hclosed, hbody⟩ := htile
          exact .tag ⟨rfl, hguard, hclosed, hbody⟩ hlater

/-- **Every text is laid out in some way**: each plain character can be a stretch of its own. -/
theorem exists_tiled (cs : List Char) : ∃ tiles, Tiled cs tiles := by
  have hparted : Parted cs (segments cs) := parted_iff.mpr rfl
  generalize segments cs = parts at hparted
  induction hparted with
  | nil => exact ⟨[], .nil⟩
  | tag h _ ih =>
      obtain ⟨tiles, htiles⟩ := ih
      exact ⟨_, .tag h htiles⟩
  | @plain c cs parts h _ ih =>
      obtain ⟨tiles, htiles⟩ := ih
      -- a stretch of a single character has no proper back to begin a tag
      have hplain : ∀ back, back <:+ [c] → back ≠ [] → ¬ HasTag (back ++ cs) := by
        intro back hsuffix hne
        obtain rfl : back = [c] := (List.suffix_cons_iff.mp hsuffix).resolve_right fun hnil =>
          hne (List.suffix_nil.mp hnil)
        exact fun ⟨guard, body, rest, htag⟩ => h guard body rest htag
      exact ⟨_, .plain hplain htiles⟩

/-- A text in which no complete tag begins is laid out in one stretch. -/
theorem tiled_of_no_tag (h : ∀ back, back <:+ cs → ¬ HasTag back) : Tiled cs [.plain cs] := by
  have hplain : ∀ back, back <:+ cs → back ≠ [] → ¬ HasTag (back ++ []) := by
    intro back hsuffix _
    rw [List.append_nil]
    exact h back hsuffix
  have htiled : Tiled (cs ++ []) [.plain cs] := .plain hplain .nil
  rwa [List.append_nil] at htiled

/-- A stretch of plain text is cut into its characters. -/
theorem segments_append {stretch : List Char}
    (h : ∀ back, back <:+ stretch → back ≠ [] → ¬ HasTag (back ++ rest)) :
    segments (stretch ++ rest) = stretch.map .plain ++ segments rest := by
  induction stretch with
  | nil => rfl
  | cons c stretch ih =>
      have hc : ∀ guard body after, ¬ Tagged (c :: (stretch ++ rest)) guard body after :=
        fun guard body after htag =>
          h (c :: stretch) List.suffix_rfl (List.cons_ne_nil c stretch) ⟨guard, body, after, htag⟩
      have hstretch : ∀ back, back <:+ stretch → back ≠ [] → ¬ HasTag (back ++ rest) :=
        fun back hsuffix => h back (hsuffix.trans (List.suffix_cons c stretch))
      rw [List.cons_append, segments_of_plain hc, ih hstretch]
      rfl

/-- **The tiles are the parts that are found**, put together. -/
theorem Tiled.segments_eq (h : Tiled cs tiles) : segments cs = tiles.flatMap Tile.segments := by
  induction h with
  | nil =>
      rw [segments]
      rfl
  | plain h _ ih =>
      rw [segments_append h, ih]
      rfl
  | tag h _ ih =>
      rw [segments_of_tagged h, ih]
      rfl

/-! ## What tiles come to -/

namespace Tile

/-- The error of a tag whose guard is malformed. -/
def malformed? (tile : Tile) : Option ExprError := tile.segments.findSome? Segment.malformed?

/-- Plain text is never malformed. -/
theorem malformed?_plain (stretch : List Char) : (plain stretch).malformed? = none := by
  rw [malformed?, segments, List.findSome?_map, List.findSome?_eq_none_iff]
  exact fun _ _ => rfl

/-- A tag is malformed as its expression is. -/
theorem malformed?_tag_eq_some_iff :
    (tag guard body).malformed? = some error ↔ Expr.parse (String.ofList guard) = .error error := by
  have hmalformed : (tag guard body).malformed? = (Segment.tag guard body).malformed? := by
    rw [malformed?, segments, List.findSome?_cons, List.findSome?_nil]
    cases (Segment.tag guard body).malformed? <;> rfl
  rw [hmalformed, Segment.malformed?]
  cases Expr.parse (String.ofList guard) with
  | ok e => exact iff_of_false (fun h => by cases h) (fun h => by cases h)
  | error found =>
      exact ⟨fun h => congrArg _ (Option.some.inj h), fun h => congrArg some (Except.error.inj h)⟩

theorem malformed?_eq_none_iff {tile : Tile} : tile.malformed? = none ↔ tile.Readable := by
  cases tile with
  | plain stretch => exact iff_of_true (malformed?_plain stretch) trivial
  | tag guard body =>
      constructor
      · -- an expression is read or it is not, and only then something is reported
        intro hnone
        cases hparse : Expr.parse (String.ofList guard) with
        | ok e => exact ⟨e, hparse⟩
        | error error =>
            rw [malformed?_tag_eq_some_iff.mpr hparse] at hnone
            nomatch hnone
      · rintro ⟨e, hparse⟩
        cases hmalformed : (tag guard body).malformed? with
        | none => rfl
        | some error =>
            rw [malformed?_tag_eq_some_iff.mp hmalformed] at hparse
            nomatch hparse

/-- The first malformed part of a text is the first malformed tile. -/
theorem findSome?_segments (tiles : List Tile) :
    (tiles.flatMap segments).findSome? Segment.malformed? = tiles.findSome? malformed? := by
  induction tiles with
  | nil => rfl
  | cons tile tiles ih =>
      rw [List.flatMap_cons, List.findSome?_append, ih, List.findSome?_cons, malformed?]
      cases tile.segments.findSome? Segment.malformed? <;> rfl

/-- What the parts of a tile show is what is left of it. -/
theorem flatMap_shown (ctx : Context) (tile : Tile) :
    tile.segments.flatMap (Segment.shown ctx) = tile.kept ctx := by
  cases tile with
  | plain stretch =>
      rw [segments, List.flatMap_map]
      exact List.flatMap_singleton' stretch
  | tag guard body =>
      rw [segments, List.flatMap_singleton, kept, Segment.evaluate_singleton]
      cases hparse : Expr.parse (String.ofList guard) with
      | error error =>
          rw [Segment.shown, hparse]
          rfl
      | ok e =>
          -- the guard of a tag is a condition with one source
          have hholds : (Except.ok (e.holds ctx) : Except ExprError Bool) = .ok true ↔
              e.holds ctx = true := ⟨Except.ok.inj, congrArg Except.ok⟩
          rw [Segment.shown_tag hparse]
          exact if_congr hholds.symm rfl rfl

end Tile

/-- The guard of the first malformed tag among the tiles is refused with this error. -/
def FirstMalformed (tiles : List Tile) (error : ExprError) : Prop :=
  ∃ front guard body back, tiles = front ++ .tag guard body :: back ∧
    (∀ tile ∈ front, tile.Readable) ∧ Expr.parse (String.ofList guard) = .error error

/-- The first malformed tile is the one that a search finds. -/
theorem firstMalformed_iff :
    FirstMalformed tiles error ↔ tiles.findSome? Tile.malformed? = some error := by
  rw [List.findSome?_eq_some_iff]
  constructor
  · rintro ⟨front, guard, body, back, htiles, hfront, herror⟩
    exact ⟨front, .tag guard body, back, htiles, Tile.malformed?_tag_eq_some_iff.mpr herror,
      fun tile htile => Tile.malformed?_eq_none_iff.mpr (hfront tile htile)⟩
  · rintro ⟨front, tile, back, htiles, herror, hfront⟩
    -- the search might find any tile, but plain ones are never malformed
    cases tile with
    | plain stretch =>
        rw [Tile.malformed?_plain] at herror
        nomatch herror
    | tag guard body =>
        exact ⟨front, guard, body, back, htiles,
          fun tile htile => Tile.malformed?_eq_none_iff.mp (hfront tile htile),
          Tile.malformed?_tag_eq_some_iff.mp herror⟩

/-- A text comes to the error of its first malformed tag, and else to what is left of its tiles. -/
structure Prepares (ctx : Context) (text : String) (tiles : List Tile) : Prop where
  refused : ∀ error, prepare ctx text = .error error ↔ FirstMalformed tiles error
  readable : (∀ tile ∈ tiles, tile.Readable) →
    prepare ctx text = .ok (String.ofList (tiles.flatMap (Tile.kept ctx)))
  prepared : ∀ result, prepare ctx text = .ok result →
    result = String.ofList (tiles.flatMap (Tile.kept ctx))

/-- **A text is prepared tile by tile.** -/
theorem Tiled.prepares (h : Tiled text.toList tiles) : Prepares ctx text tiles := by
  have hkept : (fun tile : Tile => tile.segments.flatMap (Segment.shown ctx)) = Tile.kept ctx :=
    funext (Tile.flatMap_shown ctx)
  have hprepare := prepare_eq ctx text
  rw [h.segments_eq, Tile.findSome?_segments, List.flatMap_assoc, hkept] at hprepare
  cases hfirst : tiles.findSome? Tile.malformed? with
  | none =>
      rw [hfirst] at hprepare
      refine ⟨fun error => ?_, fun _ => hprepare, fun result hresult => ?_⟩
      · rw [hprepare, firstMalformed_iff, hfirst]
        exact ⟨nofun, nofun⟩
      · rw [hprepare] at hresult
        exact (Except.ok.inj hresult).symm
  | some found =>
      rw [hfirst] at hprepare
      refine ⟨fun error => ?_, fun hreadable => ?_, fun result hresult => ?_⟩
      · rw [hprepare, firstMalformed_iff, hfirst]
        exact ⟨fun h => congrArg some (Except.error.inj h), fun h => congrArg _ (Option.some.inj h)⟩
      · -- readable tiles have no malformed one among them
        have hnone : tiles.findSome? Tile.malformed? = none := List.findSome?_eq_none_iff.mpr
          fun tile htile => Tile.malformed?_eq_none_iff.mpr (hreadable tile htile)
        rw [hfirst] at hnone
        nomatch hnone
      · rw [hprepare] at hresult
        nomatch hresult

/-- **Templating works tile by tile.** A text that is written as plain stretches without opening
brackets and complete tags, in any order, comes to the error of its first malformed tag, and else to
the stretches and the bodies of the tags that hold. So does any other text, however its brackets are
broken, in every layout: the tiles make the text up, and all layouts have the same tags in the same
places. A text in which no complete tag begins comes back as it is. -/
theorem templates_work_tile_by_tile (ctx : Context) :
    (∀ tiles : List Tile, (∀ tile ∈ tiles, tile.WellFormed) →
      Prepares ctx (String.ofList (tiles.flatMap Tile.written)) tiles) ∧
    ∀ text : String,
      (∃ tiles, Tiled text.toList tiles) ∧
      (∀ tiles, Tiled text.toList tiles →
        text = String.ofList (tiles.flatMap Tile.written) ∧ Prepares ctx text tiles) ∧
      (∀ tiles tiles', Tiled text.toList tiles → Tiled text.toList tiles' →
        tiles.flatMap Tile.segments = tiles'.flatMap Tile.segments) ∧
      ((∀ back, back <:+ text.toList → ¬ HasTag back) → prepare ctx text = .ok text) := by
  refine ⟨fun tiles htiles => ?_, fun text => ⟨exists_tiled text.toList, fun tiles htiled => ?_,
    fun tiles tiles' htiled htiled' => ?_, fun hno => ?_⟩⟩
  · have htiled : Tiled (String.ofList (tiles.flatMap Tile.written)).toList tiles := by
      rw [String.toList_ofList]
      exact tiled_of_wellFormed htiles
    exact htiled.prepares
  · rw [← htiled.eq_written, String.ofList_toList]
    exact ⟨rfl, htiled.prepares⟩
  · rw [← htiled.segments_eq, ← htiled'.segments_eq]
  · -- a text without a tag is a single plain tile
    have hprepares : Prepares ctx text [.plain text.toList] := (tiled_of_no_tag hno).prepares
    have hwhole := hprepares.readable (List.forall_mem_singleton.mpr trivial)
    rw [hwhole, List.flatMap_singleton, Tile.kept, String.ofList_toList]

/-- Two tags side by side, a tag between brackets that belong to none, and half a tag. -/
theorem broken_brackets_stay :
    (∀ tile ∈ [Tile.tag "false".toList "a".toList, .tag "!false".toList "b".toList, .plain ['c']],
        tile.WellFormed) ∧
      prepare .standalone "[if false]a[/if][if !false]b[/if]c" = .ok "bc" ∧
      (∃ tiles, Tiled "[if ]x[/if][if true]y[/if] [if a]z[".toList tiles ∧
        "[if ]x[/if]y [if a]z[" = String.ofList (tiles.flatMap (Tile.kept .standalone))) ∧
      (∀ back, back <:+ "[if a]z[".toList → ¬ HasTag back) ∧
      prepare .standalone "[if a]z[" = .ok "[if a]z[" := by
  obtain ⟨hwritten, hany⟩ := templates_work_tile_by_tile .standalone
  have hwellFormed : ∀ tile ∈ [Tile.tag "false".toList "a".toList, .tag "!false".toList "b".toList,
      .plain ['c']], tile.WellFormed := by
    simp only [List.forall_mem_cons]
    exact ⟨⟨by decide, by decide, by decide⟩, ⟨by decide, by decide, by decide⟩,
      (by decide : '[' ∉ ['c']), List.forall_mem_nil _⟩
  have hreadable : ∀ tile ∈ [Tile.tag "false".toList "a".toList, .tag "!false".toList "b".toList,
      .plain ['c']], tile.Readable := by
    have hfalse : Expr.parse (String.ofList "false".toList) = .ok (.literal (.bool false)) := by cbv
    have htrue : Expr.parse (String.ofList "!false".toList) =
        .ok (.unary .not (.literal (.bool false))) := by cbv
    simp only [List.forall_mem_cons]
    exact ⟨⟨_, hfalse⟩, ⟨_, htrue⟩, trivial, List.forall_mem_nil _⟩
  have hkept : [Tile.tag "false".toList "a".toList, .tag "!false".toList "b".toList,
      .plain ['c']].flatMap (Tile.kept .standalone) = ['b', 'c'] := by cbv
  have hside := (hwritten _ hwellFormed).readable hreadable
  rw [hkept] at hside
  have hbroken : prepare .standalone "[if ]x[/if][if true]y[/if] [if a]z[" =
      .ok "[if ]x[/if]y [if a]z[" := by cbv
  have hnone : ∀ back, back <:+ "[if a]z[".toList → ¬ HasTag back := by
    -- a tag would begin one of the tails, and there are few of them
    have htails : ∀ back ∈ "[if a]z[".toList.tails, Template.tag? back = none := by decide
    rintro back hback ⟨guard, body, rest, htag⟩
    have hfound := htails back ((List.mem_tails _ _).mpr hback)
    rw [htag.tag?_eq] at hfound
    cases hfound
  obtain ⟨⟨tiles, htiled⟩, hlaid, -, -⟩ := hany "[if ]x[/if][if true]y[/if] [if a]z["
  obtain ⟨-, -, -, hwhole⟩ := hany "[if a]z["
  exact ⟨hwellFormed, hside, ⟨tiles, htiled, (hlaid tiles htiled).2.prepared _ hbroken⟩, hnone,
    hwhole hnone⟩

end Narrative.Template
