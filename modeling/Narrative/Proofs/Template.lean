import Mathlib
import Narrative.Proofs.Expr.Scanning
import Narrative.Template

/-!
# What becomes of tags

A text is cut into plain characters and complete tags, from left to right and without overlap. Its
preparation reports the first tag whose expression is malformed. An expression that fails while it
is evaluated is treated as in a guard: it counts as false and nothing is reported.

* **`Tagged`**, **`Parted`** — complete tags and the parts of a text, said by how they are spelled.
  `parted_iff` — the parts that are found are these.
* **`prepare_eq`** — what a text comes to.
* **`malformed_tags_are_reported`** — which failures are reported, and where that makes a
  difference.
* **`failing_tag_goes_unreported`** — a tag that fails while it is evaluated.
-/

namespace Narrative.Template

variable {c : Char} {cs guard body rest : List Char} {parts : List Segment} {ctx : Context}

/-! ## The parts of a text -/

/-- A text begins with a complete tag. -/
structure Tagged (cs guard body rest : List Char) : Prop where
  spelled : cs = "[if ".toList ++ guard ++ "]".toList ++ body ++ "[/if]".toList ++ rest
  guard_ne_nil : guard ≠ []
  guard_closed : ']' ∉ guard
  body_plain : '[' ∉ body

/-- A tag that is spelled at the front is found. -/
theorem Tagged.tag?_eq (h : Tagged cs guard body rest) : tag? cs = some (guard, body, rest) := by
  obtain ⟨rfl, hne, hguard, hbody⟩ := h
  obtain ⟨hopen, hinner⟩ := Text.span_until hguard (body ++ '[' :: '/' :: 'i' :: 'f' :: ']' :: rest)
  obtain ⟨hkept, hclose⟩ := Text.span_until hbody ('/' :: 'i' :: 'f' :: ']' :: rest)
  have htext : "[if ".toList ++ guard ++ "]".toList ++ body ++ "[/if]".toList ++ rest =
      '[' :: 'i' :: 'f' :: ' ' ::
        (guard ++ ']' :: (body ++ '[' :: '/' :: 'i' :: 'f' :: ']' :: rest)) := by simp
  have hsome : guard.isEmpty = false := List.isEmpty_eq_false_iff.mpr hne
  rw [htext, tag?, hopen, hinner, List.drop_one, List.tail_cons, hkept, hclose]
  simp only [hsome]
  rfl

/-- What a search for a character that is there leaves begins with it. -/
theorem exists_dropWhile_eq {stop : Char} (h : cs.dropWhile (· != stop) ≠ []) :
    ∃ after, cs.dropWhile (· != stop) = stop :: after := by
  obtain ⟨head, after, hafter⟩ := List.exists_cons_of_ne_nil h
  have hhead := List.head?_dropWhile_not (· != stop) cs
  rw [hafter, List.head?_cons] at hhead
  have heq : head = stop := by simpa using hhead
  exact ⟨after, heq ▸ hafter⟩

/-- A tag that is found is spelled at the front. -/
theorem tagged_of_tag? (h : tag? cs = some (guard, body, rest)) :
    Tagged cs guard body rest := by
  unfold tag? at h
  split at h
  · rename_i cs
    dsimp only at h
    split at h
    · rename_i after hclose
      split at h
      · nomatch h
      · rename_i hsome
        simp only [Option.some.injEq, Prod.mk.injEq] at h
        obtain ⟨rfl, rfl, rfl⟩ := h
        -- the guard ends at a bracket, since the body has one behind it
        have hguard : cs.dropWhile (· != ']') ≠ [] := by
          intro hnil
          rw [hnil] at hclose
          nomatch hclose
        obtain ⟨inner, hinner⟩ := exists_dropWhile_eq hguard
        rw [hinner, List.drop_one, List.tail_cons] at hclose ⊢
        have hcs := List.takeWhile_append_dropWhile (p := (· != ']')) (l := cs)
        have hrest := List.takeWhile_append_dropWhile (p := (· != '[')) (l := inner)
        rw [hinner] at hcs
        rw [hclose] at hrest
        refine ⟨?_, by simpa using hsome, fun hmem => ?_, fun hmem => ?_⟩
        · conv => lhs; rw [← hcs, ← hrest]
          simp
        · simpa using List.mem_takeWhile_imp hmem
        · simpa using List.mem_takeWhile_imp hmem
    · nomatch h
  · nomatch h

/-- A text is cut into parts from left to right: a complete tag where there is one, and else a
plain character. -/
inductive Parted : List Char → List Segment → Prop
  | nil : Parted [] []
  | tag {cs guard body rest : List Char} {parts : List Segment} (h : Tagged cs guard body rest)
      (later : Parted rest parts) : Parted cs (.tag guard body :: parts)
  | plain {c : Char} {cs : List Char} {parts : List Segment}
      (h : ∀ guard body rest, ¬ Tagged (c :: cs) guard body rest) (later : Parted cs parts) :
      Parted (c :: cs) (.plain c :: parts)

/-- A complete tag is cut off as a whole. -/
theorem segments_of_tagged (h : Tagged cs guard body rest) :
    segments cs = .tag guard body :: segments rest := by
  have htag := h.tag?_eq
  cases cs with
  | nil => cases htag
  | cons c cs =>
      rw [segments]
      split
      · rename_i hfound
        rw [htag] at hfound
        cases hfound
        rfl
      · rename_i hnone
        rw [htag] at hnone
        cases hnone

/-- Without a complete tag in front, a single character is cut off. -/
theorem segments_of_plain (h : ∀ guard body rest, ¬ Tagged (c :: cs) guard body rest) :
    segments (c :: cs) = .plain c :: segments cs := by
  rw [segments]
  split
  · rename_i hfound
    exact absurd (tagged_of_tag? hfound) (h _ _ _)
  · rfl

/-- **The parts of a text are those that are found.** -/
theorem parted_iff : Parted cs parts ↔ segments cs = parts := by
  constructor
  · intro h
    induction h with
    | nil => rw [segments]
    | tag h _ ih => rw [segments_of_tagged h, ih]
    | plain h _ ih => rw [segments_of_plain h, ih]
  · rintro rfl
    induction cs using segments.induct with
    | case1 => rw [segments]; exact .nil
    | case2 c cs guard body rest htag hlength ih =>
        -- the induction is along the cuts that are made, which look for a tag first
        have htagged := tagged_of_tag? htag
        rw [segments_of_tagged htagged]
        exact .tag htagged ih
    | case3 c cs hnone ih =>
        have hplain : ∀ guard body rest, ¬ Tagged (c :: cs) guard body rest := by
          intro guard body rest htagged
          rw [htagged.tag?_eq] at hnone
          cases hnone
        rw [segments_of_plain hplain]
        exact .plain hplain ih

/-! ## What a tag comes to -/

namespace Segment

/-- The error of a tag whose expression is malformed. -/
def malformed? : Segment → Option ExprError
  | .plain _ => none
  | .tag guard _ =>
    match Expr.parse (String.ofList guard) with
    | .ok _ => none
    | .error error => some error

/-- The error of a tag whose expression has no value, be it malformed or failing. -/
def failure? (ctx : Context) : Segment → Option ExprError
  | .plain _ => none
  | .tag guard _ =>
    match Expr.parse (String.ofList guard) >>= Expr.eval ctx with
    | .ok _ => none
    | .error error => some error

/-- What a part leaves: a plain character itself, and a tag its body where its expression has a
truthy value. -/
def shown (ctx : Context) : Segment → List Char
  | .plain c => [c]
  | .tag guard body =>
    match Expr.parse (String.ofList guard) >>= Expr.eval ctx with
    | .ok value => if value.truthy then body else []
    | .error _ => []

/-- A part whose expression, if it is one at all, has a value. -/
def Evaluates (ctx : Context) : Segment → Prop
  | .plain _ => True
  | .tag guard _ =>
    ∀ e, Expr.parse (String.ofList guard) = .ok e → ∃ value, e.eval ctx = .ok value

/-- A guard of one expression holds where the expression does, and is malformed where it is. -/
theorem evaluate_singleton (ctx : Context) (source : String) :
    Condition.evaluate ctx [source] = (Expr.parse source).map (Expr.holds ctx) := by
  rw [Condition.evaluate, Condition.parse, List.mapM_cons, List.mapM_nil]
  cases Expr.parse source with
  | error error => rfl
  | ok e =>
      have hany : Condition.anyHolds ctx [e] = Expr.holds ctx e := by
        rw [Condition.anyHolds, List.isEmpty_cons, Bool.false_or, List.any_cons, List.any_nil,
          Bool.or_false]
      exact congrArg Except.ok hany

/-- A tag whose guard is an expression leaves its body where that holds. An expression that fails
does not hold. -/
theorem shown_tag {e : Expr} (h : Expr.parse (String.ofList guard) = .ok e) (ctx : Context)
    (body : List Char) : (tag guard body).shown ctx = if e.holds ctx then body else [] := by
  rw [shown, h]
  show (match e.eval ctx with
    | .ok value => if value.truthy then body else []
    | .error _ => []) = _
  rw [Expr.holds]
  cases e.eval ctx <;> rfl

/-- A part is reported if it is malformed, and shown else. -/
theorem resolve_eq (ctx : Context) (segment : Segment) :
    segment.resolve ctx =
      match segment.malformed? with
      | some error => .error error
      | none => .ok (segment.shown ctx) := by
  cases segment with
  | plain c => rfl
  | tag guard body =>
      rw [resolve, malformed?, evaluate_singleton]
      -- a tag fails only where its guard cannot be read; a guard that fails while it runs is false
      cases hparse : Expr.parse (String.ofList guard) with
      | error error => rfl
      | ok e =>
          rw [shown_tag hparse]
          rfl

/-- Where expressions have values, only malformed ones fail. -/
theorem failure?_eq_malformed? {segment : Segment} (h : segment.Evaluates ctx) :
    segment.failure? ctx = segment.malformed? := by
  cases segment with
  | plain c => rfl
  | tag guard body =>
      rw [failure?, malformed?]
      cases hparse : Expr.parse (String.ofList guard) with
      | error error => rfl
      | ok e =>
          obtain ⟨value, hvalue⟩ := h e hparse
          show (match e.eval ctx with
            | .ok _ => none
            | .error error => some error) = none
          rw [hvalue]

end Segment

/-! ## What a text comes to -/

/-- The first part is resolved before the others. -/
theorem resolve_cons (ctx : Context) (segment : Segment) (rest : List Segment) :
    resolve ctx (segment :: rest) =
      segment.resolve ctx >>= fun shown => (resolve ctx rest).map (shown ++ ·) := by
  unfold resolve
  rw [List.mapM_cons]
  cases segment.resolve ctx with
  | error error => rfl
  | ok shown => cases rest.mapM (Segment.resolve ctx) <;> rfl

/-- Parts come to the error of the first malformed one, or to what they show. -/
theorem resolve_eq (ctx : Context) (parts : List Segment) :
    resolve ctx parts =
      match parts.findSome? Segment.malformed? with
      | some error => .error error
      | none => .ok (parts.flatMap (Segment.shown ctx)) := by
  induction parts with
  | nil => rfl
  | cons segment rest ih =>
      rw [resolve_cons, Segment.resolve_eq, List.findSome?_cons, List.flatMap_cons, ih]
      cases segment.malformed? with
      | some error => rfl
      | none => cases rest.findSome? Segment.malformed? <;> rfl

/-- **A text comes to the error of its first malformed tag**, or to what its parts show. -/
theorem prepare_eq (ctx : Context) (text : String) :
    prepare ctx text =
      match (segments text.toList).findSome? Segment.malformed? with
      | some error => .error error
      | none => .ok (String.ofList ((segments text.toList).flatMap (Segment.shown ctx))) := by
  rw [prepare, resolve_eq]
  cases (segments text.toList).findSome? Segment.malformed? <;> rfl

/-- The preparation fails with the first malformed tag. -/
theorem prepare_eq_error_iff {text : String} {error : ExprError} :
    prepare ctx text = .error error ↔
      (segments text.toList).findSome? Segment.malformed? = some error := by
  rw [prepare_eq]
  cases (segments text.toList).findSome? Segment.malformed? with
  | none => exact ⟨nofun, nofun⟩
  | some found =>
      exact ⟨fun h => congrArg some (Except.error.inj h), fun h => congrArg _ (Option.some.inj h)⟩

/-- Where every tag comes to a value, the first failure is the first malformed tag. -/
theorem findSome?_failure? (h : ∀ segment ∈ parts, segment.Evaluates ctx) :
    parts.findSome? (Segment.failure? ctx) = parts.findSome? Segment.malformed? := by
  induction parts with
  | nil => rfl
  | cons segment rest ih =>
      obtain ⟨hsegment, hrest⟩ := List.forall_mem_cons.mp h
      rw [List.findSome?_cons, List.findSome?_cons, Segment.failure?_eq_malformed? hsegment,
        ih hrest]

/-- **Malformed tags are reported, and no others.** A text has one division into plain characters
and complete tags. Its preparation fails exactly with the error of the first malformed tag; else it
keeps the plain characters and the bodies of the tags whose expression has a truthy value. So it
reports the first tag that fails in any way only as long as no expression fails while it is
evaluated. -/
theorem malformed_tags_are_reported (ctx : Context) (text : String) :
    ∃ parts, (∀ others, Parted text.toList others ↔ parts = others) ∧
      (∀ error, prepare ctx text = .error error ↔
        parts.findSome? Segment.malformed? = some error) ∧
      (parts.findSome? Segment.malformed? = none →
        prepare ctx text = .ok (String.ofList (parts.flatMap (Segment.shown ctx)))) ∧
      ((∀ segment ∈ parts, segment.Evaluates ctx) → ∀ error,
        prepare ctx text = .error error ↔
          parts.findSome? (Segment.failure? ctx) = some error) := by
  refine ⟨segments text.toList, fun others => parted_iff, fun error => prepare_eq_error_iff,
    fun hnone => ?_, fun hevaluates error => ?_⟩
  · rw [prepare_eq, hnone]
  · rw [prepare_eq_error_iff, findSome?_failure? hevaluates]

/-- Of two tags the first one holds, and the second one is malformed. -/
theorem second_tag_is_reported :
    ∃ parts, Parted "[if true]a[/if] [if true ||]b[/if]".toList parts ∧
      (∀ segment ∈ parts, segment.Evaluates .standalone) ∧
      parts.findSome? (Segment.failure? .standalone) = some (.malformed "true ||") ∧
      prepare .standalone "[if true]a[/if] [if true ||]b[/if]" = .error (.malformed "true ||") := by
  obtain ⟨parts, hparts, hreported, -, hfirst⟩ :=
    malformed_tags_are_reported .standalone "[if true]a[/if] [if true ||]b[/if]"
  obtain rfl : parts = [.tag "true".toList "a".toList, .plain ' ',
      .tag "true ||".toList "b".toList] := (hparts _).mp (parted_iff.mpr (by cbv))
  -- the malformed tag has no expression that could fail
  have hevaluates : ∀ segment ∈ [Segment.tag "true".toList "a".toList, .plain ' ',
      .tag "true ||".toList "b".toList], segment.Evaluates .standalone := by
    have htrue : Expr.parse (String.ofList "true".toList) = .ok (.literal (.bool true)) := by cbv
    have hmalformed : Expr.parse (String.ofList "true ||".toList) =
        .error (.malformed "true ||") := by cbv
    simp only [List.forall_mem_cons, List.not_mem_nil, false_imp_iff, implies_true, and_true]
    refine ⟨fun e he => ?_, trivial, fun e he => ?_⟩
    · rw [htrue] at he
      cases he
      exact ⟨_, rfl⟩
    · rw [hmalformed] at he
      cases he
  have hmalformed := (hreported (.malformed "true ||")).mpr (by cbv)
  exact ⟨_, (hparts _).mpr rfl, hevaluates, (hfirst hevaluates _).mp hmalformed, hmalformed⟩

/-- A tag that is a sentence, and fails while it is evaluated, is passed over. -/
theorem failing_tag_goes_unreported :
    ∃ parts, Parted "[if -true]x[/if]".toList parts ∧
      parts.findSome? (Segment.failure? .standalone) = some (.notNegatable .boolean) ∧
      prepare .standalone "[if -true]x[/if]" = .ok "" ∧
      ¬ ∀ error, prepare .standalone "[if -true]x[/if]" = .error error ↔
        parts.findSome? (Segment.failure? .standalone) = some error := by
  have hfailure : [Segment.tag "-true".toList "x".toList].findSome?
      (Segment.failure? .standalone) = some (.notNegatable .boolean) := by cbv
  have hprepared : prepare .standalone "[if -true]x[/if]" = .ok "" := by cbv
  refine ⟨[.tag "-true".toList "x".toList], parted_iff.mpr (by cbv), hfailure, hprepared,
    fun hreported => ?_⟩
  -- the failure would have to be the result, which is an empty text
  have herror := (hreported _).mpr hfailure
  rw [hprepared] at herror
  nomatch herror

end Narrative.Template
