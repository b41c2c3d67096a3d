/-
  Proofs/Highlight/Markers.lean --- what a pass leaves of the runs of a line.

  WHAT THIS FILE IS FOR.  A pass takes its markers out of the runs of a line, and then
  tidies the end of the line: runs of which nothing is left go, and the last run that is
  left loses the comment that a marker left empty.  `MarkerPass.fates` says what becomes
  of each run, and a run is kept (`MarkerPass.Keeps`) if it loses nothing but markers, a
  comment that they left empty, and blanks at its end.

  THE LAST RUN.  Every run is kept but perhaps the last one that is left.  Its end is
  taken for an empty comment by what it looks like, whether a marker stood there or not;
  so it is kept if and only if it does not look so or a comment of it was left empty
  (`MarkerPass.runs_kept_iff`).
-/
import Mathlib.Data.List.ReduceOption
import PageHighlight.Proofs.Highlight.Themes
import PageHighlight.Proofs.Text.Blank

set_option autoImplicit false

namespace PageHighlight

namespace MarkerPass

variable (p : MarkerPass)

/-! ## Texts without markers -/

/-- A marker of the pass as it is written. -/
def IsMarker (w : Text) : Prop :=
  ∃ inner, w = opener ++ inner ++ "]".toList ∧ (p.classesFor? (Text.trim inner)).isSome = true

/-- A text, and what it is without some markers of the pass. -/
inductive Without : Text → Text → Prop where
  | nil : Without [] []
  | keep (c : Char) {t u : Text} (h : Without t u) : Without (c :: t) (c :: u)
  | leave {w t u : Text} (hw : p.IsMarker w) (h : Without t u) : Without (w ++ t) u

/-- A text holds no marker of the pass. -/
def HoldsNone (t : Text) : Prop := ∀ w, p.IsMarker w → ¬ w <:+: t

variable {p} {t u v : Text}

theorem Without.prepend (h : p.Without t u) (v : Text) : p.Without (v ++ t) (v ++ u) := by
  induction v with
  | nil => exact h
  | cons c v ih => exact .keep c ih

theorem Without.eq_of_holdsNone (h : p.Without t u) (hnone : p.HoldsNone t) : u = t := by
  induction h with
  | nil => rfl
  | keep c h ih => rw [ih fun w hw hin => hnone w hw (List.infix_cons hin)]
  | leave hw h ih => exact absurd (List.prefix_append _ _).isInfix (hnone _ hw)

/-- Taking markers out of a text takes nothing else out. -/
theorem without_takeMarkers (p : MarkerPass) (t : Text) : p.Without t (p.takeMarkers t).1 := by
  fun_induction takeMarkers p t with
  | case1 t hfirst => simpa using (Without.nil (p := p)).prepend t
  | case2 t before inner after hfirst rest classes hrest extra hextra ih =>
    rw [hrest] at ih
    have hmarker : p.IsMarker (opener ++ inner ++ "]".toList) :=
      ⟨inner, rfl, by rw [hextra]; rfl⟩
    have htail := (Without.leave hmarker ih).prepend before
    rw [eq_of_firstMarker? hfirst]
    simpa only [List.append_assoc] using htail
  | case3 t before inner after hfirst rest classes hrest hextra ih =>
    rw [hrest] at ih
    have htail := ih.prepend (before ++ opener ++ inner ++ "]".toList)
    rw [eq_of_firstMarker? hfirst]
    exact htail

theorem takeMarkers_of_holdsNone (h : p.HoldsNone t) : (p.takeMarkers t).1 = t :=
  (without_takeMarkers p t).eq_of_holdsNone h

/-! ## What a run may lose -/

/-- A text ends in a comment that is empty without the markers in it, and `u` is what stands
before the comment. -/
structure Empties (p : MarkerPass) (t u : Text) : Prop where
  cut : ∃ (form : CommentForm) (a x y : Text),
    t = a ++ form.opener ++ x ++ form.closer ++ y ∧ form ∈ commentForms ∧
    (∃ w, Text.allBlank w = true ∧ p.Without a (u ++ w)) ∧
    (Text.allBlank x = false ∧ ∃ x', p.Without x x' ∧ Text.allBlank x' = true) ∧
    ∃ y', p.Without y y' ∧ Text.allBlank y' = true

/-- Of a text nothing is lost but markers, a comment that they left empty, and blanks at
its end. -/
def Keeps (p : MarkerPass) (t u : Text) : Prop :=
  (∃ w, Text.allBlank w = true ∧ (p.takeMarkers t).1 = u ++ w) ∨ p.Empties t u

/-- A run is kept, or nothing is left of it that would have to be. -/
def KeepsRun (p : MarkerPass) (t : Token) : Option Token → Prop
  | some u => u.style = t.style ∧ p.Keeps t.text u.text
  | none => p.Keeps t.text []

theorem HoldsNone.not_empties (h : p.HoldsNone t) : ¬ p.Empties t u := by
  rintro ⟨form, a, x, y, rfl, -, -, ⟨hx, x', hwithout, hx'⟩, -⟩
  have hnone : p.HoldsNone x := by
    intro w hw hin
    refine h w hw (hin.trans ?_)
    exact ⟨a ++ form.opener, form.closer ++ y, by simp⟩
  rw [hwithout.eq_of_holdsNone hnone, hx] at hx'
  cases hx'

/-- A text without markers is kept up to blanks at its end. -/
theorem HoldsNone.keeps_iff (h : p.HoldsNone t) :
    p.Keeps t u ↔ ∃ w, Text.allBlank w = true ∧ t = u ++ w := by
  rw [Keeps, takeMarkers_of_holdsNone h, or_iff_left h.not_empties]

/-- A comment at the end of a text is dropped, if one is dropped, because markers left it
empty. -/
def Spares (p : MarkerPass) (t : Text) : Prop :=
  let bare := (p.takeMarkers t).1
  dropEmptyComment bare = Text.trimEnd bare ∨ p.Empties t (dropEmptyComment bare)

theorem HoldsNone.spares_iff (h : p.HoldsNone t) :
    p.Spares t ↔ dropEmptyComment t = Text.trimEnd t := by
  rw [Spares, takeMarkers_of_holdsNone h, or_iff_left h.not_empties]

theorem trimEnd_dropEmptyComment (t : Text) :
    Text.trimEnd (dropEmptyComment t) = dropEmptyComment t := by
  unfold dropEmptyComment
  dsimp only
  split <;> exact Text.trimEnd_trimEnd _

/-- What is left of a text that is tidied is kept just if the text is spared. -/
theorem keeps_tidied_iff :
    p.Keeps t (dropEmptyComment (p.takeMarkers t).1) ↔ p.Spares t := by
  refine or_congr_left ⟨?_, fun h => ?_⟩
  · rintro ⟨w, hw, hbare⟩
    have htrim := congrArg Text.trimEnd hbare
    rw [Text.trimEnd_append_blanks hw, trimEnd_dropEmptyComment] at htrim
    exact htrim.symm
  · obtain ⟨w, hw, hbare⟩ := Text.trimEnd_append (p.takeMarkers t).1
    exact ⟨w, hw, h ▸ hbare⟩

/-! ## What becomes of each run -/

/-- A run, unless nothing is left of it. -/
def left? (t : Token) : Option Token := if t.text.isEmpty then none else some t

/-- What becomes of runs, the last one first, if the last that is left loses the blanks at
its end. -/
def trimLast : List Token → List (Option Token)
  | [] => []
  | t :: before =>
    if t.text.isEmpty then none :: trimLast before
    else some { t with text := Text.trimEnd t.text } :: before.map left?

/-- What becomes of runs, the last one first, if the last that is left loses an empty
comment at its end; if nothing else is left of it, the one before loses its blanks. -/
def tidyLast : List Token → List (Option Token)
  | [] => []
  | t :: before =>
    if t.text.isEmpty then none :: tidyLast before
    else if (dropEmptyComment t.text).isEmpty then none :: trimLast before
    else some { t with text := dropEmptyComment t.text } :: before.map left?

/-- What becomes of each run of a line. -/
def fates (p : MarkerPass) (l : RenderedLine) : List (Option Token) :=
  if p.meets l then (tidyLast (l.tokens.map p.strip).reverse).reverse
  else (l.tokens.map p.strip).map some

/-- The last run of a line of which something is left without its markers. -/
def lastLeft? (p : MarkerPass) (l : RenderedLine) : Option Token :=
  l.tokens.reverse.find? fun t => !(p.takeMarkers t.text).1.isEmpty

theorem reduceOption_left (ts : List Token) :
    (ts.map left?).reduceOption = ts.filter fun t => !t.text.isEmpty := by
  induction ts with
  | nil => rfl
  | cons t ts ih =>
    rw [List.map_cons, left?]
    cases h : t.text.isEmpty <;> simp [h, ih]

theorem reduceOption_trimLast (ts : List Token) :
    (trimLast ts).reduceOption =
      match ts.filter fun t => !t.text.isEmpty with
      | [] => []
      | last :: before => { last with text := Text.trimEnd last.text } :: before := by
  induction ts with
  | nil => rfl
  | cons t ts ih =>
    rw [trimLast]
    cases h : t.text.isEmpty <;> simp [h, ih, reduceOption_left]

theorem reduceOption_tidyLast (ts : List Token) :
    (tidyLast ts).reduceOption =
      match ts.filter fun t => !t.text.isEmpty with
      | [] => []
      | last :: before =>
        if (dropEmptyComment last.text).isEmpty then
          match before with
          | [] => []
          | previous :: rest => { previous with text := Text.trimEnd previous.text } :: rest
        else { last with text := dropEmptyComment last.text } :: before := by
  induction ts with
  | nil => rfl
  | cons t ts ih =>
    rw [tidyLast]
    cases h : t.text.isEmpty with
    | true => simp [h, ih]
    | false =>
      cases htidied : (dropEmptyComment t.text).isEmpty <;>
        simp [h, htidied, reduceOption_left, reduceOption_trimLast]

/-- What becomes of the runs of a line is what the line has after it is tidied. -/
theorem tidyTokens_eq (ts : List Token) :
    tidyTokens ts = (tidyLast ts.reverse).reverse.reduceOption := by
  have hreverse : ∀ os : List (Option Token), os.reverse.reduceOption = os.reduceOption.reverse :=
    fun os => List.filterMap_reverse
  rw [hreverse, reduceOption_tidyLast, tidyTokens, List.filter_reverse]
  cases (ts.filter fun t => !t.text.isEmpty).reverse with
  | nil => rfl
  | cons last before =>
    dsimp only
    split
    · cases before <;> rfl
    · rfl

theorem tokens_addAll (cs : List Text) (l : RenderedLine) :
    (cs.foldl (fun l c => l.addClass c) l).tokens = l.tokens := by
  induction cs generalizing l with
  | nil => rfl
  | cons c cs ih => exact ih (l.addClass c)

/-- A line has after a pass what has become of its runs. -/
theorem tokens_applyToLine (p : MarkerPass) (l : RenderedLine) :
    (p.applyToLine l).tokens = (p.fates l).reduceOption := by
  have hall : ∀ ts : List Token, (ts.map some).reduceOption = ts := by
    intro ts
    rw [List.reduceOption, List.filterMap_map]
    exact List.filterMap_some
  rw [applyToLine_eq, tokens_addAll, fates, meets, takeFromLine_eq]
  split
  · rw [if_neg (by simp), hall]
  · next hclasses =>
    rw [if_pos (by simpa using hclasses), tidyTokens_eq]

/-! ## Runs are kept -/

theorem keepsRun_strip (t : Token) : p.KeepsRun t (some (p.strip t)) :=
  ⟨rfl, .inl ⟨[], rfl, (List.append_nil _).symm⟩⟩

theorem keepsRun_none_of_isEmpty {t : Token} (h : (p.strip t).text.isEmpty = true) :
    p.KeepsRun t none :=
  .inl ⟨[], rfl, List.isEmpty_iff.1 h⟩

theorem keepsRun_left? (t : Token) : p.KeepsRun t (left? (p.strip t)) := by
  rw [left?]
  split
  · next h => exact keepsRun_none_of_isEmpty h
  · exact keepsRun_strip t

theorem forall₂_left? (ts : List Token) :
    List.Forall₂ p.KeepsRun ts ((ts.map p.strip).map left?) := by
  rw [List.map_map, List.forall₂_map_right_iff]
  exact List.forall₂_same.2 fun t _ => keepsRun_left? t

/-- Runs are kept if the last one that is left loses the blanks at its end. -/
theorem forall₂_trimLast (ts : List Token) :
    List.Forall₂ p.KeepsRun ts (trimLast (ts.map p.strip)) := by
  induction ts with
  | nil => exact .nil
  | cons t ts ih =>
    rw [List.map_cons, trimLast]
    split
    · next h => exact .cons (keepsRun_none_of_isEmpty h) ih
    · obtain ⟨w, hw, hbare⟩ := Text.trimEnd_append (p.takeMarkers t.text).1
      exact .cons ⟨rfl, .inl ⟨w, hw, hbare⟩⟩ (forall₂_left? ts)

/-- Runs that are tidied are kept if and only if the last one that is left is spared. -/
theorem forall₂_tidyLast_iff (ts : List Token) :
    List.Forall₂ p.KeepsRun ts (tidyLast (ts.map p.strip)) ↔
      ∀ t, ts.find? (fun t => !(p.takeMarkers t.text).1.isEmpty) = some t → p.Spares t.text := by
  induction ts with
  | nil => exact iff_of_true .nil nofun
  | cons t ts ih =>
    have hbare : (p.strip t).text = (p.takeMarkers t.text).1 := rfl
    rw [List.map_cons, tidyLast, hbare]
    cases hempty : (p.takeMarkers t.text).1.isEmpty with
    | true =>
      rw [if_pos rfl, List.forall₂_cons, and_iff_right (keepsRun_none_of_isEmpty hempty), ih,
        List.find?_cons_of_neg (by simp [hempty])]
    | false =>
      have hfind : (t :: ts).find? (fun t => !(p.takeMarkers t.text).1.isEmpty) = some t :=
        List.find?_cons_of_pos (by simp [hempty])
      have hspares : (∀ t', some t = some t' → p.Spares t'.text) ↔ p.Spares t.text :=
        ⟨fun h => h t rfl, fun h t' ht' => Option.some.inj ht' ▸ h⟩
      rw [if_neg Bool.false_ne_true, hfind, hspares, ← keeps_tidied_iff]
      cases htidied : (dropEmptyComment (p.takeMarkers t.text).1).isEmpty with
      | true =>
        rw [if_pos rfl, List.forall₂_cons, and_iff_left (forall₂_trimLast ts),
          List.isEmpty_iff.1 htidied]
        rfl
      | false =>
        rw [if_neg Bool.false_ne_true, List.forall₂_cons, and_iff_left (forall₂_left? ts)]
        exact and_iff_right rfl

theorem forall₂_fates_iff (p : MarkerPass) (l : RenderedLine) :
    List.Forall₂ p.KeepsRun l.tokens (p.fates l) ↔
      (p.meets l = true → ∀ t, p.lastLeft? l = some t → p.Spares t.text) := by
  rw [fates]
  split
  · next hmeets =>
    rw [forall_prop_of_true hmeets, ← List.map_reverse, ← List.forall₂_reverse_iff,
      List.reverse_reverse, forall₂_tidyLast_iff]
    rfl
  · next hmeets =>
    refine iff_of_true ?_ fun h => absurd h hmeets
    rw [List.map_map, List.forall₂_map_right_iff]
    exact List.forall₂_same.2 fun t _ => keepsRun_strip t

/-- A line of a fragment has after a pass what becomes of its runs, and all of them are kept
if and only if no marker is met in the line or the last run that is left is spared.  Taking
markers out of a text takes nothing else out; and a text without markers is kept if it stays
as it is up to blanks at its end, and spared if it does not look as if it ended in an empty
comment. -/
theorem runs_kept_iff (p : MarkerPass) (f : Fragment) :
    ((p.apply f).lines.map (·.tokens) = f.lines.map fun l => (p.fates l).reduceOption) ∧
    (∀ t, p.Without t (p.takeMarkers t).1) ∧
    (∀ t, p.HoldsNone t →
      (∀ u, p.Keeps t u ↔ ∃ w, Text.allBlank w = true ∧ t = u ++ w) ∧
      (p.Spares t ↔ dropEmptyComment t = Text.trimEnd t)) ∧
    ∀ l, List.Forall₂ p.KeepsRun l.tokens (p.fates l) ↔
      (p.meets l = true → ∀ t, p.lastLeft? l = some t → p.Spares t.text) := by
  refine ⟨?_, p.without_takeMarkers, fun t ht => ⟨fun u => ht.keeps_iff, ht.spares_iff⟩,
    p.forall₂_fates_iff⟩
  rw [lines_apply, List.map_map]
  exact List.map_congr_left fun l _ => p.tokens_applyToLine l

/-- A call with a comment behind it that holds a marker and nothing else. -/
def markedCall : RenderedLine :=
  ⟨[⟨"call(); ", none⟩, ⟨"/* [!code focus] */", none⟩], []⟩

/-- The comment behind the call goes, and the runs are kept. -/
theorem runs_kept_markedCall :
    focus.meets markedCall = true ∧
      focus.fates markedCall = [some ⟨"call();", none⟩, none] ∧
      List.Forall₂ focus.KeepsRun markedCall.tokens (focus.fates markedCall) := by
  have hmarker : focus.IsMarker "[!code focus]".toList :=
    ⟨"focus".toList, by decide, by decide +kernel⟩
  have hlast : focus.lastLeft? markedCall = some ⟨"/* [!code focus] */", none⟩ := by
    decide +kernel
  have hspares : focus.Spares "/* [!code focus] */".toList := by
    have hdropped : dropEmptyComment (focus.takeMarkers "/* [!code focus] */".toList).1 = [] := by
      decide +kernel
    refine .inr ⟨⟨"/*", "*/"⟩, [], " [!code focus] ".toList, [], by decide, by decide, ?_, ?_, ?_⟩
    · rw [hdropped]
      exact ⟨[], rfl, .nil⟩
    · exact ⟨by decide, "  ".toList, .keep ' ' (.leave hmarker (.keep ' ' .nil)), by decide⟩
    · exact ⟨[], .nil, rfl⟩
  refine ⟨by decide +kernel, by decide +kernel, ?_⟩
  refine ((runs_kept_iff focus default).2.2.2 markedCall).2 fun _ t ht => ?_
  obtain rfl : (⟨"/* [!code focus] */", none⟩ : Token) = t := Option.some.inj (hlast.symm.trans ht)
  exact hspares

/-- A statement with a marker in front of it. -/
def markedStatement : RenderedLine :=
  ⟨[⟨"/* [!code ++] */", none⟩, ⟨" let a = 1", none⟩, ⟨";", none⟩], []⟩

/-- The semicolon of a statement is taken for an empty comment, and no run of the line has
it any more. -/
theorem not_runs_kept :
    diff ∈ builtin ∧ ∃ t ∈ markedStatement.tokens, diff.HoldsNone t.text ∧
      Text.allBlank t.text = false ∧
      ∀ u ∈ (diff.applyToLine markedStatement).tokens, Text.trimEnd u.text ≠ Text.trimEnd t.text := by
  refine ⟨by decide, ⟨";", none⟩, by decide, ?_, by decide, by decide +kernel⟩
  rintro w ⟨inner, rfl, -⟩ hin
  have hlength := hin.length_le
  have hopener : opener.length = 7 := rfl
  have hmark : ";".toList.length = 1 := rfl
  simp only [List.length_append] at hlength
  omega

end MarkerPass

end PageHighlight
