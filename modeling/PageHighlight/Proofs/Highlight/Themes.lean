/-
  Proofs/Highlight/Themes.lean --- a theme decides about colours and about nothing that
  is read.

  WHAT THIS FILE IS FOR.  Passes look at the text of the runs of a line, and move and
  cut the runs with the styles that they have.  So a pass may as well be used on the
  lines without their styles (`MarkerPass.unstyled_applyToLine`), and two fragments that
  differ in styles only differ in styles only after every pass.  Engines that are built
  in make such fragments of one code with two themes
  (`Engine.IsBuiltIn.unstyledLines_eq`), hence a source block is rendered with both
  themes or with neither, and reads the same (`Setting.readsAs_of_render?`).
-/
import PageHighlight.Proofs.Highlight.LevelClasses

set_option autoImplicit false

namespace PageHighlight

/-! ## Lines without their styles -/

/-- A run as it is in no theme. -/
def Token.unstyled (t : Token) : Token := { t with style := none }

/-- A line as it is in no theme. -/
def RenderedLine.unstyled (l : RenderedLine) : RenderedLine :=
  { l with tokens := l.tokens.map Token.unstyled }

/-- The lines of a fragment as they are in no theme. -/
def Fragment.unstyledLines (f : Fragment) : List RenderedLine := f.lines.map RenderedLine.unstyled

@[simp] theorem Token.text_unstyled (t : Token) : t.unstyled.text = t.text := rfl

namespace RenderedLine

@[simp] theorem text_unstyled (l : RenderedLine) : l.unstyled.text = l.text := by
  simp only [unstyled, text, List.flatMap_map, Token.text_unstyled]

theorem unstyled_addAll (cs : List Text) (l : RenderedLine) :
    (cs.foldl (fun l c => l.addClass c) l).unstyled =
      cs.foldl (fun l c => l.addClass c) l.unstyled := by
  induction cs generalizing l with
  | nil => rfl
  | cons c cs ih => exact ih (l.addClass c)

end RenderedLine

/-! ## Passes -/

namespace MarkerPass

/-- A run without the markers of a pass. -/
def strip (p : MarkerPass) (t : Token) : Token := { t with text := (p.takeMarkers t.text).1 }

theorem takeFromLine_eq (p : MarkerPass) (l : RenderedLine) :
    p.takeFromLine l =
      if (l.tokens.flatMap fun t => (p.takeMarkers t.text).2).isEmpty then
        ({ l with tokens := l.tokens.map p.strip }, [])
      else
        ({ l with tokens := tidyTokens (l.tokens.map p.strip) },
          l.tokens.flatMap fun t => (p.takeMarkers t.text).2) := by
  simp only [takeFromLine, List.flatMap_map, List.map_map]
  rfl

theorem tidyTokens_unstyled (ts : List Token) :
    tidyTokens (ts.map Token.unstyled) = (tidyTokens ts).map Token.unstyled := by
  have hfilter : (ts.map Token.unstyled).filter (fun t => !t.text.isEmpty) =
      (ts.filter fun t => !t.text.isEmpty).map Token.unstyled := by
    rw [List.filter_map]
    rfl
  simp only [tidyTokens, hfilter, ← List.map_reverse]
  cases (ts.filter fun t => !t.text.isEmpty).reverse with
  | nil => rfl
  | cons last before =>
    simp only [List.map_cons]
    by_cases hempty : (dropEmptyComment last.text).isEmpty = true
    · have hempty' : (dropEmptyComment last.unstyled.text).isEmpty = true := hempty
      rw [if_pos hempty, if_pos hempty']
      cases before with
      | nil => rfl
      | cons previous rest =>
        simp only [List.map_cons, List.map_reverse]
        rfl
    · have hempty' : ¬ (dropEmptyComment last.unstyled.text).isEmpty = true := hempty
      rw [if_neg hempty, if_neg hempty', List.map_reverse]
      rfl

theorem takeFromLine_unstyled (p : MarkerPass) (l : RenderedLine) :
    p.takeFromLine l.unstyled = ((p.takeFromLine l).1.unstyled, (p.takeFromLine l).2) := by
  have hstripped : l.unstyled.tokens.map p.strip = (l.tokens.map p.strip).map Token.unstyled := by
    rw [RenderedLine.unstyled, List.map_map, List.map_map]
    rfl
  have hclasses : (l.unstyled.tokens.flatMap fun t => (p.takeMarkers t.text).2) =
      l.tokens.flatMap fun t => (p.takeMarkers t.text).2 := by
    rw [RenderedLine.unstyled, List.flatMap_map]
    rfl
  rw [takeFromLine_eq, takeFromLine_eq, hstripped, hclasses, tidyTokens_unstyled]
  split <;> rfl

/-- A pass gives and takes the same, whatever the styles of a line are. -/
theorem unstyled_applyToLine (p : MarkerPass) (l : RenderedLine) :
    (p.applyToLine l).unstyled = p.applyToLine l.unstyled := by
  rw [applyToLine_eq, applyToLine_eq, takeFromLine_unstyled, RenderedLine.unstyled_addAll]

/-- Fragments that differ in styles only still do after passes. -/
theorem unstyledLines_applyAll {f g : Fragment} (h : f.unstyledLines = g.unstyledLines)
    (passes : List MarkerPass) :
    (applyAll passes f).unstyledLines = (applyAll passes g).unstyledLines := by
  have apply_eq : ∀ (p : MarkerPass) (f : Fragment),
      (p.apply f).unstyledLines = f.unstyledLines.map p.applyToLine := by
    intro p f
    rw [Fragment.unstyledLines, Fragment.unstyledLines, lines_apply, List.map_map, List.map_map]
    exact List.map_congr_left fun l _ => p.unstyled_applyToLine l
  induction passes generalizing f g with
  | nil => exact h
  | cons p passes ih => exact ih (by rw [apply_eq, apply_eq, h])

end MarkerPass

/-! ## The text of a fragment -/

namespace Fragment

theorem text_eq_of_unstyledLines_eq {f g : Fragment} (h : f.unstyledLines = g.unstyledLines) :
    f.text = g.text := by
  have text_eq : ∀ f : Fragment, f.text = Text.unlines (f.unstyledLines.map RenderedLine.text) := by
    intro f
    rw [text, unstyledLines, List.map_map]
    exact congrArg Text.unlines (List.map_congr_left fun l _ => l.text_unstyled.symm)
  rw [text_eq, text_eq, h]

/-- The classes of levels are no text. -/
theorem text_withLevels (levels : LevelMap) (f : Fragment) :
    (f.withLevels levels).text = f.text := by
  have text_addLineClass : ∀ (i : Nat) (c : Text) (f : Fragment),
      (f.addLineClass i c).text = f.text := by
    intro i c f
    have hlines : (f.lines.modify i (RenderedLine.addClass c)).map RenderedLine.text =
        f.lines.map RenderedLine.text := by
      refine List.ext_getElem? fun j => ?_
      rw [List.getElem?_map, List.getElem?_map, List.getElem?_modify]
      split
      · rw [Option.map_eq_map, Option.map_map]
        rfl
      · simp
    rw [text, text, addLineClass, hlines]
  induction levels generalizing f with
  | nil => rfl
  | cons e levels ih =>
    obtain ⟨n, l⟩ := e
    rw [withLevels_cons, ih, text_addLineClass, text_addLineClass]

end Fragment

/-! ## Engines -/

namespace Engine

/-- The runs of a line do not depend on the theme. -/
theorem unstyled_styledLine (theme theme' : Theme) (line : Text) (spans : SpanLine) :
    (styledLine theme line spans).unstyled = (styledLine theme' line spans).unstyled := by
  simp only [styledLine, RenderedLine.unstyled, List.map_map]
  rfl

namespace IsBuiltIn

variable {offers takes : Text → Text → Prop} {e : Engine} {theme theme' : Text}

/-- What an engine that is built in makes of a code with two themes differs in styles
only. -/
theorem unstyledLines_eq (he : e.IsBuiltIn offers takes) {code language : Text} {f g : Fragment}
    (hf : e.render code language theme = .ok f) (hg : e.render code language theme' = .ok g) :
    f.unstyledLines = g.unstyledLines := by
  have hplain : ∀ t t' : Theme, (Fragment.plain t language code).unstyledLines =
      (Fragment.plain t' language code).unstyledLines := fun _ _ => rfl
  cases he with
  | plain themes =>
    obtain ⟨-, t, -, rfl⟩ := renderPlain_eq_ok_iff.1 hf
    obtain ⟨-, t', -, rfl⟩ := renderPlain_eq_ok_iff.1 hg
    exact hplain t t'
  | parsed parser registry themes =>
    obtain ⟨t, -, ⟨hlanguage, rfl⟩ | ⟨hlanguage, grammar, spans, hgrammar, hspans, rfl⟩⟩ :=
      renderParsed_eq_ok_iff.1 hf
    · obtain ⟨t', -, ⟨-, rfl⟩ | ⟨hother, -⟩⟩ := renderParsed_eq_ok_iff.1 hg
      · exact hplain t t'
      · exact absurd hlanguage hother
    · obtain ⟨t', -, ⟨hother, -⟩ | ⟨-, grammar', spans', hgrammar', hspans', rfl⟩⟩ :=
        renderParsed_eq_ok_iff.1 hg
      · exact absurd hother hlanguage
      · cases hgrammar.symm.trans hgrammar'
        cases hspans.symm.trans hspans'
        simp only [Fragment.unstyledLines, Fragment.ofLines, List.map_zipWith,
          unstyled_styledLine t t']

/-- A language is offered with every theme that is loaded, that is, offered for plain
text, or with none. -/
theorem offers_congr (he : e.IsBuiltIn offers takes) (h : offers Language.plainText theme)
    (h' : offers Language.plainText theme') (language : Text) :
    offers language theme ↔ offers language theme' := by
  cases he with
  | plain themes => exact iff_of_true h h'
  | parsed parser registry themes => exact and_congr_left fun _ => iff_of_true h.1 h'.1

end IsBuiltIn

end Engine

/-! ## Rendered blocks -/

/-- Two rendered blocks read the same: they show the same text with the same levels, and
the same is copied. -/
structure RenderedBlock.ReadsAs (r r' : RenderedBlock) : Prop where
  display : r'.display = r.display
  levels : r'.levels = r.levels
  copied : r'.copy.text = r.copy.text

namespace Setting

variable {s : Setting} {offers takes : Text → Text → Prop} {engine : Engine} {o : SourceBlock}
  {theme theme' : Text} {r r' : RenderedBlock}

/-- With engines that are built in, what is rendered of a source block reads the same in
every theme. -/
theorem readsAs_of_render? (he : engine.IsBuiltIn offers takes)
    (h : s.render? engine o theme = .ok r) (h' : s.render? engine o theme' = .ok r') :
    r.ReadsAs r' := by
  obtain ⟨f, hf, rfl⟩ := render?_eq_ok_iff.1 h
  obtain ⟨f', hf', rfl⟩ := render?_eq_ok_iff.1 h'
  refine ⟨rfl, rfl, ?_⟩
  have hlines := MarkerPass.unstyledLines_applyAll (he.unstyledLines_eq hf' hf) s.passes
  simp only [Fragment.text_withLevels]
  exact Fragment.text_eq_of_unstyledLines_eq hlines

/-- Whether a source block can be rendered is the same for all themes that are loaded. -/
theorem exists_render?_congr (he : engine.IsBuiltIn offers takes)
    (h : offers Language.plainText theme) (h' : offers Language.plainText theme') :
    (∃ r, s.render? engine o theme = .ok r) ↔ ∃ r, s.render? engine o theme' = .ok r := by
  have iff_offers : ∀ theme, (∃ r, s.render? engine o theme = .ok r) ↔
      offers o.language theme ∧ takes o.language (AnnotatedSource.ofSource o.text).display := by
    intro theme
    rw [← he.exists_fragment_iff (AnnotatedSource.ofSource o.text).display]
    constructor
    · rintro ⟨r, hr⟩
      obtain ⟨f, hf, -⟩ := render?_eq_ok_iff.1 hr
      exact ⟨f, hf⟩
    · rintro ⟨f, hf⟩
      exact ⟨_, render?_eq_ok_iff.2 ⟨f, hf, rfl⟩⟩
  rw [iff_offers, iff_offers, he.offers_congr h h']

end Setting

end PageHighlight
