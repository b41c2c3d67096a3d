/-
  Proofs/Highlight/Lines.lean --- a fragment has the lines of the code it was made of.

  WHAT THIS FILE IS FOR.  Lines are counted more than once on the way from a source to
  a fragment: the code is split at its line breaks, and the spans of a parse tree are
  sorted by rows that are counted on their own.  Whatever the tree says, also one whose
  bytes and rows lie nowhere, both come to the same number (`Tree.length_spanLines`),
  and the runs of a line are the line; so an engine that is built in keeps the lines of
  its code, one by one (`Engine.IsBuiltIn.isBare`).

  WHEN THERE IS A FRAGMENT.  What such an engine offers is a matter of the language and
  the theme; whether it takes a code is a matter of the code and the language, since a
  parser may refuse a grammar, or make no tree of a source.  It makes a fragment if and
  only if it offers the one and takes the other (`Engine.IsBuiltIn.exists_fragment_iff`).
-/
import Mathlib.Data.List.Forall2
import PageHighlight.Engine.Basic
import PageHighlight.Proofs.Text.Rows

set_option autoImplicit false

namespace PageHighlight

/-! ## Rows of a tree -/

namespace Tree

/-- Lines begin behind line breaks. -/
theorem lineStarts_go (offset : Nat) (source : Text) :
    lineStarts.go offset source = (Text.breaksFrom offset source).map (· + 1) := by
  induction source generalizing offset with
  | nil => rfl
  | cons c r ih =>
    rw [lineStarts.go, Text.breaksFrom, ih]
    split
    · next hc => rw [hc]; rfl
    · rfl

theorem starts_ofSource (source : Text) :
    (Layout.ofSource source).starts = 0 :: (Text.breaksFrom 0 source).map (· + 1) :=
  congrArg (0 :: ·) (lineStarts_go 0 source)

theorem lineCount_ofSource (source : Text) :
    (Layout.ofSource source).lineCount = (Text.lines source).length := by
  rw [Layout.lineCount, starts_ofSource, List.length_cons, List.length_map,
    Text.length_breaksFrom]

/-- However a tree is made, there are spans for each line of the source and for no
other. -/
theorem length_spanLines (lang : Language) (source : Text) (t : Tree) :
    (t.spanLines lang source).length = (Text.lines source).length := by
  rw [spanLines, List.length_map, List.length_range, lineCount_ofSource]

end Tree

/-! ## Lines of a fragment -/

/-- A line that nothing was said about yet: it has this text and no classes. -/
structure RenderedLine.IsBare (text : Text) (l : RenderedLine) : Prop where
  text : l.text = text
  classes : l.classes = []

/-- A fragment whose lines are these, and that nothing was said about yet. -/
def Fragment.IsBare (ls : List Text) (f : Fragment) : Prop :=
  List.Forall₂ RenderedLine.IsBare ls f.lines

namespace Fragment

variable {f : Fragment} {ls : List Text}

theorem IsBare.length_lines (h : f.IsBare ls) : f.lines.length = ls.length := h.length_eq.symm

theorem IsBare.text_lines (h : f.IsBare ls) : f.lines.map RenderedLine.text = ls := by
  unfold IsBare at h
  generalize f.lines = lines at h
  induction h with
  | nil => rfl
  | cons hline _ ih => rw [List.map_cons, ih, hline.text]

theorem IsBare.text (h : f.IsBare ls) : f.text = Text.unlines ls := by
  rw [Fragment.text, h.text_lines]

theorem IsBare.classes_eq_nil (h : f.IsBare ls) {l : RenderedLine} (hl : l ∈ f.lines) :
    l.classes = [] := by
  unfold IsBare at h
  generalize f.lines = lines at h hl
  induction h with
  | nil => cases hl
  | cons hline _ ih =>
    rcases List.mem_cons.1 hl with rfl | hl
    · exact hline.classes
    · exact ih hl

theorem isBare_plain (theme : Theme) (language code : Text) :
    (plain theme language code).IsBare (Text.lines code) := by
  rw [IsBare, plain, ofLines, List.forall₂_map_right_iff]
  exact List.forall₂_same.2 fun l _ => ⟨RenderedLine.text_plain l, rfl⟩

end Fragment

/-! ## Engines -/

namespace Engine

/-- A parser can use a grammar, and makes a tree of a source by it. -/
def Parser.Parses (parser : Parser) (grammar source : Text) : Prop :=
  parser.refuses? grammar = none ∧ (parser.tree? grammar source).isSome = true

variable {parser : Parser} {grammar language code : Text}

/-- There are spans if and only if there is a tree, and they are those of the tree. -/
theorem spanLines_eq_ok_iff {spans : List SpanLine} :
    spanLines parser grammar language code = .ok spans ↔
      parser.refuses? grammar = none ∧ ∃ tree, parser.tree? grammar code = some tree ∧
        tree.spanLines (Language.ofTag language) code = spans := by
  unfold spanLines
  cases parser.refuses? grammar with
  | some why => simp
  | none => cases parser.tree? grammar code <;> simp

theorem exists_spanLines_iff :
    (∃ spans, spanLines parser grammar language code = .ok spans) ↔
      parser.Parses grammar code := by
  simp only [spanLines_eq_ok_iff, Parser.Parses, Option.isSome_iff_exists]
  constructor
  · rintro ⟨-, hgrammar, tree, htree, -⟩
    exact ⟨hgrammar, tree, htree⟩
  · rintro ⟨hgrammar, tree, htree⟩
    exact ⟨_, hgrammar, tree, htree, rfl⟩

theorem length_spanLines {spans : List SpanLine}
    (h : spanLines parser grammar language code = .ok spans) :
    spans.length = (Text.lines code).length := by
  obtain ⟨-, tree, -, rfl⟩ := spanLines_eq_ok_iff.1 h
  exact Tree.length_spanLines _ _ _

/-- What is rendered without grammars, with a theme that is listed and built in. -/
theorem renderPlain_eq_ok_iff {themes : List Text} {theme : Text} {f : Fragment} :
    renderPlain themes code language theme = .ok f ↔
      theme ∈ themes ∧ ∃ t, Theme.named? theme = some t ∧ f = Fragment.plain t language code := by
  unfold renderPlain
  by_cases hlisted : theme ∈ themes
  · cases Theme.named? theme <;> simp [hlisted, eq_comm]
  · simp [hlisted]

/-- What is rendered with grammars: plain text without one, anything else by the spans that
its grammar gives to its lines. -/
theorem renderParsed_eq_ok_iff {registry : Registry} {themes : List Theme} {theme : Text}
    {f : Fragment} :
    renderParsed parser registry themes code language theme = .ok f ↔
      ∃ t, themes.find? (·.name = theme) = some t ∧
        (language = Language.plainText ∧ f = Fragment.plain t language code ∨
          language ≠ Language.plainText ∧ ∃ grammar spans,
            registry.get? language = some grammar ∧
            spanLines parser grammar language code = .ok spans ∧
            f = Fragment.ofLines t language
              (List.zipWith (styledLine t) (Text.lines code) spans)) := by
  unfold renderParsed
  cases themes.find? (·.name = theme) with
  | none => simp
  | some t =>
    by_cases hplain : language = Language.plainText
    · simp [hplain, eq_comm]
    · cases registry.get? language with
      | none => simp [hplain]
      | some grammar =>
        cases h : spanLines parser grammar language code with
        | error e => simp [hplain, h, Except.map]
        | ok spans => simp [hplain, h, Except.map, eq_comm]

theorem isBare_styledLine (theme : Theme) (line : Text) (spans : SpanLine) :
    (styledLine theme line spans).IsBare line := by
  refine ⟨?_, rfl⟩
  rw [styledLine, RenderedLine.text, List.flatMap_map]
  exact SpanLine.flatMap_runsFrom spans 0 line

theorem forall₂_zipWith {α β γ : Type} {R : α → γ → Prop} {g : α → β → γ}
    (hg : ∀ a b, R a (g a b)) {as : List α} {bs : List β} (h : bs.length = as.length) :
    List.Forall₂ R as (List.zipWith g as bs) := by
  induction as generalizing bs with
  | nil =>
    rw [List.zipWith_nil_left]
    exact .nil
  | cons a as ih =>
    cases bs with
    | nil => cases h
    | cons b bs => exact .cons (hg a b) (ih (Nat.succ.inj h))

/-- An engine that is built in, with the languages and themes that it offers and the codes
that it takes: one without grammars, or one with grammars, whatever trees the parser makes
of a source. -/
inductive IsBuiltIn :
    (offers : (language theme : Text) → Prop) → (takes : (language code : Text) → Prop) →
      Engine → Prop where
  | plain (themes : List Text) :
      IsBuiltIn (fun _ theme => theme ∈ themes ∧ (Theme.named? theme).isSome = true)
        (fun _ _ => True) (plain themes)
  | parsed (parser : Parser) (registry : Registry) (themes : List Theme) :
      IsBuiltIn
        (fun language theme => (∃ t ∈ themes, t.name = theme) ∧
          (language = Language.plainText ∨ (registry.get? language).isSome = true))
        (fun language code => language = Language.plainText ∨
          ∃ grammar, registry.get? language = some grammar ∧ parser.Parses grammar code)
        ⟨Text.sort (themes.map (·.name)), renderParsed parser registry themes⟩

variable {offers takes : Text → Text → Prop} {e : Engine}

/-- What is built from a directory of grammars is built in. -/
theorem exists_isBuiltIn_of_ofGrammars {shelf : GrammarShelf} {c : Config}
    (h : ofGrammars shelf parser c = .ok e) : ∃ offers takes, IsBuiltIn offers takes e := by
  unfold ofGrammars at h
  split at h
  · cases h
  · dsimp only at h
    split at h
    · cases h
      exact ⟨_, _, .parsed _ _ _⟩
    · cases h

namespace IsBuiltIn

/-- An engine that is built in makes a fragment of the lines of the code, one for
each, whatever the parser says of it. -/
theorem isBare (he : e.IsBuiltIn offers takes) {theme : Text} {f : Fragment}
    (h : e.render code language theme = .ok f) : f.IsBare (Text.lines code) := by
  cases he with
  | plain themes =>
    obtain ⟨-, t, -, rfl⟩ := renderPlain_eq_ok_iff.1 h
    exact Fragment.isBare_plain _ _ _
  | parsed parser registry themes =>
    obtain ⟨t, -, ⟨-, rfl⟩ | ⟨-, grammar, spans, -, hspans, rfl⟩⟩ := renderParsed_eq_ok_iff.1 h
    · exact Fragment.isBare_plain _ _ _
    · exact forall₂_zipWith (isBare_styledLine t) (length_spanLines hspans)

/-- It makes one if and only if it offers the language with the theme and takes the code. -/
theorem exists_fragment_iff (he : e.IsBuiltIn offers takes) (code language theme : Text) :
    (∃ f, e.render code language theme = .ok f) ↔ offers language theme ∧ takes language code := by
  cases he with
  | plain themes =>
    simp only [Engine.plain, renderPlain_eq_ok_iff, Option.isSome_iff_exists, and_true]
    constructor
    · rintro ⟨f, hlisted, t, ht, -⟩
      exact ⟨hlisted, t, ht⟩
    · rintro ⟨hlisted, t, ht⟩
      exact ⟨_, hlisted, t, ht, rfl⟩
  | parsed parser registry themes =>
    have hloaded : (∃ t ∈ themes, t.name = theme) ↔
        ∃ t, themes.find? (·.name = theme) = some t := by
      rw [← Option.isSome_iff_exists, List.find?_isSome]
      simp
    have hparses : ∀ grammar, parser.Parses grammar code ↔
        ∃ spans, spanLines parser grammar language code = .ok spans :=
      fun _ => exists_spanLines_iff.symm
    simp only [renderParsed_eq_ok_iff, hloaded]
    by_cases hplain : language = Language.plainText
    · simp [hplain]
    · simp only [hplain, false_and, false_or, ne_eq, not_false_eq_true, true_and,
        hparses, Option.isSome_iff_exists]
      constructor
      · rintro ⟨f, t, ht, grammar, spans, hgrammar, hspans, -⟩
        exact ⟨⟨⟨t, ht⟩, grammar, hgrammar⟩, grammar, hgrammar, spans, hspans⟩
      · rintro ⟨⟨⟨t, ht⟩, -⟩, grammar, hgrammar, spans, hspans⟩
        exact ⟨_, t, ht, grammar, spans, hgrammar, hspans, rfl⟩

end IsBuiltIn

end Engine

end PageHighlight
