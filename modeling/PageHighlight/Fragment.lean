/-
  Fragment.lean --- a rendered block of code, line by line.

  WHAT THIS FILE IS FOR.  A fragment keeps its lines apart, so that later passes
  can give a line a class by its position.  It is written as one `pre` element
  with a `span` for every line; its text is the text of its lines and nothing
  else (`content_markup` ties the two).
-/
import PageHighlight.Markup
import PageHighlight.Theme

set_option autoImplicit false

namespace PageHighlight

/-! ## Lines -/

/-- A run of text drawn in one style; without a style it is drawn like the rest of
the block. -/
structure Token where
  /-- The text. -/
  text : Text
  /-- How it is drawn. -/
  style : Option Style
  deriving DecidableEq, Repr, Inhabited

/-- Add a class to a list of classes, at the end and only once. -/
def addClass (c : Text) (classes : List Text) : List Text :=
  if classes.contains c then classes else classes ++ [c]

theorem mem_addClass {c d : Text} {classes : List Text} :
    d ∈ addClass c classes ↔ d = c ∨ d ∈ classes := by
  unfold addClass
  split
  · next h =>
    have : c ∈ classes := by simpa using h
    constructor
    · exact .inr
    · rintro (rfl | h)
      · exact this
      · exact h
  · simp [or_comm]

/-- One line of a fragment. -/
structure RenderedLine where
  /-- The runs of the line, left to right. -/
  tokens : List Token
  /-- The classes of the line. -/
  classes : List Text
  deriving DecidableEq, Repr, Inhabited

namespace RenderedLine

/-- A line in one run without a style; an empty line has no run. -/
def plain (t : Text) : RenderedLine := ⟨if t.isEmpty then [] else [⟨t, none⟩], []⟩

/-- The text of a line. -/
def text (l : RenderedLine) : Text := l.tokens.flatMap (·.text)

/-- Give a line a class. -/
def addClass (c : Text) (l : RenderedLine) : RenderedLine :=
  { l with classes := PageHighlight.addClass c l.classes }

/-- Whether a line has a class. -/
def hasClass (c : Text) (l : RenderedLine) : Bool := l.classes.contains c

@[simp] theorem text_plain (t : Text) : (plain t).text = t := by
  unfold plain text
  split
  · next h => simp at h; simp [h]
  · simp

end RenderedLine

/-! ## Fragments -/

/-- A rendered block. -/
structure Fragment where
  /-- The name of the theme it was rendered with. -/
  theme : Text
  /-- Its language. -/
  language : Text
  /-- The colour behind it. -/
  background : Color
  /-- The colour of its text. -/
  foreground : Color
  /-- Classes of the whole block. -/
  classes : List Text
  /-- Its lines. -/
  lines : List RenderedLine
  deriving DecidableEq, Repr, Inhabited

namespace Fragment

/-- A fragment of these lines in the colours of a theme. -/
def ofLines (theme : Theme) (language : Text) (lines : List RenderedLine) : Fragment :=
  ⟨theme.name, language, theme.background, theme.foreground, [], lines⟩

/-- A text without any styles, a line for each of its lines. -/
def plain (theme : Theme) (language code : Text) : Fragment :=
  ofLines theme language ((Text.lines code).map RenderedLine.plain)

/-- Give a class to the line at an index, counted from zero; a line that does not
exist is left alone. -/
def addLineClass (i : Nat) (c : Text) (f : Fragment) : Fragment :=
  { f with lines := f.lines.modify i (RenderedLine.addClass c) }

/-- Give a class to the whole block. -/
def addClass (c : Text) (f : Fragment) : Fragment :=
  { f with classes := PageHighlight.addClass c f.classes }

/-- The text of a fragment. -/
def text (f : Fragment) : Text := Text.unlines (f.lines.map RenderedLine.text)

/-! ### Writing -/

/-- A run as HTML. -/
def tokenMarkup (t : Token) : Markup :=
  match t.style with
  | some s => .element "span" [("style", s.toCss)] [.text t.text]
  | none => .text t.text

/-- A line as HTML. -/
def lineMarkup (l : RenderedLine) : Markup :=
  .element "span" [("class", Text.join [' '] ("line".toList :: l.classes))]
    (l.tokens.map tokenMarkup)

/-- Lines as HTML, a line break between neighbours. -/
def linesMarkup : List RenderedLine → List Markup
  | [] => []
  | [l] => [lineMarkup l]
  | l :: m :: ls => lineMarkup l :: .text ['\n'] :: linesMarkup (m :: ls)

/-- A fragment as HTML. -/
def markup (f : Fragment) : Markup :=
  .element "pre"
    [("class", Text.join [' '] ("glint".toList :: f.theme :: f.classes)),
     ("style", "background-color:".toList ++ f.background.toHex ++ ";color:".toList
        ++ f.foreground.toHex),
     ("tabindex", "0"),
     ("data-language", f.language)]
    [.element "code" [] (linesMarkup f.lines)]

/-- A fragment written as HTML. -/
def toHtml (f : Fragment) : Text := f.markup.write

/-! ### The written text is the text -/

theorem content_tokenMarkup (t : Token) : (tokenMarkup t).content = t.text := by
  unfold tokenMarkup
  split <;> simp [Markup.content, Markup.contentAll]

theorem content_lineMarkup (l : RenderedLine) : (lineMarkup l).content = l.text := by
  have : ∀ ts : List Token,
      Markup.contentAll (ts.map tokenMarkup) = ts.flatMap (·.text) := by
    intro ts
    induction ts with
    | nil => simp [Markup.contentAll]
    | cons t ts ih => simp [Markup.contentAll, content_tokenMarkup, ih]
  simp [lineMarkup, Markup.content, this, RenderedLine.text]

theorem contentAll_linesMarkup (ls : List RenderedLine) :
    Markup.contentAll (linesMarkup ls) = Text.unlines (ls.map RenderedLine.text) := by
  induction ls with
  | nil => simp [linesMarkup, Markup.contentAll, Text.unlines, Text.join]
  | cons l ls ih =>
    cases ls with
    | nil =>
      simp [linesMarkup, Markup.contentAll, content_lineMarkup, Text.unlines, Text.join]
    | cons m ls =>
      simp only [linesMarkup, Markup.contentAll, content_lineMarkup, Markup.content, ih]
      simp [Text.unlines, Text.join]

/-- The text of the written elements is the text of the fragment. -/
theorem content_markup (f : Fragment) : f.markup.content = f.text := by
  simp [markup, Markup.content, Markup.contentAll, contentAll_linesMarkup, text]

end Fragment

end PageHighlight
