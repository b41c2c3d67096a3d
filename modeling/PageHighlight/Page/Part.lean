/-
  Page/Part.lean --- the parts of a written page.

  WHAT THIS FILE IS FOR.  Two things in a page are understood: the start tag of
  its root element, and blocks of code in `pre` and `code` elements.  `Part.readAll`
  cuts a page into these and the HTML between them.

  NOTHING IS LOST.  The texts of the parts, put together, are the page
  (`flatMap_text_readAll`); so what is not understood can be written back as it
  was.
-/
import PageHighlight.Page.Tag

set_option autoImplicit false

namespace PageHighlight

/-- A block of code as it is written in a page. -/
structure CodeBlock where
  /-- The attributes of its `pre`. -/
  preAttrs : Text
  /-- What stands between the tags of `pre` and `code`. -/
  gap : Text
  /-- The attributes of its `code`. -/
  codeAttrs : Text
  /-- The source, with its references. -/
  source : Text
  /-- What stands between the end tags. -/
  endGap : Text
  deriving DecidableEq, Repr, Inhabited

/-- A part of a written page. -/
inductive Part where
  /-- HTML that is passed through -/
  | html (t : Text)
  /-- the start tag of the root element, with these attributes -/
  | root (attrs : Text)
  /-- a block of code -/
  | block (b : CodeBlock)
  deriving DecidableEq, Repr, Inhabited

namespace CodeBlock

/-- A block without the start tag of its `pre`. -/
def body (b : CodeBlock) : Text :=
  b.gap ++ "<code".toList ++ b.codeAttrs ++ ['>'] ++ b.source ++ "</code>".toList ++ b.endGap
    ++ "</pre>".toList

/-- The start tag of a `pre` with these attributes. -/
def preTag (attrs : Text) : Text := "<pre".toList ++ attrs ++ ['>']

/-- A block as it stands in the page. -/
def text (b : CodeBlock) : Text := preTag b.preAttrs ++ b.body

/-- The block that follows the start tag of a `pre`, and what follows the
block. -/
def read? (preAttrs t : Text) : Option (CodeBlock × Text) := do
  let (codeAttrs, t') ← Tag.here? "code" (Text.trimStart t)
  let (source, t') ← Text.split? "</code>" t'
  let after ← Text.dropPrefix? "</pre>" (Text.trimStart t')
  some (⟨preAttrs, t.takeWhile Text.isBlank, codeAttrs, source, t'.takeWhile Text.isBlank⟩, after)

theorem takeWhile_append_trimStart (t : Text) :
    t.takeWhile Text.isBlank ++ Text.trimStart t = t :=
  List.takeWhile_append_dropWhile

theorem eq_of_read? {preAttrs t after : Text} {b : CodeBlock}
    (h : read? preAttrs t = some (b, after)) : b.preAttrs = preAttrs ∧ t = b.body ++ after := by
  simp only [read?, Option.bind_eq_bind, Option.bind_eq_some_iff] at h
  obtain ⟨⟨attrs, t1⟩, h1, ⟨source, t2⟩, h2, r, h3, h4⟩ := h
  cases h4
  refine ⟨rfl, ?_⟩
  have e1 : Text.trimStart t = _ := Tag.eq_of_here? h1
  have e2 : t1 = _ := Text.split?_eq_some h2
  have e3 : Text.trimStart t2 = _ := Text.dropPrefix?_eq_some.1 h3
  have e0 := takeWhile_append_trimStart t
  have e4 := takeWhile_append_trimStart t2
  rw [e1] at e0
  rw [e3] at e4
  refine e0.symm.trans ?_
  conv => lhs; rw [e2, ← e4]
  simp [body]

end CodeBlock

namespace Part

/-- A part as it stands in the page. -/
def text : Part → Text
  | html t => t
  | root attrs => "<html".toList ++ attrs ++ ['>']
  | block b => b.text

/-- The parts of a page after its root element. -/
def readBlocks (t : Text) : List Part :=
  match _h : Tag.find? "pre" t with
  | none => [html t]
  | some (before, preAttrs, after) =>
    match _h' : CodeBlock.read? preAttrs after with
    | some (b, rest) => html before :: block b :: readBlocks rest
    | none => html (before ++ CodeBlock.preTag preAttrs) :: readBlocks after
termination_by t.length
decreasing_by
  · have h1 := congrArg List.length (Tag.eq_of_find? _h)
    have h2 := congrArg List.length (CodeBlock.eq_of_read? _h').2
    simp only [List.length_append, List.length_cons] at h1 h2
    omega
  · have h1 := congrArg List.length (Tag.eq_of_find? _h)
    simp only [List.length_append, List.length_cons] at h1
    omega

/-- The parts of a page. -/
def readAll (t : Text) : List Part :=
  match Tag.find? "html" t with
  | some (before, attrs, after) => html before :: root attrs :: readBlocks after
  | none => readBlocks t

theorem flatMap_text_readBlocks (t : Text) : (readBlocks t).flatMap text = t := by
  fun_induction readBlocks t with
  | case1 t h => simp [text]
  | case2 t before preAttrs after h b rest h' ih =>
    have h1 := Tag.eq_of_find? h
    obtain ⟨h2, h3⟩ := CodeBlock.eq_of_read? h'
    simp only [List.flatMap_cons, ih]
    rw [h1, h3, ← h2]
    simp [text, CodeBlock.text, CodeBlock.preTag]
  | case3 t before preAttrs after h h' ih =>
    have h1 := Tag.eq_of_find? h
    simp only [List.flatMap_cons, ih]
    rw [h1]
    simp [text, CodeBlock.preTag]

/-- The parts of a page are the page. -/
theorem flatMap_text_readAll (t : Text) : (readAll t).flatMap text = t := by
  unfold readAll
  split
  · next before attrs after h =>
    have h1 := Tag.eq_of_find? h
    simp only [List.flatMap_cons, flatMap_text_readBlocks]
    rw [h1]
    simp [text]
  · exact flatMap_text_readBlocks t

end Part

end PageHighlight
