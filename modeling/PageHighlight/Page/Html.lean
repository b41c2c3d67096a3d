/-
  Page/Html.lean --- reading a page from HTML and writing it.

  WHAT THIS FILE IS FOR.  A page is read from its parts and written segment by
  segment.  HTML that was not understood is written as it was read; the root
  element and the blocks are written from what the page says of them now.
-/
import PageHighlight.Page.Basic
import PageHighlight.Page.Part

set_option autoImplicit false

namespace PageHighlight

namespace Page

/-! ## Reading -/

/-- Add a part at the end of a page. -/
def addPart (p : Page) : Part → Page
  | .html t => { p with segments := p.segments ++ [.html t] }
  | .root attrs =>
    let attrs := Tag.attributes attrs
    { p with root := ⟨Tag.classesOf attrs, Tag.othersOf attrs⟩, segments := p.segments ++ [.root] }
  | .block b =>
    let attrs := Tag.attributes b.codeAttrs
    p.pushBlock (Tag.classesOf attrs) (Entity.decode b.source) (CodeBlock.preTag b.preAttrs)
      (Tag.othersOf attrs)

/-- The page made of these parts. -/
def ofParts (parts : List Part) : Page := parts.foldl addPart empty

/-- The page that a text is. -/
def ofHtml (t : Text) : Page := ofParts (Part.readAll t)

/-! ## Writing -/

/-- The start tag of the root element. -/
def rootTag (r : RootElement) : Text :=
  Markup.startTag "html" (Tag.withClasses r.classes r.attrs)

/-- A pristine block. -/
def writeSource (s : Slot) (source : Text) : Text :=
  s.preTag ++ Markup.startTag "code" (Tag.withClasses s.node.classes s.codeAttrs)
    ++ Entity.escape source ++ "</code></pre>".toList

/-- The button of a copy control. -/
def copyButton (c : CopyControl) : Markup :=
  .element "button"
    [("class", copyClass), ("type", "button"), ("data-state", c.state.name),
     ("aria-label", "Copy code")]
    [.text c.state.label]

/-- A rendered block. -/
def writeRendered (r : RenderedBlock) : Text :=
  Markup.startTag "div" [("class", renderedClass), ("data-theme", r.theme)] ++ r.markup
    ++ (copyButton r.copy).write ++ Markup.endTag "div"

/-- The block in a slot. -/
def writeSlot (s : Slot) : Text :=
  match s.node.content with
  | .source t => writeSource s t
  | .rendered r => writeRendered r

/-- A piece of a page. -/
def writeSegment (p : Page) : Segment → Text
  | .html t => t
  | .root => rootTag p.root
  | .block i =>
    match p.slots[i]? with
    | some s => writeSlot s
    | none => []

/-- A page as HTML. -/
def toHtml (p : Page) : Text := p.segments.flatMap p.writeSegment

end Page

end PageHighlight
