/-
  Markup.lean --- HTML elements and how they are written.

  WHAT THIS FILE IS FOR.  Rendered blocks are built as a tree of elements and
  text and written in one place, so that tags nest by construction and every
  character from a source is escaped on its way out.
-/
import PageHighlight.Entity

set_option autoImplicit false

namespace PageHighlight

/-- An attribute of an element: its name and its value. -/
abbrev Attribute : Type := Text × Text

namespace Attribute

/-- An attribute as it is written in a tag, a space before it. -/
def write (a : Attribute) : Text :=
  [' '] ++ a.1 ++ "=\"".toList ++ Entity.escape a.2 ++ ['\x22']

/-- The attributes of a tag, in order. -/
def writeAll (as : List Attribute) : Text := as.flatMap write

end Attribute

/-- A piece of HTML: text, or an element with what is in it. -/
inductive Markup where
  | text (t : Text)
  | element (name : Text) (attrs : List Attribute) (content : List Markup)
  deriving Repr, Inhabited

namespace Markup

/-- The tag that opens an element. -/
def startTag (name : Text) (attrs : List Attribute) : Text :=
  ['<'] ++ name ++ Attribute.writeAll attrs ++ ['>']

/-- The tag that closes an element. -/
def endTag (name : Text) : Text := "</".toList ++ name ++ ['>']

mutual

/-- A piece of HTML as text. -/
def write : Markup → Text
  | text t => Entity.escape t
  | element name attrs content => startTag name attrs ++ writeAll content ++ endTag name

/-- Several pieces, one after another. -/
def writeAll : List Markup → Text
  | [] => []
  | m :: ms => write m ++ writeAll ms

end

mutual

/-- The text of a piece, without its elements. -/
def content : Markup → Text
  | text t => t
  | element _ _ ms => contentAll ms

/-- The text of several pieces. -/
def contentAll : List Markup → Text
  | [] => []
  | m :: ms => content m ++ contentAll ms

end

@[simp] theorem writeAll_append (ms ns : List Markup) :
    writeAll (ms ++ ns) = writeAll ms ++ writeAll ns := by
  induction ms with
  | nil => simp [writeAll]
  | cons m ms ih => simp [writeAll, ih]

@[simp] theorem contentAll_append (ms ns : List Markup) :
    contentAll (ms ++ ns) = contentAll ms ++ contentAll ns := by
  induction ms with
  | nil => simp [contentAll]
  | cons m ms ih => simp [contentAll, ih]

end Markup

end PageHighlight
