/-
  Page/Basic.lean --- a page: its root element, its blocks of code, and the HTML
  between them.

  WHAT THIS FILE IS FOR.  A block is either pristine, showing its source, or
  rendered.  It lives in a slot; the slot remembers what the block was before it
  was first rendered, so that it can be put back.

  IDENTITY.  Every block has a number.  Rendering replaces the block by a new one
  with a new number; putting it back keeps the number.  An operation on a number
  that no block has changes no block.
-/
import PageHighlight.Language
import PageHighlight.Level
import PageHighlight.Markup

set_option autoImplicit false

namespace PageHighlight

/-! ## The root element -/

/-- The root element of a page. -/
structure RootElement where
  /-- Its classes. -/
  classes : List Text
  /-- Its other attributes, in order. -/
  attrs : List Attribute
  deriving DecidableEq, Repr, Inhabited

namespace RootElement

/-- Whether it has a class. -/
def hasClass (c : Text) (r : RootElement) : Bool := r.classes.contains c

/-- Give it a class, or take the class away; also whether that changed it. -/
def setClass (c : Text) (on : Bool) (r : RootElement) : RootElement × Bool :=
  match r.hasClass c, on with
  | false, true => ({ r with classes := r.classes ++ [c] }, true)
  | true, false => ({ r with classes := r.classes.filter (· ≠ c) }, true)
  | _, _ => (r, false)

/-- The value of an attribute: the first of this name counts. -/
def attr? (name : Text) (r : RootElement) : Option Text :=
  (r.attrs.find? (·.1 = name)).map (·.2)

/-- The attributes with the first one of a name replaced. -/
def replaceAttr (name value : Text) : List Attribute → List Attribute
  | [] => []
  | a :: as => if a.1 = name then (a.1, value) :: as else a :: replaceAttr name value as

/-- The attributes without the first one of a name. -/
def removeAttr (name : Text) : List Attribute → List Attribute
  | [] => []
  | a :: as => if a.1 = name then as else a :: removeAttr name as

/-- Give an attribute a value, or take the attribute away; also whether that
changed the element. -/
def setAttr (name : Text) (value : Option Text) (r : RootElement) : RootElement × Bool :=
  match r.attr? name, value with
  | some old, some new =>
    if old = new then (r, false) else ({ r with attrs := replaceAttr name new r.attrs }, true)
  | some _, none => ({ r with attrs := removeAttr name r.attrs }, true)
  | none, some new => ({ r with attrs := r.attrs ++ [(name, new)] }, true)
  | none, none => (r, false)

end RootElement

/-! ## Blocks -/

/-- The number of a block. -/
abbrev NodeId : Type := Nat

/-- What a copy control shows. -/
inductive CopyState where
  | idle
  | copied
  deriving DecidableEq, Repr, Inhabited

namespace CopyState

/-- The state as it is written in an attribute. -/
def name : CopyState → Text
  | idle => "idle"
  | copied => "copied"

/-- The state as readers see it. -/
def label : CopyState → Text
  | idle => "Copy"
  | copied => "Copied"

end CopyState

/-- The control that copies a block. -/
structure CopyControl where
  /-- What it copies. -/
  text : Text
  /-- What it shows. -/
  state : CopyState
  deriving DecidableEq, Repr, Inhabited

/-- What a rendered block shows. -/
structure RenderedBlock where
  /-- Its HTML. -/
  markup : Text
  /-- The source without directives. -/
  display : Text
  /-- The levels of the lines. -/
  levels : LevelMap
  /-- The theme it was rendered with. -/
  theme : Text
  /-- Its copy control. -/
  copy : CopyControl
  deriving DecidableEq, Repr, Inhabited

/-- What a block shows. -/
inductive Content where
  | source (t : Text)
  | rendered (r : RenderedBlock)
  deriving DecidableEq, Repr, Inhabited

/-- A block of a page. -/
structure Node where
  /-- Its number. -/
  id : NodeId
  /-- Its classes. -/
  classes : List Text
  /-- What it shows. -/
  content : Content
  deriving DecidableEq, Repr, Inhabited

namespace Node

/-- What a rendered block shows. -/
def rendered? (n : Node) : Option RenderedBlock :=
  match n.content with
  | .rendered r => some r
  | .source _ => none

/-- Whether a block is rendered. -/
def isRendered (n : Node) : Bool := n.rendered?.isSome

/-- Whether a block has a class. -/
def hasClass (c : Text) (n : Node) : Bool := n.classes.contains c

/-- The language tag of a block, as its classes give it. -/
def tag? (n : Node) : Option Text := Language.tagOfClasses? n.classes

end Node

/-- What a block was before it was first rendered. -/
structure SourceBlock where
  /-- Its source. -/
  text : Text
  /-- Its classes. -/
  classes : List Text
  /-- Its language, by its canonical tag. -/
  language : Text
  deriving DecidableEq, Repr, Inhabited

/-- The place of a block in a page. -/
structure Slot where
  /-- The block that is there now. -/
  node : Node
  /-- What was there at first, once somebody asked. -/
  captured : Option SourceBlock
  /-- The start tag of the `pre`. -/
  preTag : Text
  /-- The attributes of the `code` other than its classes. -/
  codeAttrs : List Attribute
  deriving DecidableEq, Repr, Inhabited

/-- A piece of a page, in the order of writing. -/
inductive Segment where
  /-- HTML that is passed through -/
  | html (t : Text)
  /-- the start tag of the root element -/
  | root
  /-- the block in the slot at an index -/
  | block (index : Nat)
  deriving DecidableEq, Repr, Inhabited

/-- A page. -/
structure Page where
  /-- Its root element. -/
  root : RootElement
  /-- Whether the reader's system prefers dark pages. -/
  prefersDark : Bool
  /-- Its pieces. -/
  segments : List Segment
  /-- The places of its blocks. -/
  slots : List Slot
  /-- How many numbers were given to blocks. -/
  allocated : Nat
  deriving DecidableEq, Repr, Inhabited

namespace Page

/-! ## Classes with a meaning -/

/-- The class of blocks that a cycle is at work on; it is never part of what a
block was. -/
def loadingClass : Text := "glint-loading"

/-- The class of rendered blocks. -/
def renderedClass : Text := "glint-rendered"

/-- The class of copy controls. -/
def copyClass : Text := "glint-copy"

/-! ## Reading -/

/-- A page with nothing on it. -/
def empty : Page := ⟨⟨[], []⟩, false, [], [], 0⟩

/-- The blocks of a page, in order. -/
def blocks (p : Page) : List Node := p.slots.map (·.node)

/-- The slot of the block with a number. -/
def slot? (id : NodeId) (p : Page) : Option Slot := p.slots.find? (·.node.id = id)

/-- The block with a number. -/
def node? (id : NodeId) (p : Page) : Option Node := (p.slot? id).map (·.node)

/-- What the copy control of a block copies. -/
def copyText? (id : NodeId) (p : Page) : Option Text :=
  (p.node? id).bind fun n => n.rendered?.map (·.copy.text)

/-! ## Changing -/

/-- Change the slot of the block with a number. -/
def updateSlots (id : NodeId) (f : Slot → Slot) : List Slot → List Slot
  | [] => []
  | s :: ss => if s.node.id = id then f s :: ss else s :: updateSlots id f ss

/-- Change the slot of the block with a number. -/
def updateSlot (id : NodeId) (f : Slot → Slot) (p : Page) : Page :=
  { p with slots := updateSlots id f p.slots }

/-- Put a pristine block at the end of the page. -/
def pushBlock (classes : List Text) (text preTag : Text) (codeAttrs : List Attribute)
    (p : Page) : Page :=
  { p with
    segments := p.segments ++ [.block p.slots.length]
    slots := p.slots ++ [⟨⟨p.allocated + 1, classes, .source text⟩, none, preTag, codeAttrs⟩]
    allocated := p.allocated + 1 }

/-- Put a pristine block without any markup of its own at the end of the page; also
its number. -/
def addBlock (classes : List Text) (text : Text) (p : Page) : NodeId × Page :=
  (p.allocated + 1, p.pushBlock classes text "<pre>" [])

/-- What a pristine block with these classes and this source is. -/
def sourceBlockOf (classes : List Text) (text : Text) : SourceBlock :=
  let classes := classes.filter (· ≠ loadingClass)
  ⟨text, classes, ((Language.tagOfClasses? classes).map Language.canonicalTag).getD
    Language.plainText⟩

/-- What a block was before it was first rendered; it is noted the first time
somebody asks, and only while the block is pristine. -/
def capture (id : NodeId) (p : Page) : Option SourceBlock × Page :=
  match p.slot? id with
  | none => (none, p)
  | some s =>
    match s.captured, s.node.content with
    | some o, _ => (some o, p)
    | none, .rendered _ => (none, p)
    | none, .source text =>
      let o := sourceBlockOf s.node.classes text
      (some o, p.updateSlot id fun s => { s with captured := some o })

/-- Put a rendered block in the place of the block with a number; also its own
number.  The number is taken even if there is no such block. -/
def replace (id : NodeId) (r : RenderedBlock) (p : Page) : Option NodeId × Page :=
  let new := p.allocated + 1
  let p' := { p with allocated := new }
  match p.slot? id with
  | none => (none, p')
  | some _ =>
    (some new,
      p'.updateSlot id fun s => { s with node := ⟨new, [renderedClass], .rendered r⟩ })

/-- Put a rendered block back to what it was, under the number it has; also
whether there was anything to put back. -/
def restore (id : NodeId) (p : Page) : Bool × Page :=
  match p.slot? id with
  | none => (false, p)
  | some s =>
    match s.captured with
    | none => (false, p)
    | some o =>
      if s.node.isRendered then
        (true, p.updateSlot id fun s =>
          { s with node := { s.node with classes := o.classes, content := .source o.text } })
      else (false, p)

/-- Give a block a class; also whether it did not have it. -/
def addClass (id : NodeId) (c : Text) (p : Page) : Bool × Page :=
  match p.node? id with
  | none => (false, p)
  | some n =>
    if n.hasClass c then (false, p)
    else
      (true, p.updateSlot id fun s =>
        { s with node := { s.node with classes := s.node.classes ++ [c] } })

/-- Take a class away from a block; also whether it had it. -/
def removeClass (id : NodeId) (c : Text) (p : Page) : Bool × Page :=
  match p.node? id with
  | none => (false, p)
  | some n =>
    if n.hasClass c then
      (true, p.updateSlot id fun s =>
        { s with node := { s.node with classes := s.node.classes.filter (· ≠ c) } })
    else (false, p)

/-- Change what the copy control of a block shows; also whether there is one. -/
def setCopyState (id : NodeId) (state : CopyState) (p : Page) : Bool × Page :=
  match (p.node? id).bind (·.rendered?) with
  | none => (false, p)
  | some r =>
    (true, p.updateSlot id fun s =>
      { s with node := { s.node with
          content := .rendered { r with copy := { r.copy with state := state } } } })

end Page

end PageHighlight
