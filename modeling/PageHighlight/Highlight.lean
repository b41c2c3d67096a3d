/-
  Highlight.lean --- from a parse tree to the coloured runs of each line.

  WHAT THIS FILE IS FOR.  A node of a parse tree covers a range of bytes that may
  cross lines.  `Tree.spanLines` cuts the ranges of the highlighted nodes at the
  line breaks, outer nodes before inner ones; `SpanLine.runs` then cuts a line
  where the kind of its characters changes.  Where spans overlap, the first one
  listed wins, so an outer node covers what is inside it.
-/
import PageHighlight.TokenKind

set_option autoImplicit false

namespace PageHighlight

/-! ## Spans of a line -/

/-- The columns of a line, counted in bytes, that have one kind; `stop` is not
included. -/
structure Span where
  /-- The first column. -/
  start : Nat
  /-- The column after the last. -/
  stop : Nat
  /-- What stands there. -/
  kind : TokenKind
  deriving DecidableEq, Repr, Inhabited

/-- Whether a column lies in a span. -/
def Span.covers (s : Span) (col : Nat) : Bool := s.start ≤ col && col < s.stop

/-- The spans of one line, in order of precedence. -/
abbrev SpanLine : Type := List Span

namespace SpanLine

/-- The kind of the character that begins at a column. -/
def kindAt (spans : SpanLine) (col : Nat) : TokenKind :=
  match spans.find? (·.covers col) with
  | some s => s.kind
  | none => .plain

/-- The runs of a text that begins at a column. -/
def runsFrom (spans : SpanLine) : Nat → Text → List (Text × TokenKind)
  | _, [] => []
  | col, c :: r =>
    let kind := kindAt spans col
    match runsFrom spans (col + c.utf8Size) r with
    | [] => [([c], kind)]
    | (t, k) :: rest => if k = kind then (c :: t, k) :: rest else ([c], kind) :: (t, k) :: rest

/-- The longest pieces of a line whose characters have one kind. -/
def runs (spans : SpanLine) (line : Text) : List (Text × TokenKind) := runsFrom spans 0 line

/-- The runs of a line, put together, are the line. -/
theorem flatMap_runsFrom (spans : SpanLine) (col : Nat) (line : Text) :
    (runsFrom spans col line).flatMap (·.1) = line := by
  induction line generalizing col with
  | nil => rfl
  | cons c r ih =>
    have := ih (col + c.utf8Size)
    simp only [runsFrom]
    split
    · next h => rw [h] at this; simpa using this
    · next h =>
      rw [h] at this
      split <;> simpa using this

end SpanLine

/-! ## Parse trees -/

/-- A node of a parse tree: its name, its bytes, its rows, and what it is made
of. -/
inductive Tree where
  | node (name : Text) (startByte stopByte startRow stopRow : Nat) (children : List Tree)
  deriving Repr, Inhabited

namespace Tree

/-- The nodes that read best in one colour although they have parts. -/
def uniform : List Text :=
  ["string", "string_literal", "raw_string", "raw_string_literal", "template_string", "comment",
   "line_comment", "block_comment"]

/-- The byte offsets at which the lines of a text begin. -/
def lineStarts (source : Text) : List Nat :=
  let rec go (offset : Nat) : Text → List Nat
    | [] => []
    | c :: r =>
      let next := offset + c.utf8Size
      if c = '\n' then next :: go next r else go next r
  0 :: go 0 source

/-- Where the lines of a source lie. -/
structure Layout where
  /-- The byte offset of each line. -/
  starts : List Nat
  /-- The size of the source in bytes. -/
  size : Nat
  deriving DecidableEq, Repr, Inhabited

namespace Layout

/-- The layout of a source. -/
def ofSource (source : Text) : Layout := ⟨lineStarts source, Text.byteLength source⟩

/-- The number of lines. -/
def lineCount (l : Layout) : Nat := l.starts.length

/-- The offset at which a row begins. -/
def start (l : Layout) (row : Nat) : Nat := l.starts.getD row 0

/-- The offset at which a row ends, its line break included. -/
def stop (l : Layout) (row : Nat) : Nat := l.starts.getD (row + 1) l.size

end Layout

/-- The piece of a range that lies on a row, if there is one. -/
def spanOn? (layout : Layout) (kind : TokenKind)
    (startByte stopByte startRow stopRow row : Nat) : Option Span :=
  let start := if row = startRow then startByte - layout.start row else 0
  let stop := if row = stopRow then stopByte - layout.start row
    else layout.stop row - layout.start row
  if start < stop then some ⟨start, stop, kind⟩ else none

/-- The pieces of a range, each with its row. -/
def pieces (layout : Layout) (kind : TokenKind) (startByte stopByte startRow stopRow : Nat) :
    List (Nat × Span) :=
  let last := min stopRow (layout.lineCount - 1)
  (List.range' startRow (last + 1 - startRow)).filterMap fun row =>
    (spanOn? layout kind startByte stopByte startRow stopRow row).map fun s => (row, s)

mutual

/-- The pieces of the highlighted nodes of a tree, a node before its parts. -/
def marks (lang : Language) (layout : Layout) : Tree → List (Nat × Span)
  | node name startByte stopByte startRow stopRow children =>
    let kind := TokenKind.ofNode lang name
    let own :=
      if kind ≠ .plain ∧ (children = [] ∨ uniform.contains name) then
        pieces layout kind startByte stopByte startRow stopRow
      else []
    own ++ marksList lang layout children

/-- The pieces of the highlighted nodes of a list of trees. -/
def marksList (lang : Language) (layout : Layout) : List Tree → List (Nat × Span)
  | [] => []
  | t :: ts => marks lang layout t ++ marksList lang layout ts

end

/-- The spans of every line of a source with this tree. -/
def spanLines (lang : Language) (source : Text) (t : Tree) : List SpanLine :=
  let layout := Layout.ofSource source
  let ms := marks lang layout t
  (List.range layout.lineCount).map fun row =>
    ms.filterMap fun m => if m.1 = row then some m.2 else none

end Tree

end PageHighlight
