/-
  Directive.lean --- highlight directives inside comments.

  WHAT THIS FILE IS FOR.  A directive stands in a comment, so that the source
  stays valid in its own language:

      // @highlight: 2,4-5            lines by number, on the first line only
      // @highlight-start[2]          opens a block of level 2
      let x = 1; // @highlight-end    closes it; the line keeps level 2

  `LineToken.ofLine` classifies one line.  Every `@highlight` of the line is
  tried in turn, and the first that follows a comment opener, reads as a
  directive and can be used decides; a list of ranges that is not alone in the
  first line decides as well, and then the line is code.
-/
import PageHighlight.Level
import PageHighlight.Text.Alphanumeric
import PageHighlight.Text.Decimal

set_option autoImplicit false

namespace PageHighlight

/-! ## Comment forms -/

/-- How a comment opens, and how it closes; a comment that runs to the end of its
line has an empty closer. -/
structure CommentForm where
  /-- The text that opens the comment. -/
  opener : Text
  /-- The text that closes it, empty if the end of the line does. -/
  closer : Text
  deriving DecidableEq, Repr, Inhabited

/-- The recognised comment forms, in the order in which they are tried. -/
def commentForms : List CommentForm :=
  [⟨"<!--", "-->"⟩, ⟨"/*", "*/"⟩, ⟨"//", ""⟩, ⟨"--", ""⟩, ⟨"#", ""⟩, ⟨";", ""⟩]

/-! ## Directives -/

/-- An inclusive range of line numbers, counted from one. -/
@[ext] structure LineRange where
  /-- The first line. -/
  first : Nat
  /-- The last line. -/
  last : Nat
  one_le : 1 ≤ first
  first_le_last : first ≤ last
  deriving Repr

instance : DecidableEq LineRange := fun _ _ => decidable_of_iff _ LineRange.ext_iff.symm

/-- What a comment asks for. -/
inductive Directive where
  /-- emphasise these lines at the lowest level -/
  | ranges (rs : List LineRange)
  /-- a block of this level begins -/
  | start (level : Level)
  /-- the innermost open block ends -/
  | stop
  deriving DecidableEq, Repr

/-- What one line of source is. -/
inductive LineToken where
  /-- a line of code, kept as it stands -/
  | code (text : Text)
  /-- a line that holds a directive and nothing else; it is dropped -/
  | whole (d : Directive)
  /-- code that shares its line with a block directive; the code is kept -/
  | trailing (code : Text) (d : Directive)
  deriving DecidableEq, Repr

namespace LineRange

/-- The range between two bounds, if they are in order and count from one. -/
def of? (first last : Nat) : Option LineRange :=
  if h : 1 ≤ first ∧ first ≤ last then some ⟨first, last, h.1, h.2⟩ else none

/-- Read `3` or `3-5`, blanks around the numbers allowed. -/
def read? (token : Text) : Option LineRange :=
  match Text.split? "-" token with
  | some (a, b) => do
    let first ← Text.readNat? (Text.trim a)
    let last ← Text.readNat? (Text.trim b)
    of? first last
  | none => do
    let n ← Text.readNat? token
    of? n n

/-- Read a comma-separated list of ranges; tokens that are no range are left
out. -/
def readList (spec : Text) : List LineRange :=
  ((Text.splitOn ',' spec).map Text.trim).filterMap fun token =>
    if token.isEmpty then none else read? token

end LineRange

namespace Directive

/-- The word every directive begins with. -/
def word : Text := "@highlight"

/-- The word that opens a block. -/
def startWord : Text := "@highlight-start"

/-- The word that closes a block. -/
def stopWord : Text := "@highlight-end"

/-- Read the level after the word that opens a block: `[2]`, or nothing for the
lowest level.  A bracket that is never closed is not a directive; one that holds
no number means the lowest level. -/
def readLevel? (t : Text) : Option (Level × Text) :=
  match t with
  | '[' :: inner =>
    (Text.split? "]" inner).map fun (number, rest) =>
      (((Text.readNat? (Text.trim number)).map Level.clamp).getD Level.one, rest)
  | _ => some (Level.one, t)

/-- Whether the name of a block directive goes on here. -/
def nameGoesOn : Text → Bool
  | [] => false
  | c :: _ => Text.isAlphanumeric c || c = '-' || c = '_'

/-- What stands after a block directive and its comment's closer. -/
def afterCloser? (closer rest : Text) : Option Text :=
  if nameGoesOn rest then none
  else
    let rest := Text.trimStart rest
    some (if closer.isEmpty then rest else (Text.dropPrefix? closer rest).getD rest)

/-- Read the directive at the beginning of `t`, which stands in a comment with
this closer; also what follows the directive and the closer. -/
def read? (closer t : Text) : Option (Directive × Text) :=
  match Text.dropPrefix? startWord t with
  | some rest => do
    let (level, rest) ← readLevel? rest
    let tail ← afterCloser? closer rest
    some (.start level, tail)
  | none =>
    match Text.dropPrefix? stopWord t with
    | some rest => (afterCloser? closer rest).map fun tail => (.stop, tail)
    | none => do
      let rest ← Text.dropPrefix? word t
      let rest ← Text.dropPrefix? ":" (Text.trimStart rest)
      let (spec, tail) :=
        if closer.isEmpty then (rest, []) else (Text.split? closer rest).getD (rest, [])
      some (.ranges (LineRange.readList spec), tail)

/-- The code before a comment opener at the end of `before`, and the form of the
comment; blanks may follow the opener. -/
def opener? (before : Text) : Option (Text × CommentForm) :=
  let trimmed := Text.trimEnd before
  commentForms.findSome? fun form =>
    (Text.dropSuffix? form.opener trimmed).map fun code => (code, form)

end Directive

namespace LineToken

/-- What a line is because of the text `rest` after `before`, if `rest` begins
with a directive in a comment. -/
def at? (line before rest : Text) (first : Bool) : Option LineToken := do
  let (lead, form) ← Directive.opener? before
  let (d, tail) ← Directive.read? form.closer rest
  let tail := Text.trim tail
  match d, Text.allBlank lead, tail.isEmpty with
  | .ranges _, leadBlank, tailBlank =>
    if leadBlank && tailBlank && first then some (.whole d) else some (.code line)
  | _, true, true => some (.whole d)
  | _, false, true => some (.trailing (Text.trimEnd lead) d)
  | _, true, false => if form.closer.isEmpty then none else some (.trailing (lead ++ tail) d)
  | _, false, false => none

/-- Classify a line; `first` tells whether it is the first of its block.  Carriage
returns at the end of the line belong to no directive. -/
def ofLine (line : Text) (first : Bool) : LineToken :=
  let body := Text.dropEndWhile (· = '\r') line
  ((Text.occurrences Directive.word body).findSome? fun (before, rest) =>
    at? line before rest first).getD (.code line)

end LineToken

end PageHighlight
