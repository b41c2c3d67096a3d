/-
  Session/Copying.lean --- copying a rendered block.

  WHAT THIS FILE IS FOR.  The text of the block's copy control is written to the
  clipboard, by the other way if the first one fails.  The control then shows that
  it copied, for some time and whether or not the clipboard took the text.
-/
import PageHighlight.Session.World

set_option autoImplicit false

namespace PageHighlight

/-- Which ways of writing to a clipboard fail. -/
structure ClipboardFaults where
  /-- The first way. -/
  primary : Bool
  /-- The way that is taken if the first one fails. -/
  legacy : Bool
  deriving DecidableEq, Repr, Inhabited

/-- Write a text to the clipboard. -/
def ClipboardLog.put (faults : ClipboardFaults) (t : Text) (c : ClipboardLog) : ClipboardLog :=
  if !faults.primary then { c with primary := c.primary ++ [t] }
  else if !faults.legacy then { c with legacy := c.legacy ++ [t] }
  else c

/-- How far a copy is. -/
inductive CopyStage where
  /-- nothing was done yet -/
  | start
  /-- the text is written next -/
  | writing (t : Text)
  /-- the control shows that it copied next -/
  | marking
  /-- the control shows that it copied, until the clock shows the deadline -/
  | showing (ticket : Ticket) (deadline : Nat)
  /-- it is done, or could not be done -/
  | done (fault : Option Error)

/-- The copying of one block. -/
structure Copying where
  /-- The number of the block. -/
  id : NodeId
  /-- Which writes will fail. -/
  faults : ClipboardFaults
  /-- How far it is. -/
  stage : CopyStage

namespace Copying

/-- A block that is not rendered has nothing to copy. -/
def noControl : Error := .clipboardFailure "block has no copy control"

/-- A copy that has not begun. -/
def of (id : NodeId) (faults : ClipboardFaults) : Copying := ⟨id, faults, .start⟩

/-- Whether it can go on. -/
def readiness (c : Copying) : Readiness :=
  match c.stage with
  | .showing ticket deadline => .waits ⟨ticket, .time deadline⟩
  | .done _ => .done
  | _ => .ready

/-- The next step. -/
def step (s : Setting) (w : World) (c : Copying) : World × Copying :=
  match c.stage with
  | .start =>
    match w.page.copyText? c.id with
    | none => (w, { c with stage := .done (some noControl) })
    | some t => (w, { c with stage := .writing t })
  | .writing t =>
    ({ w with clipboard := w.clipboard.put c.faults t }, { c with stage := .marking })
  | .marking =>
    let (ticket, w) := (w.write (·.setCopyState c.id .copied)).2.ticket
    (w, { c with stage := .showing ticket (w.now + s.config.timings.copyRevert) })
  | .showing _ _ =>
    ((w.write (·.setCopyState c.id .idle)).2, { c with stage := .done none })
  | .done _ => (w, c)

end Copying

end PageHighlight
