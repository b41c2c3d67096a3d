/-
  Session/Activity.lean --- what can go on in a session, and what comes of it.

  WHAT THIS FILE IS FOR.  Activities of all kinds look alike to a session: they
  consist of parts, each of which can go on, waits, or is done; a part that can go
  on takes one step, which changes the world; an activity can be given up; and one
  that has ended has a result.
-/
import PageHighlight.Session.Copying
import PageHighlight.Session.Reactor
import PageHighlight.Session.Triggers

set_option autoImplicit false

namespace PageHighlight

/-- What goes on in a session. -/
inductive Activity where
  /-- one block is rendered -/
  | render (r : Render)
  /-- every block that can be is rendered -/
  | cycle (c : Cycle)
  /-- a change of the theme is reacted to -/
  | reaction (r : Reaction)
  /-- changes of the theme are reacted to from now on -/
  | reactor (r : Reactor)
  /-- one block is copied -/
  | copying (c : Copying)
  /-- the cycles that a page starts with are run -/
  | triggers (t : Triggers)
  /-- something is waited for -/
  | waiting (w : Wait)
  /-- what was waited for is the case -/
  | waited

/-- What came of an activity. -/
inductive ActivityResult where
  | outcome (o : Outcome)
  | report (r : Report)
  /-- a copy was done, or could not be done -/
  | copied (fault : Option Error)
  /-- there is nothing to tell -/
  | nothing
  deriving DecidableEq, Repr, Inhabited

namespace Activity

/-- Wait for something from now on. -/
def await (a : Awaited) (w : World) : Activity × World :=
  let (ticket, w) := w.ticket
  (waiting ⟨ticket, a⟩, w)

/-- React to changes of the theme from now on. -/
def watch (w : World) : Activity × World :=
  let (r, w) := Reactor.new w
  (reactor r, w)

/-- The parts of it that can go on by themselves. -/
def parts : Activity → List Readiness
  | render r => [r.readiness]
  | cycle c => c.parts
  | reaction r => r.parts
  | reactor r => r.parts
  | copying c => [c.readiness]
  | triggers t => t.parts
  | waiting w => [.waits w]
  | waited => [.done]

/-- What came of it, once it has ended. -/
def result? : Activity → Option ActivityResult
  | render r => r.outcome?.map .outcome
  | cycle c => c.report?.map .report
  | reaction r => r.report?.map .report
  | reactor _ => none
  | copying c =>
    match c.stage with
    | .done fault => some (.copied fault)
    | _ => none
  | triggers t => if t.isDone then some .nothing else none
  | waiting _ => none
  | waited => some .nothing

/-- The next step of the part at an index. -/
def step (s : Setting) (part : Nat) (w : World) : Activity → World × Activity
  | render r =>
    let (w, r) := r.step s w
    (w, render r)
  | cycle c =>
    let (w, c) := c.step s part w
    (w, cycle c)
  | reaction r =>
    let (w, r) := r.step s part w
    (w, reaction r)
  | reactor r =>
    let (w, r) := r.step s part w
    (w, reactor r)
  | copying c =>
    let (w, c) := c.step s w
    (w, copying c)
  | triggers t =>
    let (w, t) := t.step s part w
    (w, triggers t)
  | waiting _ => (w, waited)
  | waited => (w, waited)

/-- Give it up. -/
def giveUp (s : Setting) (w : World) : Activity → World
  | render r => r.giveUp s w
  | cycle c => c.giveUp s w
  | reaction r => r.giveUp s w
  | reactor r => r.giveUp s w
  | triggers t => t.giveUp s w
  | copying _ | waiting _ | waited => w

end Activity

end PageHighlight
