/-
  Session/Reactor.lean --- rendering a page again when its theme may have changed.

  WHAT THIS FILE IS FOR.  A reaction puts every rendered block back, lets the page
  settle, and runs a cycle.  A cycle that was already running resolved its theme
  before the change; the reaction then waits until that cycle has ended, and starts
  over until it gets a cycle of its own.  A reactor observes the page and reacts
  to what it is told, to everything it was told at once.
-/
import PageHighlight.Session.Cycle

set_option autoImplicit false

namespace PageHighlight

/-! ## One reaction -/

/-- How far a reaction is. -/
inductive Reaction where
  /-- the rendered blocks are put back next -/
  | restore
  /-- the page settles until the clock shows the deadline -/
  | settling (ticket : Ticket) (deadline : Nat)
  /-- a cycle of its own renders the blocks again -/
  | cycling (c : Cycle)
  /-- its cycle was skipped; the one that is running must end first -/
  | idling (ticket : Ticket)
  | done (report : Report)

namespace Reaction

/-- What its own cycle did. -/
def report? : Reaction → Option Report
  | done r => some r
  | _ => none

/-- The parts of it that can go on by themselves. -/
def parts : Reaction → List Readiness
  | restore => [.ready]
  | settling ticket deadline => [.waits ⟨ticket, .time deadline⟩]
  | cycling c => c.parts
  | idling ticket => [.waits ⟨ticket, .idle⟩]
  | done _ => [.done]

/-- Go on after a step of its cycle. -/
def afterCycle (w : World) (c : Cycle) : World × Reaction :=
  match c.report? with
  | none => (w, cycling c)
  | some .skipped =>
    let (ticket, w) := w.ticket
    (w, idling ticket)
  | some report => (w, done report)

/-- The next step of the part at an index. -/
def step (s : Setting) (part : Nat) (w : World) : Reaction → World × Reaction
  | restore =>
    let (_, shared) := w.shared.restoreAll
    let (ticket, w) := { w with shared := shared }.ticket
    (w, settling ticket (w.now + s.config.timings.settle))
  | settling _ _ => (w, cycling .start)
  | cycling c =>
    let (w, c) := c.step s part w
    afterCycle w c
  | idling _ => (w, restore)
  | done r => (w, done r)

/-- Give it up. -/
def giveUp (s : Setting) (w : World) : Reaction → World
  | cycling c => c.giveUp s w
  | _ => w

end Reaction

/-! ## A reactor -/

/-- What a reactor does; it never ends by itself. -/
inductive Reactor where
  /-- it waits until it is told something -/
  | listening (observer : Nat) (ticket : Ticket)
  | reacting (observer : Nat) (r : Reaction)

namespace Reactor

/-- The observer that listens for it. -/
def observer : Reactor → Nat
  | listening i _ => i
  | reacting i _ => i

/-- A reactor that observes the page from now on. -/
def new (w : World) : Reactor × World :=
  let (i, shared) := w.shared.observe
  let (ticket, w) := { w with shared := shared }.ticket
  (listening i ticket, w)

/-- The parts of it that can go on by themselves. -/
def parts : Reactor → List Readiness
  | listening i ticket => [.waits ⟨ticket, .mail i⟩]
  | reacting _ r => r.parts

/-- Go on after a step of its reaction. -/
def afterReaction (i : Nat) (w : World) (r : Reaction) : World × Reactor :=
  match r.report? with
  | none => (w, reacting i r)
  | some _ =>
    let (ticket, w) := w.ticket
    (w, listening i ticket)

/-- The next step of the part at an index. -/
def step (s : Setting) (part : Nat) (w : World) : Reactor → World × Reactor
  | listening i _ => ({ w with shared := (w.shared.takeAll i).2 }, reacting i .restore)
  | reacting i r =>
    let (w, r) := r.step s part w
    afterReaction i w r

/-- Give it up: nobody listens for it any more. -/
def giveUp (s : Setting) (w : World) : Reactor → World
  | listening i _ => { w with shared := w.shared.unobserve i }
  | reacting i r =>
    let w := r.giveUp s w
    { w with shared := w.shared.unobserve i }

end Reactor

end PageHighlight
