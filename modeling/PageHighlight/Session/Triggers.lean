/-
  Session/Triggers.lean --- the cycles that a page starts with.

  WHAT THIS FILE IS FOR.  A cycle runs as soon as readers can use the page, one
  after a short delay, one after a longer delay, and one when the page is
  complete.  A cycle that would overlap another one is skipped, so that the four
  of them may be as few as one.
-/
import PageHighlight.Session.Cycle

set_option autoImplicit false

namespace PageHighlight

/-- One of the cycles that a page starts with. -/
inductive Trigger where
  /-- its time has not come -/
  | waiting (w : Wait)
  | cycling (c : Cycle)
  | done

namespace Trigger

/-- The parts of it that can go on by themselves. -/
def parts : Trigger → List Readiness
  | waiting w => [.waits w]
  | cycling c => c.parts
  | done => []

/-- Whether it is done. -/
def isDone : Trigger → Bool
  | done => true
  | _ => false

/-- The next step of the part at an index. -/
def step (s : Setting) (part : Nat) (w : World) : Trigger → World × Trigger
  | waiting _ => (w, cycling .start)
  | cycling c =>
    let (w, c) := c.step s part w
    (w, if c.report?.isSome then done else cycling c)
  | done => (w, done)

/-- Give it up. -/
def giveUp (s : Setting) (w : World) : Trigger → World
  | cycling c => c.giveUp s w
  | _ => w

end Trigger

/-- The cycles that a page starts with. -/
inductive Triggers where
  /-- nothing was waited for yet -/
  | start
  | waiting (ts : List Trigger)

namespace Triggers

/-- What the cycles wait for: readers, completion, the short and the longer
delay. -/
def awaited (t : Timings) (now : Nat) : List Awaited :=
  [.ready .interactive, .ready .complete, .time (now + t.shortDelay),
   .time (now + t.fallbackDelay)]

/-- Begin to wait, one wait after another. -/
def await : List Awaited → World → List Trigger × World
  | [], w => ([], w)
  | a :: as, w =>
    let (ticket, w) := w.ticket
    let (ts, w) := await as w
    (.waiting ⟨ticket, a⟩ :: ts, w)

/-- Whether all of them are done. -/
def isDone : Triggers → Bool
  | start => false
  | waiting ts => ts.all Trigger.isDone

/-- The parts that can go on by themselves: those of each cycle, one cycle after
another. -/
def parts : Triggers → List Readiness
  | start => [.ready]
  | waiting ts => ts.flatMap Trigger.parts

/-- The next step of the part at an index. -/
def stepAt (s : Setting) : (part : Nat) → World → List Trigger → World × List Trigger
  | _, w, [] => (w, [])
  | part, w, t :: ts =>
    if part < t.parts.length then
      let (w, t) := t.step s part w
      (w, t :: ts)
    else
      let (w, ts) := stepAt s (part - t.parts.length) w ts
      (w, t :: ts)

/-- The next step of the part at an index. -/
def step (s : Setting) (part : Nat) (w : World) : Triggers → World × Triggers
  | start =>
    let (ts, w) := await (awaited s.config.timings w.now) w
    (w, waiting ts)
  | waiting ts =>
    let (w, ts) := stepAt s part w ts
    (w, waiting ts)

/-- Give them up. -/
def giveUp (s : Setting) (w : World) : Triggers → World
  | start => w
  | waiting ts => ts.foldl (Trigger.giveUp s) w

end Triggers

end PageHighlight
