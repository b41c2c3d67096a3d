/-
  Session/Console.lean --- a session under somebody's hands.

  WHAT THIS FILE IS FOR.  Whoever runs a session by hand starts activities and goes
  on, waits for others, and listens to the page.  The activities that go on by
  themselves are numbered in the order in which they were started, and so are the
  observers; an observer that was dismissed keeps its number, but cannot be asked
  any more.
-/
import PageHighlight.Session.Clock

set_option autoImplicit false

namespace PageHighlight

/-- A session with the numbers of what was started in it. -/
structure Console where
  session : Session
  /-- The activities that go on by themselves. -/
  tasks : List Nat
  /-- The observers, those dismissed left out. -/
  observers : List (Option Nat)

/-- How an activity stands. -/
inductive TaskState where
  | running
  | ended (r : ActivityResult)
  | givenUp
  deriving DecidableEq, Repr, Inhabited

namespace Console

/-- A session in which nothing was started. -/
def ofSession (s : Session) : Console := ⟨s, [], []⟩

/-- Start an activity; also its number. -/
def spawn (make : World → Activity × World) (c : Console) : Nat × Console :=
  let (task, s) := c.session.beginWith make
  (c.tasks.length, { c with session := s, tasks := c.tasks ++ [task] })

/-- Run an activity to its end; what came of it, if it ended in time. -/
def await (make : World → Activity × World) (c : Console) : Option ActivityResult × Console :=
  let (result, s) := c.session.runWith make
  (result, { c with session := s })

/-- Change the page. -/
def change {α : Type} (f : SharedPage → α × SharedPage) (c : Console) : α × Console :=
  let (x, s) := c.session.change f
  (x, { c with session := s })

/-- Let everything happen that can happen without time passing. -/
def settle (c : Console) : Console := { c with session := c.session.settle }

/-- Open the gate. -/
def openGate (c : Console) : Console := { c with session := c.session.openGate }

/-- Give up an activity; nothing if there is none of this number. -/
def abort? (n : Nat) (c : Console) : Option Console :=
  (c.tasks[n]?).map fun task => { c with session := c.session.giveUp task }

/-- Observe the page; also the number of the observer. -/
def observe (c : Console) : Nat × Console :=
  let (i, s) := c.session.change SharedPage.observe
  (c.observers.length, { c with session := s, observers := c.observers ++ [some i] })

/-- What an observer was told since it was asked last. -/
def events? (n : Nat) (c : Console) : Option (List ThemeEvent × Console) :=
  (c.observers[n]?.join).map fun i => c.change (SharedPage.takeAll i)

/-- Dismiss an observer. -/
def dismiss? (n : Nat) (c : Console) : Option Console :=
  (c.observers[n]?.join).map fun i =>
    { (c.change fun shared => ((), shared.unobserve i)).2 with
      observers := c.observers.set n none }

/-- How an activity stands. -/
def taskState (task : Nat) (c : Console) : TaskState :=
  match c.session.tasks[task]?, c.session.result? task with
  | some ⟨_, true⟩, _ => .givenUp
  | _, some r => .ended r
  | _, none => .running

/-- How the activities that go on by themselves stand. -/
def taskStates (c : Console) : List TaskState := c.tasks.map fun task => c.taskState task

end Console

end PageHighlight
