/-
  Session/Basic.lean --- a page being looked at: its world and what goes on in it.

  WHAT THIS FILE IS FOR.  A session moves in small steps, each of which is one
  function here: an activity begins, one part of one of them takes a step, an
  engine that was being built is there, time passes, the page is changed from
  outside, an activity is given up.  Any order of steps is a history of the
  session; `Session/Clock` picks one of them.
-/
import PageHighlight.Session.Activity

set_option autoImplicit false

namespace PageHighlight

/-- An activity of a session. -/
structure Task where
  /-- How far it is. -/
  activity : Activity
  /-- Whether it was given up. -/
  givenUp : Bool

namespace Task

/-- Whether it may still do something. -/
def isLive (t : Task) : Bool := !t.givenUp && t.activity.result?.isNone

end Task

/-- A page being looked at. -/
structure Session where
  /-- What stays the same. -/
  setting : Setting
  /-- What the activities share. -/
  world : World
  /-- The activities, in the order in which they began. -/
  tasks : List Task

namespace Session

/-- A session in which nothing has happened yet. -/
def start (setting : Setting) (p : Page) : Session := ⟨setting, World.ofPage p, []⟩

/-- The page. -/
def page (s : Session) : Page := s.world.page

/-! ## Looking -/

/-- What came of an activity. -/
def result? (task : Nat) (s : Session) : Option ActivityResult :=
  (s.tasks[task]?).bind fun t => t.activity.result?

/-- The parts of an activity that can go on now: the index of each, and the ticket
of the wait that is over. -/
def movable (w : World) (setting : Setting) (t : Task) : List (Nat × Ticket) :=
  if t.isLive then
    t.activity.parts.zipIdx.filterMap fun (r, i) =>
      if w.canGoOn setting r then
        some (i, match r with
          | .waits wait => wait.ticket
          | _ => 0)
      else none
  else []

/-- The parts of the activity with a number that can go on now. -/
def movableParts (task : Nat) (s : Session) : List (Nat × Ticket) :=
  match s.tasks[task]? with
  | some t => movable s.world s.setting t
  | none => []

/-- The times that activities wait for. -/
def deadlines (s : Session) : List Nat :=
  (s.tasks.filter (·.isLive)).flatMap fun t => t.activity.parts.filterMap fun r =>
    match r with
    | .waits ⟨_, .time deadline⟩ => some deadline
    | _ => none

/-! ## Steps -/

/-- Begin an activity; also its number. -/
def begin (a : Activity) (s : Session) : Nat × Session :=
  (s.tasks.length, { s with tasks := s.tasks ++ [⟨a, false⟩] })

/-- Begin an activity that is made from the world. -/
def beginWith (make : World → Activity × World) (s : Session) : Nat × Session :=
  let (a, w) := make s.world
  { s with world := w }.begin a

/-- Let one part of an activity take a step, if it can. -/
def proceed (task part : Nat) (s : Session) : Session :=
  match s.tasks[task]? with
  | none => s
  | some t =>
    if (movable s.world s.setting t).any (·.1 = part) then
      let (w, a) := t.activity.step s.setting part s.world
      { s with world := w, tasks := s.tasks.set task { t with activity := a } }
    else s

/-- The engine that is being built is there. -/
def arrive (s : Session) : Session :=
  { s with world := { s.world with engines := s.world.engines.arrive s.setting.key } }

/-- Open the gate: engines that waited for it are there, now and later. -/
def openGate (s : Session) : Session :=
  { s with world := { s.world with gateOpen := true } }.arrive

/-- Let time pass. -/
def passTo (now : Nat) (s : Session) : Session :=
  { s with world := { s.world with now := max now s.world.now } }

/-- Give up an activity, if it has not ended. -/
def giveUp (task : Nat) (s : Session) : Session :=
  match s.tasks[task]? with
  | none => s
  | some t =>
    if t.isLive then
      { s with
        world := t.activity.giveUp s.setting s.world
        tasks := s.tasks.set task { t with givenUp := true } }
    else s

/-- Change the page from outside. -/
def change {α : Type} (f : SharedPage → α × SharedPage) (s : Session) : α × Session :=
  let (x, shared) := f s.world.shared
  (x, { s with world := { s.world with shared := shared } })

end Session

end PageHighlight
