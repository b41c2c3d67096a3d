/-
  Session/Clock.lean --- running a session by a clock that never idles.

  WHAT THIS FILE IS FOR.  The activities that can go on take turns: each goes on
  until all of its parts wait, and those that it lets go on queue up behind the
  others, the one that has waited longest first.  When nobody can go on, engines
  that are being built elsewhere arrive.  Only somebody who waits for an activity
  to end makes time pass, and then the clock jumps to the next time that anybody
  waits for.

  FUEL.  An activity that never came to a wait would take its turn forever; turns
  are bounded by the number of blocks and activities.
-/
import PageHighlight.Session.Basic

set_option autoImplicit false

namespace PageHighlight

namespace Session

/-- Insert by ticket, behind equal ones. -/
def insertByTicket (x : Nat × Ticket) : List (Nat × Ticket) → List (Nat × Ticket)
  | [] => [x]
  | y :: ys => if x.2 < y.2 then x :: y :: ys else y :: insertByTicket x ys

/-- The activities that can go on and are not named already, the one that has
waited longest first. -/
def newlyMovable (named : List Nat) (s : Session) : List Nat :=
  let found := s.tasks.zipIdx.filterMap fun (t, i) =>
    if named.contains i then none
    else ((movable s.world s.setting t).map (·.2)).min?.map fun ticket => (i, ticket)
  (found.foldl (fun sorted x => insertByTicket x sorted) []).map (·.1)

/-- Let an activity go on until all of its parts wait; also the activities that
queue up meanwhile. -/
def turn : (fuel : Nat) → (task : Nat) → (queue : List Nat) → Session → List Nat × Session
  | 0, _, queue, s => (queue, s)
  | fuel + 1, task, queue, s =>
    match s.movableParts task with
    | [] => (queue, s)
    | (part, _) :: _ =>
      let s := s.proceed task part
      turn fuel task (queue ++ s.newlyMovable (task :: queue)) s

/-- Whether an engine is being built elsewhere. -/
def awaitsEngine (s : Session) : Bool :=
  s.setting.loader.pace = .elsewhere && s.world.engines.isBuilding s.setting.key

/-- The longest turn. -/
def turnLimit (s : Session) : Nat := 64 * (s.page.slots.length + 4)

/-- Let the activities take their turns until nobody can go on. -/
def turns : (fuel : Nat) → (queue : List Nat) → Session → Session
  | 0, _, s => s
  | fuel + 1, task :: queue, s =>
    let (queue, s) := turn s.turnLimit task queue s
    turns fuel queue s
  | fuel + 1, [], s =>
    if s.awaitsEngine then
      let s := s.arrive
      turns fuel (s.newlyMovable []) s
    else s

/-- Let everything happen that can happen without time passing. -/
def settle (s : Session) : Session :=
  turns (64 * (s.tasks.length + 4) * (s.page.slots.length + 4)) (s.newlyMovable []) s

/-- How long an activity is waited for, in milliseconds. -/
def patience : Nat := 3600000

/-- Wait for an activity to end until the clock shows `limit`; then give it up. -/
def awaitUntil (limit : Nat) : (fuel : Nat) → (task : Nat) → Session → Session
  | 0, task, s => s.giveUp task
  | fuel + 1, task, s =>
    let s := s.settle
    if (s.result? task).isSome then s
    else
      match s.deadlines.min? with
      | some deadline =>
        if deadline ≤ limit then awaitUntil limit fuel task (s.passTo deadline)
        else ((s.passTo limit).giveUp task).settle
      | none => ((s.passTo limit).giveUp task).settle

/-- Wait for an activity to end; one that does not end in time is given up. -/
def await (task : Nat) (s : Session) : Session :=
  awaitUntil (s.world.now + patience) (64 * (s.tasks.length + 4)) task s

/-- Run an activity that is made from the world and wait for its end; what came of
it, if it did end. -/
def runWith (make : World → Activity × World) (s : Session) : Option ActivityResult × Session :=
  let (task, s) := s.beginWith make
  let s := s.await task
  (s.result? task, s)

/-- Run an activity and wait for its end; what came of it, if it did end. -/
def run (a : Activity) (s : Session) : Option ActivityResult × Session :=
  s.runWith fun w => (a, w)

end Session

end PageHighlight
