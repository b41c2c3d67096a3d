/-
  Session/World.lean --- what the activities of a session share, and what they can
  wait for.

  WHAT THIS FILE IS FOR.  The setting of a session never changes: its
  configuration, and how engines are built.  The world does: the page, the engines,
  the clipboard, the clock, and the flag that a cycle is running.  An activity that
  cannot go on waits for something, and what it waits for can be read off the
  world.
-/
import PageHighlight.Engine.Cache
import PageHighlight.Page.Shared

set_option autoImplicit false

namespace PageHighlight

/-! ## The setting -/

/-- What stays the same during a session. -/
structure Setting where
  /-- The configuration. -/
  config : Config
  /-- How engines are built. -/
  loader : Loader
  /-- The key of the configuration. -/
  key : EngineKey
  /-- The passes over rendered blocks. -/
  passes : List MarkerPass
  key_eq : key = EngineKey.ofConfig config
  passes_eq : passes = MarkerPass.resolve config.transformers

/-- The setting of a session with a configuration. -/
def Setting.ofConfig (config : Config) (loader : Loader) : Setting :=
  ⟨config, loader, EngineKey.ofConfig config, MarkerPass.resolve config.transformers, rfl, rfl⟩

/-! ## The world -/

/-- What was written to a clipboard, earliest first. -/
structure ClipboardLog where
  /-- By the first way. -/
  primary : List Text
  /-- By the way that is taken if the first one fails. -/
  legacy : List Text
  deriving DecidableEq, Repr, Inhabited

/-- What the activities of a session share. -/
structure World where
  /-- The page. -/
  shared : SharedPage
  /-- Whether a cycle is running. -/
  running : Bool
  /-- The engines. -/
  engines : EngineCache
  /-- Whether engines that wait for the gate can be had. -/
  gateOpen : Bool
  /-- The clipboard. -/
  clipboard : ClipboardLog
  /-- The time, in milliseconds from the start. -/
  now : Nat
  /-- The ticket of the next wait. -/
  nextTicket : Ticket

namespace World

/-- The world at the start of a session. -/
def ofPage (p : Page) : World :=
  ⟨SharedPage.ofPage p, false, EngineCache.empty, false, ⟨[], []⟩, 0, 0⟩

/-- The page. -/
def page (w : World) : Page := w.shared.page

/-- Change the page in one write. -/
def write {α : Type} (change : Page → α × Page) (w : World) : α × World :=
  let (x, s) := w.shared.write change
  (x, { w with shared := s })

/-- Draw a ticket. -/
def ticket (w : World) : Ticket × World :=
  (w.nextTicket, { w with nextTicket := w.nextTicket + 1 })

end World

/-! ## Waiting -/

/-- What an activity waits for. -/
inductive Awaited where
  /-- that the clock shows this time -/
  | time (deadline : Nat)
  /-- that a request for the session's engine can go on -/
  | engine (request : Request)
  /-- that no cycle is running -/
  | idle
  /-- that the page is loaded this far -/
  | ready (state : ReadyState)
  /-- that an observer was told something -/
  | mail (observer : Nat)

/-- A wait: what for, and since when. -/
structure Wait where
  /-- The earlier a wait began, the smaller its ticket. -/
  ticket : Ticket
  /-- What it waits for. -/
  awaited : Awaited

/-- Whether an activity can go on. -/
inductive Readiness where
  /-- it can go on at once -/
  | ready
  /-- it can go on when a wait is over -/
  | waits (w : Wait)
  /-- it is done -/
  | done

namespace World

/-- Whether what an activity waits for is the case. -/
def isOver (s : Setting) (w : World) : Awaited → Bool
  | .time deadline => deadline ≤ w.now
  | .engine request => w.engines.canGoOn s.key request
  | .idle => !w.running
  | .ready state => state.rank ≤ w.shared.ready.rank
  | .mail observer => !(w.shared.pending observer).isEmpty

/-- Whether an activity of this readiness can go on now. -/
def canGoOn (s : Setting) (w : World) : Readiness → Bool
  | .ready => true
  | .waits wait => w.isOver s wait.awaited
  | .done => false

end World

end PageHighlight
