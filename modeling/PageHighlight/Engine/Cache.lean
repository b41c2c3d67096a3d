/-
  Engine/Cache.lean --- engines that are built once and shared.

  WHAT THIS FILE IS FOR.  Building an engine is slow, so everybody who needs one
  for configurations that ask for the same things shares it.  The first request
  for a key builds the engine; the others wait in a queue.  When the engine is
  there, or turned out not to be had, all of them get the same handle.  If the
  request that builds is given up, the next one in the queue builds in its place.

  STEPS.  A request moves in steps: it asks, waits for its turn or for the engine
  it is building, and is answered.  Every step is one operation on the cache, so
  that any number of requests may take theirs in any order.
-/
import PageHighlight.Engine.Basic

set_option autoImplicit false

namespace PageHighlight

/-! ## Keys -/

/-- What engines are shared by: the themes and languages that are asked for, as
sets, and the place of the grammars. -/
structure EngineKey where
  /-- The themes, in ascending order. -/
  themes : List Text
  /-- The languages, in ascending order and each once. -/
  languages : List Text
  /-- The directory of the grammars. -/
  source : FilePath.Steps
  deriving DecidableEq, Repr, Inhabited

/-- The key of a configuration. -/
def EngineKey.ofConfig (c : Config) : EngineKey :=
  ⟨Text.sort c.themesToLoad, Text.sort (Text.distinct c.languages), FilePath.steps c.engineSource⟩

/-! ## The cache -/

/-- The number of a wait; of two waits the one that began earlier has the smaller
number. -/
abbrev Ticket : Type := Nat

/-- The request whose turn it is to build an engine. -/
structure Builder where
  /-- Its ticket. -/
  ticket : Ticket
  /-- Whether it has begun to build. -/
  started : Bool
  /-- Whether what it builds is there. -/
  arrived : Bool
  deriving DecidableEq, Repr, Inhabited

/-- The engine of one key. -/
structure Cell where
  /-- The key. -/
  key : EngineKey
  /-- Who builds the engine. -/
  builder : Option Builder
  /-- Who waits for it, in order. -/
  waiting : List Ticket
  /-- What came of it. -/
  handle : Option Handle

/-- Engines by key. -/
structure EngineCache where
  /-- The engines. -/
  cells : List Cell
  /-- The keys for which the loader was called, last first. -/
  calls : List EngineKey

namespace EngineCache

/-- No engine was asked for yet. -/
def empty : EngineCache := ⟨[], []⟩

/-- The cell of a key. -/
def cell (key : EngineKey) (c : EngineCache) : Cell :=
  (c.cells.find? (·.key = key)).getD ⟨key, none, [], none⟩

/-- Replace the cell of a key. -/
def putCell (cell : Cell) : List Cell → List Cell
  | [] => [cell]
  | c :: cs => if c.key = cell.key then cell :: cs else c :: putCell cell cs

/-- Replace the cell of a key. -/
def put (cell : Cell) (c : EngineCache) : EngineCache := { c with cells := putCell cell c.cells }

/-- How often the loader was called. -/
def constructions (c : EngineCache) : Nat := c.calls.length

end EngineCache

/-! ## Requests -/

/-- How far a request for an engine is. -/
inductive Request where
  /-- it waits for its turn to build, or for somebody else's engine -/
  | queued (ticket : Ticket)
  /-- it waits for the engine it is building -/
  | building (ticket : Ticket)
  /-- it was answered -/
  | answered (handle : Handle)

namespace EngineCache

/-- Whether an engine is there as soon as its building begins. -/
def arrivesAtOnce (l : Loader) (gateOpen : Bool) : Bool :=
  match l.pace with
  | .immediate => true
  | .gated => gateOpen
  | .elsewhere => false

/-- Begin to build the engine of a key. -/
def startBuilding (l : Loader) (gateOpen : Bool) (key : EngineKey) (ticket : Ticket)
    (c : EngineCache) : EngineCache :=
  let cell := c.cell key
  { c.put { cell with builder := some ⟨ticket, true, arrivesAtOnce l gateOpen⟩ } with
    calls := key :: c.calls }

/-- Ask for the engine of a key. -/
def ask (l : Loader) (gateOpen : Bool) (key : EngineKey) (ticket : Ticket) (c : EngineCache) :
    EngineCache × Request :=
  let cell := c.cell key
  match cell.handle, cell.builder with
  | some h, _ => (c, .answered h)
  | none, none => (c.startBuilding l gateOpen key ticket, .building ticket)
  | none, some _ => (c.put { cell with waiting := cell.waiting ++ [ticket] }, .queued ticket)

/-- Whether a request can go on. -/
def canGoOn (key : EngineKey) (c : EngineCache) : Request → Bool
  | .queued ticket =>
    let cell := c.cell key
    cell.handle.isSome || cell.builder.any fun b => b.ticket = ticket && !b.started
  | .building ticket => (c.cell key).builder.any fun b => b.ticket = ticket && b.arrived
  | .answered _ => false

/-- The next step of a request that can go on; it was made for `config`, whose key
is `key`. -/
def goOn (l : Loader) (gateOpen : Bool) (config : Config) (key : EngineKey)
    (c : EngineCache) : Request → EngineCache × Request
  | .queued ticket =>
    match (c.cell key).handle with
    | some h => (c, .answered h)
    | none => (c.startBuilding l gateOpen key ticket, .building ticket)
  | .building _ =>
    let h := l.handle config
    (c.put { c.cell key with builder := none, waiting := [], handle := some h }, .answered h)
  | .answered h => (c, .answered h)

/-- Give up a request: its place goes to the next one in the queue. -/
def giveUp (key : EngineKey) (c : EngineCache) : Request → EngineCache
  | .queued ticket | .building ticket =>
    let cell := c.cell key
    match cell.builder with
    | some b =>
      if b.ticket = ticket then
        match cell.waiting with
        | [] => c.put { cell with builder := none }
        | next :: rest => c.put { cell with builder := some ⟨next, false, false⟩, waiting := rest }
      else c.put { cell with waiting := cell.waiting.filter (· ≠ ticket) }
    | none => c.put { cell with waiting := cell.waiting.filter (· ≠ ticket) }
  | .answered _ => c

/-- What the builder of a cell builds is there. -/
def arriveIn (cell : Cell) : Cell :=
  { cell with builder := cell.builder.map fun b =>
      if b.started then { b with arrived := true } else b }

/-- What is being built for a key is there. -/
def arrive (key : EngineKey) (c : EngineCache) : EngineCache := c.put (arriveIn (c.cell key))

/-- Everything that is being built is there. -/
def arriveAll (c : EngineCache) : EngineCache := { c with cells := c.cells.map arriveIn }

/-- Whether something is being built for a key that is not there yet. -/
def isBuilding (key : EngineKey) (c : EngineCache) : Bool :=
  (c.cell key).builder.any fun b => b.started && !b.arrived

/-! ## Several requests at once -/

/-- A request and the configuration it was made for. -/
structure Pending where
  /-- The configuration. -/
  config : Config
  /-- How far the request is. -/
  request : Request

/-- Ask for the engines of several configurations, one after another. -/
def askAll (l : Loader) (gateOpen : Bool) : Ticket → List Config → EngineCache →
    EngineCache × List Pending
  | _, [], c => (c, [])
  | ticket, config :: configs, c =>
    let (c, request) := c.ask l gateOpen (EngineKey.ofConfig config) ticket
    let (c, ps) := askAll l gateOpen (ticket + 1) configs c
    (c, ⟨config, request⟩ :: ps)

/-- Let every request that can go on take one step, in order. -/
def goOnAll (l : Loader) (gateOpen : Bool) : List Pending → EngineCache →
    EngineCache × List Pending
  | [], c => (c, [])
  | p :: ps, c =>
    let key := EngineKey.ofConfig p.config
    let (c, request) :=
      if c.canGoOn key p.request then c.goOn l gateOpen p.config key p.request
      else (c, p.request)
    let (c, ps) := goOnAll l gateOpen ps c
    (c, { p with request := request } :: ps)

/-- Let the requests take several rounds of steps. -/
def rounds (l : Loader) (gateOpen : Bool) : Nat → List Pending → EngineCache →
    EngineCache × List Pending
  | 0, ps, c => (c, ps)
  | n + 1, ps, c =>
    let (c, ps) := c.goOnAll l gateOpen ps
    c.rounds l gateOpen n ps

/-- The handles for several configurations that are asked for at once; what is
being built arrives once all of them wait. -/
def ensureAll (l : Loader) (gateOpen : Bool) (configs : List Config) (c : EngineCache) :
    EngineCache × List Handle :=
  let (c, ps) := c.askAll l gateOpen 0 configs
  let (c, ps) := c.rounds l gateOpen 3 ps
  let (c, ps) := c.arriveAll.rounds l true 3 ps
  (c, ps.map fun p => match p.request with
    | .answered h => h
    | _ => none)

end EngineCache

end PageHighlight
