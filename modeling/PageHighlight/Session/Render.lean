/-
  Session/Render.lean --- rendering one block and putting it into the page.

  WHAT THIS FILE IS FOR.  `render?` is what a block becomes: a function of what it
  was, the setting, the engine and the theme.  `Render` is the activity that does
  it in steps: note what the block was, ask for the engine, wait for it, and put
  the rendered block in the place of the old one.  Every problem is an outcome; a
  render never fails its caller.
-/
import PageHighlight.AnnotatedSource
import PageHighlight.Session.World

set_option autoImplicit false

namespace PageHighlight

/-! ## The theme of a page -/

/-- Whether a page is dark: its reader prefers dark pages, or its root element has
a class or a `data-theme` that says so. -/
def Config.isDark (c : Config) (p : Page) : Bool :=
  p.prefersDark || p.root.classes.any c.darkIndicators.contains
    || (p.root.attr? "data-theme").any c.darkIndicators.contains

/-- The theme for a page. -/
def Config.resolveTheme (c : Config) (p : Page) : Text :=
  if c.isDark p then c.darkTheme else c.defaultTheme

/-! ## What a block becomes -/

/-- The class of a level. -/
def levelClass (l : Level) : Text := "hl-".toList ++ Text.ofNat l.val

/-- A fragment whose lines have the classes of their levels; lines that it does
not have are passed over. -/
def Fragment.withLevels (levels : LevelMap) (f : Fragment) : Fragment :=
  levels.foldl (fun f (n, l) =>
    (f.addLineClass (n - 1) "highlighted").addLineClass (n - 1) (levelClass l)) f

/-- What a block becomes when it is rendered. -/
def Setting.render? (s : Setting) (engine : Engine) (o : SourceBlock) (theme : Text) :
    Except Error RenderedBlock :=
  let annotated := AnnotatedSource.ofSource o.text
  match engine.renderWith s.passes annotated.display o.language theme with
  | .error e => .error e
  | .ok f =>
    let f := f.withLevels annotated.levels
    .ok ⟨f.toHtml, annotated.display, annotated.levels, theme, ⟨f.text, .idle⟩⟩

/-! ## Outcomes -/

/-- Why a block was left as it was. -/
inductive SkipReason where
  /-- it is not there any more, or already rendered -/
  | gone
  /-- its language is not on the allow-list -/
  | disallowed (language : Text)
  /-- there is no engine -/
  | engineUnavailable
  deriving DecidableEq, Repr, Inhabited

/-- What came of rendering a block. -/
inductive Outcome where
  /-- the block with this number took its place -/
  | rendered (id : NodeId)
  | skipped (why : SkipReason)
  | failed (e : Error)
  deriving DecidableEq, Repr, Inhabited

/-! ## The activity -/

/-- How far a render is. -/
inductive RenderStage where
  /-- nothing was done yet -/
  | start
  /-- the block may be rendered; the engine is asked for next -/
  | asking (o : SourceBlock)
  /-- the engine was asked for -/
  | waiting (o : SourceBlock) (r : Request)
  /-- the engine is there, or there is none -/
  | answered (o : SourceBlock) (h : Handle)
  | done (outcome : Outcome)

/-- The rendering of one block with a theme. -/
structure Render where
  /-- The number of the block. -/
  id : NodeId
  /-- The theme. -/
  theme : Text
  /-- How far it is. -/
  stage : RenderStage

namespace Render

/-- A render that has not begun. -/
def of (id : NodeId) (theme : Text) : Render := ⟨id, theme, .start⟩

/-- What came of it. -/
def outcome? (r : Render) : Option Outcome :=
  match r.stage with
  | .done o => some o
  | _ => none

/-- The ticket of a request. -/
def requestTicket : Request → Ticket
  | .queued t | .building t => t
  | .answered _ => 0

/-- Whether it can go on. -/
def readiness (r : Render) : Readiness :=
  match r.stage with
  | .waiting _ request => .waits ⟨requestTicket request, .engine request⟩
  | .done _ => .done
  | _ => .ready

/-- The stage after the cache answered a request or not. -/
def afterRequest (o : SourceBlock) : Request → RenderStage
  | .answered h => .answered o h
  | request => .waiting o request

/-- The next step. -/
def step (s : Setting) (w : World) (r : Render) : World × Render :=
  match r.stage with
  | .start =>
    let (captured, w) := w.write (·.capture r.id)
    match captured with
    | none => (w, { r with stage := .done (.skipped .gone) })
    | some o =>
      if s.config.allows o.language then (w, { r with stage := .asking o })
      else (w, { r with stage := .done (.skipped (.disallowed o.language)) })
  | .asking o =>
    let (ticket, w) := w.ticket
    let (engines, request) := w.engines.ask s.loader w.gateOpen s.key ticket
    ({ w with engines := engines }, { r with stage := afterRequest o request })
  | .waiting o request =>
    let (engines, request) := w.engines.goOn s.loader w.gateOpen s.config s.key request
    ({ w with engines := engines }, { r with stage := afterRequest o request })
  | .answered _ none => (w, { r with stage := .done (.skipped .engineUnavailable) })
  | .answered o (some engine) =>
    match s.render? engine o r.theme with
    | .error e => (w, { r with stage := .done (.failed e) })
    | .ok block =>
      let (new, w) := w.write (·.replace r.id block)
      match new with
      | some id => (w, { r with stage := .done (.rendered id) })
      | none => (w, { r with stage := .done (.skipped .gone) })
  | .done _ => (w, r)

/-- Give it up. -/
def giveUp (s : Setting) (w : World) (r : Render) : World :=
  match r.stage with
  | .waiting _ request => { w with engines := w.engines.giveUp s.key request }
  | _ => w

end Render

end PageHighlight
