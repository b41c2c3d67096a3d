/-
  Page/Shared.lean --- a page that several activities look at and change.

  WHAT THIS FILE IS FOR.  Every change goes through a write, and writes are
  counted.  Whoever observes the page is told of changes to its root element and
  to the preferred colour scheme: a change that really changed something is told
  once to every observer of that moment, and kept until the observer takes it.
-/
import PageHighlight.Page.Html

set_option autoImplicit false

namespace PageHighlight

/-- What observers of a page are told. -/
inductive ThemeEvent where
  /-- the root element changed -/
  | rootMutated
  /-- the preferred colour scheme changed -/
  | colorSchemeChanged (dark : Bool)
  deriving DecidableEq, Repr, Inhabited

/-- How far a page is loaded. -/
inductive ReadyState where
  | loading
  | interactive
  | complete
  deriving DecidableEq, Repr, Inhabited

namespace ReadyState

/-- The place of a state in the order in which they come. -/
def rank : ReadyState → Nat
  | loading => 0
  | interactive => 1
  | complete => 2

end ReadyState

/-- What one observer was told and has not taken yet. -/
structure Mailbox where
  /-- Whether the observer is still there. -/
  alive : Bool
  /-- What it was told, earliest first. -/
  pending : List ThemeEvent
  deriving DecidableEq, Repr, Inhabited

/-- A page with its observers. -/
structure SharedPage where
  /-- The page. -/
  page : Page
  /-- How many writes there were. -/
  generation : Nat
  /-- The observers, in the order in which they came. -/
  mailboxes : List Mailbox
  /-- How far the page is loaded. -/
  ready : ReadyState
  deriving DecidableEq, Repr, Inhabited

namespace SharedPage

/-- A page that nobody observes or has written to. -/
def ofPage (p : Page) : SharedPage := ⟨p, 0, [], .loading⟩

/-- Change the page, and count it. -/
def write {α : Type} (change : Page → α × Page) (s : SharedPage) : α × SharedPage :=
  let (x, p) := change s.page
  (x, { s with page := p, generation := s.generation + 1 })

/-! ## Observers -/

/-- Observe the page from now on; also the number of the observer. -/
def observe (s : SharedPage) : Nat × SharedPage :=
  (s.mailboxes.length, { s with mailboxes := s.mailboxes ++ [⟨true, []⟩] })

/-- Stop observing. -/
def unobserve (i : Nat) (s : SharedPage) : SharedPage :=
  { s with mailboxes := s.mailboxes.modify i fun _ => ⟨false, []⟩ }

/-- Tell every observer something. -/
def emit (e : ThemeEvent) (s : SharedPage) : SharedPage :=
  { s with mailboxes := s.mailboxes.map fun m =>
      if m.alive then { m with pending := m.pending ++ [e] } else m }

/-- What an observer was told and has not taken. -/
def pending (i : Nat) (s : SharedPage) : List ThemeEvent :=
  match s.mailboxes[i]? with
  | some m => m.pending
  | none => []

/-- Let an observer take everything it was told. -/
def takeAll (i : Nat) (s : SharedPage) : List ThemeEvent × SharedPage :=
  (s.pending i, { s with mailboxes := s.mailboxes.modify i fun m => { m with pending := [] } })

/-! ## Changes of the theme -/

/-- Change the root element; observers are told if it changed. -/
def changeRoot (change : RootElement → RootElement × Bool) (s : SharedPage) :
    Bool × SharedPage :=
  let (changed, s) := s.write fun p =>
    let (r, changed) := change p.root
    (changed, { p with root := r })
  (changed, if changed then s.emit .rootMutated else s)

/-- Give the root element a class, or take the class away. -/
def setRootClass (c : Text) (on : Bool) : SharedPage → Bool × SharedPage :=
  changeRoot (RootElement.setClass c on)

/-- Give an attribute of the root element a value, or take the attribute away. -/
def setRootAttr (name : Text) (value : Option Text) : SharedPage → Bool × SharedPage :=
  changeRoot (RootElement.setAttr name value)

/-- Set the preferred colour scheme; observers are told if it changed. -/
def setPrefersDark (dark : Bool) (s : SharedPage) : Bool × SharedPage :=
  let (changed, s) := s.write fun p => (p.prefersDark != dark, { p with prefersDark := dark })
  (changed, if changed then s.emit (.colorSchemeChanged dark) else s)

/-- Tell how far the page is loaded; it never goes back. -/
def setReady (state : ReadyState) (s : SharedPage) : SharedPage :=
  if s.ready.rank < state.rank then { s with ready := state } else s

/-! ## Restoring -/

/-- Put every rendered block of a page back; also how many there were. -/
def restoreBlocks (p : Page) : Nat × Page :=
  let ids := (p.blocks.filter (·.isRendered)).map (·.id)
  ids.foldl (fun (n, p) id =>
    let (restored, p) := p.restore id
    (if restored then n + 1 else n, p)) (0, p)

/-- Put every rendered block back, in one write. -/
def restoreAll (s : SharedPage) : Nat × SharedPage := s.write restoreBlocks

/-! ## Diagnostics -/

/-- A page as diagnostics tell it. -/
def describe (s : SharedPage) : Text :=
  "SharedPage \x7b blocks: ".toList ++ Text.ofNat s.page.slots.length
    ++ ", generation: ".toList ++ Text.ofNat s.generation ++ " \x7d".toList

end SharedPage

end PageHighlight
