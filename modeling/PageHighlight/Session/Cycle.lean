/-
  Session/Cycle.lean --- one pass over every block that can be rendered.

  WHAT THIS FILE IS FOR.  Only one cycle runs at a time: a cycle that finds another
  one running is skipped.  A cycle resolves the theme and picks its candidates at
  its start, marks them as loading, renders them batch by batch, takes the marks
  off those that are left, and lets the next cycle begin.  The blocks of one batch
  are rendered side by side, in any order.
-/
import PageHighlight.Session.Render

set_option autoImplicit false

namespace PageHighlight

/-- Whether a cycle picks a block: it is pristine, says its language or has no
classes at all, and has none of the classes that exclude it. -/
def Config.isCandidate (c : Config) (n : Node) : Bool :=
  !n.isRendered && (n.tag?.isSome || n.classes.isEmpty) && !c.exclusionMarkers.any n.hasClass

/-- The candidates of a page, in order. -/
def Config.candidates (c : Config) (p : Page) : List NodeId :=
  (p.blocks.filter c.isCandidate).map (·.id)

/-- Cut a list into pieces of `n` items, the last one maybe shorter; of one item
at least. -/
def chunks {α : Type} (n : Nat) (xs : List α) : List (List α) :=
  match _h : xs with
  | [] => []
  | _ :: rest => xs.take (n - 1 + 1) :: chunks n (rest.drop (n - 1))
termination_by xs.length
decreasing_by
  have := congrArg List.length _h
  simp only [List.length_cons, List.length_drop] at this ⊢
  omega

/-! ## Reports -/

/-- What came of the candidates of a cycle. -/
structure Tally where
  rendered : Nat
  skipped : Nat
  failed : Nat
  deriving DecidableEq, Repr, Inhabited

namespace Tally

/-- Nothing counted. -/
def zero : Tally := ⟨0, 0, 0⟩

/-- Count one outcome. -/
def count (t : Tally) : Outcome → Tally
  | .rendered _ => { t with rendered := t.rendered + 1 }
  | .skipped _ => { t with skipped := t.skipped + 1 }
  | .failed _ => { t with failed := t.failed + 1 }

/-- Count the outcomes of renders. -/
def countAll (t : Tally) (rs : List Render) : Tally :=
  (rs.filterMap (·.outcome?)).foldl count t

end Tally

/-- What a cycle did. -/
inductive Report where
  /-- another cycle was running -/
  | skipped
  | completed (candidates : Nat) (tally : Tally)
  deriving DecidableEq, Repr, Inhabited

/-- How many blocks a cycle rendered. -/
def Report.rendered : Report → Nat
  | .skipped => 0
  | .completed _ t => t.rendered

/-! ## The activity -/

/-- A cycle at work on its candidates. -/
structure Batches where
  /-- The theme resolved at the start. -/
  theme : Text
  /-- All candidates. -/
  candidates : List NodeId
  /-- What came of the batches before. -/
  tally : Tally
  /-- The batch at work. -/
  current : List Render
  /-- The batches to come. -/
  rest : List (List NodeId)

/-- How far a cycle is. -/
inductive Cycle where
  /-- nothing was done yet -/
  | start
  /-- no other cycle can begin; the page is looked at next -/
  | survey
  /-- the candidates are marked next -/
  | mark (theme : Text) (candidates : List NodeId)
  /-- batch after batch is rendered -/
  | batch (b : Batches)
  /-- the marks are taken off next -/
  | unmark (candidates : List NodeId) (tally : Tally)
  /-- the next cycle is let in next -/
  | release (candidates : Nat) (tally : Tally)
  | done (report : Report)

namespace Batches

/-- The batch at work and those to come, after the last one. -/
def next (b : Batches) : Cycle :=
  let tally := b.tally.countAll b.current
  match b.rest with
  | [] => .unmark b.candidates tally
  | ids :: rest =>
    let current := ids.map fun id => Render.of id b.theme
    .batch { b with tally := tally, current := current, rest := rest }

/-- Whether every render of the batch is done. -/
def isSettled (b : Batches) : Bool := b.current.all fun r => r.outcome?.isSome

end Batches

namespace Cycle

/-- What it did. -/
def report? : Cycle → Option Report
  | done r => some r
  | _ => none

/-- Whether it holds the place of the running cycle. -/
def isActive : Cycle → Bool
  | start => false
  | done _ => false
  | _ => true

/-- The parts of it that can go on by themselves, by their indices: the renders of
the batch at work, or the cycle as a whole. -/
def parts : Cycle → List Readiness
  | batch b => if b.isSettled then [.ready] else b.current.map (·.readiness)
  | done _ => [.done]
  | _ => [.ready]

/-- Mark blocks as loading. -/
def markAll (ids : List NodeId) (p : Page) : Unit × Page :=
  ((), ids.foldl (fun p id => (p.addClass id Page.loadingClass).2) p)

/-- Take the loading marks off blocks. -/
def unmarkAll (ids : List NodeId) (p : Page) : Unit × Page :=
  ((), ids.foldl (fun p id => (p.removeClass id Page.loadingClass).2) p)

/-- The cycle at the start of its batches. -/
def begin (s : Setting) (theme : Text) (candidates : List NodeId) : Cycle :=
  Batches.next ⟨theme, candidates, Tally.zero, [], chunks s.config.batchSize candidates⟩

/-- The next step of the part at an index. -/
def step (s : Setting) (part : Nat) (w : World) : Cycle → World × Cycle
  | start => if w.running then (w, done .skipped) else ({ w with running := true }, survey)
  | survey =>
    match s.config.candidates w.page with
    | [] => (w, release 0 Tally.zero)
    | ids => (w, mark (s.config.resolveTheme w.page) ids)
  | mark theme ids => ((w.write (markAll ids)).2, begin s theme ids)
  | batch b =>
    if b.isSettled then (w, b.next)
    else
      match b.current[part]? with
      | none => (w, batch b)
      | some r =>
        let (w, r) := r.step s w
        (w, batch { b with current := b.current.set part r })
  | unmark ids tally => ((w.write (unmarkAll ids)).2, release ids.length tally)
  | release n tally => ({ w with running := false }, done (.completed n tally))
  | done r => (w, done r)

/-- Give it up: its renders too, and the next cycle is let in. -/
def giveUp (s : Setting) (w : World) (c : Cycle) : World :=
  let w := match c with
    | batch b => b.current.foldl (fun w r => r.giveUp s w) w
    | _ => w
  if c.isActive then { w with running := false } else w

end Cycle

end PageHighlight
