/-
  Proofs/Session/Fate.lean --- what a cycle should make of a page: the blocks one by
  one, without batches, waits or marks.

  WHAT THIS FILE IS FOR.  What becomes of a block that a cycle picks (`Setting.fate`)
  depends on the block, the setting and the theme only, so a whole page can be
  rendered by looking at each block once: `Setting.cycled` is the page and
  `Setting.reportOf` the report.  Neither of them mentions how many blocks are
  rendered at a time (`SameButBatches`).  That a cycle that runs in steps comes to the
  same is said elsewhere; `Node.Cycled` is how it is said, since the numbers of the
  blocks that a cycle puts in depend on the order in which it does.
-/
import Mathlib.Data.List.Forall2
import PageHighlight.Session.Cycle

set_option autoImplicit false

namespace PageHighlight

/-! ## Candidates -/

namespace Config

variable {c : Config} {n n' : Node}

theorem isCandidate_iff : c.isCandidate n = true ↔
    n.isRendered = false ∧ (n.tag?.isSome = true ∨ n.classes = []) ∧
      ∀ marker ∈ c.exclusionMarkers, n.hasClass marker = false := by
  simp [isCandidate, and_assoc]

/-- Whether a block is a candidate depends on its classes and on whether it is rendered. -/
theorem isCandidate_congr (hpristine : n'.isRendered = n.isRendered)
    (hclasses : n'.classes = n.classes) : c.isCandidate n' = c.isCandidate n := by
  rw [Bool.eq_iff_iff, isCandidate_iff, isCandidate_iff]
  unfold Node.tag? Node.hasClass
  rw [hpristine, hclasses]

end Config

/-! ## The fate of a block -/

/-- What becomes of a block that a cycle picks. -/
inductive Fate where
  /-- a rendered block takes its place -/
  | rendered (r : RenderedBlock)
  | skipped (why : SkipReason)
  | failed (e : Error)

namespace Fate

def isRendered : Fate → Bool
  | rendered _ => true
  | _ => false

def isSkipped : Fate → Bool
  | skipped _ => true
  | _ => false

def isFailed : Fate → Bool
  | failed _ => true
  | _ => false

end Fate

/-- How many blocks had which fate. -/
def Tally.ofFates (fs : List Fate) : Tally :=
  ⟨fs.countP (·.isRendered), fs.countP (·.isSkipped), fs.countP (·.isFailed)⟩

/-- Every fate is counted, and once. -/
theorem Tally.total_ofFates (fs : List Fate) :
    (ofFates fs).rendered + (ofFates fs).skipped + (ofFates fs).failed = fs.length := by
  simp only [ofFates]
  induction fs with
  | nil => rfl
  | cons f fs ih =>
    have hone : (if f.isRendered then 1 else 0) + (if f.isSkipped then 1 else 0) +
        (if f.isFailed then 1 else 0) = 1 := by
      cases f <;> rfl
    simp only [List.countP_cons, List.length_cons]
    omega

namespace Setting

/-- What becomes of a block that is picked, with a theme: it is rendered as what it
is, by the engine of the setting, unless its language is not on the allow-list, there
is no engine, or the engine cannot render it. -/
def fate (s : Setting) (theme : Text) (n : Node) : Fate :=
  match n.content with
  | .rendered _ => .skipped .gone
  | .source t =>
    let o := Page.sourceBlockOf n.classes t
    if s.config.allows o.language then
      match s.loader.handle s.config with
      | none => .skipped .engineUnavailable
      | some engine =>
        match s.render? engine o theme with
        | .error e => .failed e
        | .ok r => .rendered r
    else .skipped (.disallowed o.language)

theorem fate_eq_rendered_iff {s : Setting} {theme : Text} {n : Node} {t : Text}
    {r : RenderedBlock} (hn : n.content = .source t) :
    s.fate theme n = .rendered r ↔
      s.config.allows (Page.sourceBlockOf n.classes t).language = true ∧
        ∃ engine, s.loader.handle s.config = some engine ∧
          s.render? engine (Page.sourceBlockOf n.classes t) theme = .ok r := by
  simp only [fate, hn]
  split
  · next hallowed =>
    rw [and_iff_right hallowed]
    cases s.loader.handle s.config with
    | none => simp
    | some engine =>
      simp only [Option.some.injEq, exists_eq_left']
      split
      · next he => simp [he]
      · next hr => simp [hr]
  · next hnot => exact ⟨fun h => (nomatch h), fun h => absurd h.1 hnot⟩

/-! ## A page, block by block -/

/-- The blocks that a cycle picks, in order. -/
def picked (s : Setting) (p : Page) : List Node := p.blocks.filter s.config.isCandidate

theorem candidates_eq (s : Setting) (p : Page) :
    s.config.candidates p = (s.picked p).map (·.id) := rfl

/-- What a cycle with a theme reports of a page. -/
def reportOf (s : Setting) (theme : Text) (p : Page) : Report :=
  .completed (s.picked p).length (Tally.ofFates ((s.picked p).map (s.fate theme)))

/-- What is in the place of a block when it was rendered, or was not. -/
def cycledNode (s : Setting) (theme : Text) (n : Node) : Node :=
  if s.config.isCandidate n then
    match s.fate theme n with
    | .rendered r => { n with classes := [Page.renderedClass], content := .rendered r }
    | _ => n
  else n

/-- The page with every block rendered that a cycle picks and that can be. -/
def cycled (s : Setting) (theme : Text) (p : Page) : Page :=
  { p with slots := p.slots.map fun slot => { slot with node := s.cycledNode theme slot.node } }

end Setting

/-! ## What steps may come to -/

/-- What may have become of a block of a page that gave out `bound` numbers: it is the
same block, or, if it is to be rendered, it is replaced under a number that is new. -/
inductive Node.Cycled (s : Setting) (theme : Text) (bound : Nat) : Node → Node → Prop where
  | kept {n : Node} (why : s.config.isCandidate n = true → ∀ r, s.fate theme n ≠ .rendered r) :
      Cycled s theme bound n n
  | replaced {n : Node} (candidate : s.config.isCandidate n = true) {r : RenderedBlock}
      (rendered : s.fate theme n = .rendered r) {id : NodeId} (new : bound < id) :
      Cycled s theme bound n ⟨id, [Page.renderedClass], .rendered r⟩

theorem Node.Cycled.mono {s : Setting} {theme : Text} {bound bound' : Nat} {n n' : Node}
    (h : n.Cycled s theme bound' n') (hle : bound ≤ bound') : n.Cycled s theme bound n' := by
  cases h with
  | kept why => exact .kept why
  | replaced candidate rendered new =>
    exact .replaced candidate rendered (Nat.lt_of_le_of_lt hle new)

/-- A block that was not picked, or was not rendered, is still there. -/
theorem Node.Cycled.eq_self {s : Setting} {theme : Text} {bound : Nat} {n n' : Node}
    (h : n.Cycled s theme bound n')
    (why : s.config.isCandidate n = true → ∀ r, s.fate theme n ≠ .rendered r) : n' = n := by
  cases h with
  | kept => rfl
  | replaced candidate rendered => exact absurd rendered (why candidate _)

/-- A block that was picked and can be rendered is rendered. -/
theorem Node.Cycled.content_eq {s : Setting} {theme : Text} {bound : Nat} {n n' : Node}
    (h : n.Cycled s theme bound n') (candidate : s.config.isCandidate n = true)
    {r : RenderedBlock} (rendered : s.fate theme n = .rendered r) : n'.content = .rendered r := by
  cases h with
  | kept why => exact absurd rendered (why candidate r)
  | replaced _ rendered' =>
    cases rendered.symm.trans rendered'
    rfl

/-- A block that is not rendered after a cycle is the one that was there, and another cycle
with the same theme leaves it, too. -/
theorem Node.Cycled.settled {s : Setting} {theme : Text} {bound : Nat} {n n' : Node}
    (h : n.Cycled s theme bound n') (hn' : n'.isRendered = false) :
    n' = n ∧ (s.config.isCandidate n' = true → ∀ r, s.fate theme n' ≠ .rendered r) := by
  cases h with
  | kept why => exact ⟨rfl, why⟩
  | replaced candidate rendered => cases hn'

/-- A pristine block is rendered after a cycle if and only if it was picked and could be. -/
theorem Node.Cycled.content_eq_iff {s : Setting} {theme : Text} {bound : Nat} {n n' : Node}
    (h : n.Cycled s theme bound n') (hn : n.isRendered = false) (r : RenderedBlock) :
    n'.content = .rendered r ↔
      s.config.isCandidate n = true ∧ s.fate theme n = .rendered r := by
  refine ⟨fun hr => ?_, fun hr => h.content_eq hr.1 hr.2⟩
  cases h with
  | kept why => simp [Node.isRendered, Node.rendered?, hr] at hn
  | replaced candidate rendered =>
    cases hr
    exact ⟨candidate, rendered⟩

/-- What may have become of a slot: its markup stays, and so on for its block. -/
structure Slot.Cycled (s : Setting) (theme : Text) (bound : Nat) (slot slot' : Slot) : Prop where
  preTag : slot'.preTag = slot.preTag
  codeAttrs : slot'.codeAttrs = slot.codeAttrs
  node : slot.node.Cycled s theme bound slot'.node

/-- All but the number is as it is block by block. -/
theorem Node.Cycled.eq {s : Setting} {theme : Text} {bound : Nat} {n n' : Node}
    (h : n.Cycled s theme bound n') : n' = { s.cycledNode theme n with id := n'.id } := by
  cases h with
  | kept why =>
    unfold Setting.cycledNode
    split
    · next hc =>
      split
      · next r hr => exact absurd hr (why hc r)
      · rfl
    · rfl
  | replaced candidate rendered new =>
    rw [Setting.cycledNode, if_pos candidate, rendered]

/-! ## Pages as readers see them -/

namespace Page

/-- The number of a block is not written. -/
theorem writeSlot_renumbered {slot slot' : Slot} (hpre : slot'.preTag = slot.preTag)
    (hattrs : slot'.codeAttrs = slot.codeAttrs)
    (hnode : slot'.node = { slot.node with id := slot'.node.id }) :
    writeSlot slot' = writeSlot slot := by
  have hclasses : slot'.node.classes = slot.node.classes := by rw [hnode]
  have hcontent : slot'.node.content = slot.node.content := by rw [hnode]
  simp only [writeSlot, writeSource, hcontent, hclasses, hpre, hattrs]

theorem toHtml_congr {p p' : Page} (hroot : p'.root = p.root)
    (hsegments : p'.segments = p.segments)
    (hslots : List.Forall₂ (fun slot slot' => writeSlot slot' = writeSlot slot) p.slots p'.slots) :
    p'.toHtml = p.toHtml := by
  have hmap : p'.slots.map writeSlot = p.slots.map writeSlot := by
    generalize p.slots = slots at hslots
    generalize p'.slots = slots' at hslots
    induction hslots with
    | nil => rfl
    | cons h _ ih => rw [List.map_cons, List.map_cons, h, ih]
  have hsegment : p'.writeSegment = p.writeSegment := by
    funext seg
    cases seg with
    | html t => rfl
    | root => exact congrArg rootTag hroot
    | block i =>
      have hi : (p'.slots[i]?).map writeSlot = (p.slots[i]?).map writeSlot := by
        rw [← List.getElem?_map, hmap, List.getElem?_map]
      simp only [writeSegment]
      cases h : p.slots[i]? <;> cases h' : p'.slots[i]? <;> simp_all
  rw [toHtml, toHtml, hsegments, hsegment]

/-- A page whose blocks became what they may is written as the page that is rendered
block by block. -/
theorem toHtml_cycled {s : Setting} {theme : Text} {bound : Nat} {p p' : Page}
    (hsegments : p'.segments = p.segments)
    (hslots : List.Forall₂ (Slot.Cycled s theme bound) p.slots p'.slots) :
    p'.toHtml = (s.cycled theme { p with root := p'.root }).toHtml := by
  refine toHtml_congr rfl hsegments ?_
  rw [Setting.cycled, List.forall₂_map_left_iff]
  exact hslots.imp fun slot slot' h => writeSlot_renumbered h.preTag h.codeAttrs h.node.eq

end Page

/-! ## The size of batches -/

namespace Setting

/-- A setting with another size of batches. -/
def withBatches (n : Nat) (s : Setting) : Setting :=
  { s with
    config := { s.config with batchSize := n }
    key_eq := s.key_eq
    passes_eq := s.passes_eq }

/-- Two settings differ in how many blocks are rendered at a time, and in nothing else
that a cycle looks at. -/
structure SameButBatches (s s' : Setting) : Prop where
  config : s'.config = { s.config with batchSize := s'.config.batchSize }
  engine : s'.loader.handle s'.config = s.loader.handle s.config

variable {s s' : Setting}

theorem SameButBatches.passes (h : SameButBatches s s') : s'.passes = s.passes := by
  rw [s'.passes_eq, s.passes_eq, h.config]

theorem SameButBatches.fate (h : SameButBatches s s') (theme : Text) (n : Node) :
    s'.fate theme n = s.fate theme n := by
  have hallows : ∀ tag, s'.config.allows tag = s.config.allows tag := by
    intro tag
    rw [h.config]
    rfl
  have hrender : ∀ engine o, s'.render? engine o theme = s.render? engine o theme := by
    intro engine o
    unfold render?
    rw [h.passes]
  unfold Setting.fate
  simp only [hallows, hrender, h.engine]

theorem SameButBatches.picked (h : SameButBatches s s') (p : Page) : s'.picked p = s.picked p := by
  unfold Setting.picked
  rw [h.config]
  rfl

theorem SameButBatches.resolveTheme (h : SameButBatches s s') (p : Page) :
    s'.config.resolveTheme p = s.config.resolveTheme p := by
  rw [h.config]
  rfl

/-- Nothing in a report depends on the size of batches. -/
theorem SameButBatches.reportOf (h : SameButBatches s s') (theme : Text) (p : Page) :
    s'.reportOf theme p = s.reportOf theme p := by
  have hfate : s'.fate theme = s.fate theme := funext (h.fate theme)
  unfold Setting.reportOf
  rw [h.picked, hfate]

/-- Nor does anything on a page. -/
theorem SameButBatches.cycled (h : SameButBatches s s') (theme : Text) (p : Page) :
    s'.cycled theme p = s.cycled theme p := by
  have hcandidate : s'.config.isCandidate = s.config.isCandidate := by
    rw [h.config]
    rfl
  unfold Setting.cycled Setting.cycledNode
  simp only [h.fate, hcandidate]

end Setting

end PageHighlight
