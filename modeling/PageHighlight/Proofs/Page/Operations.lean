/-
  Proofs/Page/Operations.lean --- what holds of a page whatever was done to its blocks.

  WHAT THIS FILE IS FOR.  Whoever holds the number of a block may use it late, when the
  block is long replaced, or may use a number that no block ever had.  What makes this
  safe is said here of every page that operations can make of an empty page or of one
  that was read (`numbers_after`): no two blocks have the same number, a number that was
  given out and names no block will never name one, one that names a block names it
  where it always was, and an operation on a number that names none changes no block.

  PIECES.  The page is written block by block from its pieces; that these tell the
  blocks one by one and in order is kept by every operation with the numbers
  (`Page.IsOrderly`).
-/
import PageHighlight.Proofs.Page.Identity
import PageHighlight.Proofs.Page.Readable

set_option autoImplicit false

namespace PageHighlight

namespace Page

/-! ## Operations -/

/-- An operation on the blocks of a page. -/
inductive Operation where
  /-- put a pristine block at its end -/
  | add (classes : List Text) (text : Text)
  /-- change one of its blocks -/
  | edit (e : Edit)

namespace Operation

/-- The page after an operation. -/
def apply : Operation → Page → Page
  | add classes text, p => (p.addBlock classes text).2
  | edit e, p => e.apply p

/-- The page after several operations, one after another. -/
def applyAll (ops : List Operation) (p : Page) : Page := ops.foldl (fun p o => o.apply p) p

theorem applyAll_cons (o : Operation) (ops : List Operation) (p : Page) :
    applyAll (o :: ops) p = applyAll ops (o.apply p) := rfl

/-- Whether an operation takes a number for a block. -/
def takesNumber : Operation → Bool
  | add _ _ => true
  | edit (.replace _ _) => true
  | edit _ => false

end Operation

/-! ## Pages in order -/

/-- A page whose blocks have numbers of their own, given out from one on, and whose
pieces tell its blocks one by one and in order. -/
structure IsOrderly (p : Page) : Prop where
  numbered : p.IsNumbered
  one_le : ∀ s ∈ p.slots, 1 ≤ s.node.id
  inOrder : p.segments.filterMap Segment.block? = List.range p.slots.length

namespace IsOrderly

variable {p : Page}

theorem pushBlock (h : p.IsOrderly) (classes : List Text) (text preTag : Text)
    (codeAttrs : List Attribute) : (p.pushBlock classes text preTag codeAttrs).IsOrderly := by
  refine ⟨h.numbered.pushBlock classes text preTag codeAttrs, ?_, ?_⟩
  · intro s hs
    rcases List.mem_append.1 hs with hs | hs
    · exact h.one_le s hs
    · rw [List.mem_singleton.1 hs]
      exact Nat.succ_pos _
  · simp only [Page.pushBlock, List.filterMap_append, h.inOrder, List.length_append,
      List.length_singleton, List.range_succ]
    rfl

theorem apply (h : p.IsOrderly) (e : Edit) : (e.apply p).IsOrderly := by
  have hmoves := forall₂_move_apply e p
  refine ⟨h.numbered.apply e, ?_, ?_⟩
  · intro s' hs'
    obtain ⟨s, hs, hmove⟩ := exists_of_mem_right_of_forall₂ hmoves hs'
    rcases hmove.evolves.identity with ⟨hid, -⟩ | hnew
    · exact hid ▸ h.one_le s hs
    · exact Nat.succ_le_of_lt (Nat.zero_lt_of_lt hnew)
  · rw [(sameFrame_apply e p).2.2, ← hmoves.length_eq, h.inOrder]

theorem operated (h : p.IsOrderly) (o : Operation) : (o.apply p).IsOrderly := by
  cases o with
  | add classes text => exact h.pushBlock classes text _ _
  | edit e => exact h.apply e

theorem applyAll (h : p.IsOrderly) (ops : List Operation) :
    (Operation.applyAll ops p).IsOrderly := by
  induction ops generalizing p with
  | nil => exact h
  | cons o ops ih => exact ih (h.operated o)

end IsOrderly

/-- A page with which operations may begin. -/
def IsStart (p : Page) : Prop := p = empty ∨ ∃ t, p = ofHtml t

theorem isOrderly_empty : empty.IsOrderly :=
  ⟨isFresh_empty.numbered, fun _ hs => (List.not_mem_nil hs).elim, rfl⟩

/-- What was read is in order, and took a number for each block and no other. -/
theorem isOrderly_ofParts (parts : List Part) {p : Page} (h : p.IsOrderly)
    (hcount : p.allocated = p.slots.length) :
    (parts.foldl addPart p).IsOrderly ∧
      (parts.foldl addPart p).allocated = (parts.foldl addPart p).slots.length := by
  induction parts generalizing p with
  | nil => exact ⟨h, hcount⟩
  | cons part parts ih =>
    cases part with
    | html t =>
      have hsame : (p.addPart (.html t)).segments.filterMap Segment.block? =
          p.segments.filterMap Segment.block? := by
        simp [addPart, List.filterMap_cons, Segment.block?]
      exact ih ⟨⟨h.numbered.nodup, h.numbered.le_allocated⟩, h.one_le, hsame.trans h.inOrder⟩ hcount
    | root attrs =>
      have hsame : (p.addPart (.root attrs)).segments.filterMap Segment.block? =
          p.segments.filterMap Segment.block? := by
        simp [addPart, List.filterMap_cons, Segment.block?]
      exact ih ⟨⟨h.numbered.nodup, h.numbered.le_allocated⟩, h.one_le, hsame.trans h.inOrder⟩ hcount
    | block b =>
      refine ih (h.pushBlock _ _ _ _) ?_
      simp only [addPart, pushBlock, List.length_append, List.length_singleton, hcount]

theorem IsStart.isOrderly {p : Page} (h : p.IsStart) :
    p.IsOrderly ∧ p.allocated = p.slots.length := by
  rcases h with rfl | ⟨t, rfl⟩
  · exact ⟨isOrderly_empty, rfl⟩
  · exact isOrderly_ofParts (Part.readAll t) isOrderly_empty rfl

/-! ## What a number names later -/

/-- A number that was given out at first and names a block later names what it named at
first. -/
structure KeepsNames (p p' : Page) : Prop where
  allocated_le : p.allocated ≤ p'.allocated
  named : ∀ (i : Nat) (s' : Slot), p'.slots[i]? = some s' → s'.node.id ≤ p.allocated →
    ∃ s : Slot, p.slots[i]? = some s ∧ s.node.id = s'.node.id

namespace KeepsNames

variable {p p' p'' : Page}

theorem refl (p : Page) : KeepsNames p p := ⟨Nat.le_refl _, fun _ s' h _ => ⟨s', h, rfl⟩⟩

theorem trans (h : KeepsNames p p') (h' : KeepsNames p' p'') : KeepsNames p p'' := by
  refine ⟨Nat.le_trans h.allocated_le h'.allocated_le, fun i s'' hs'' hle => ?_⟩
  obtain ⟨s', hs', hid'⟩ := h'.named i s'' hs'' (Nat.le_trans hle h.allocated_le)
  obtain ⟨s, hs, hid⟩ := h.named i s' hs' (hid' ▸ hle)
  exact ⟨s, hs, hid.trans hid'⟩

theorem apply (e : Edit) (p : Page) : KeepsNames p (e.apply p) := by
  refine ⟨allocated_le_apply e p, fun i s' hs' hle => ?_⟩
  have hmoves := forall₂_move_apply e p
  obtain ⟨hi', rfl⟩ := List.getElem?_eq_some_iff.1 hs'
  have hi : i < p.slots.length := hmoves.length_eq ▸ hi'
  refine ⟨p.slots[i], List.getElem?_eq_getElem hi, ?_⟩
  rcases (hmoves.get hi hi').evolves.identity with ⟨hid, -⟩ | hnew
  · exact hid.symm
  · exact absurd hle (Nat.not_le.2 hnew)

theorem pushBlock (p : Page) (classes : List Text) (text preTag : Text)
    (codeAttrs : List Attribute) :
    KeepsNames p (p.pushBlock classes text preTag codeAttrs) := by
  refine ⟨Nat.le_succ _, fun i s' hs' hle => ?_⟩
  rcases Nat.lt_or_ge i p.slots.length with hi | hi
  · exact ⟨s', (List.getElem?_append_left hi).symm.trans hs', rfl⟩
  · have hnew : s' ∈ [(⟨⟨p.allocated + 1, classes, .source text⟩, none, preTag, codeAttrs⟩ : Slot)] :=
      List.mem_of_getElem? ((List.getElem?_append_right hi).symm.trans hs')
    rw [List.mem_singleton.1 hnew] at hle
    exact absurd hle (Nat.not_succ_le_self _)

theorem operated (o : Operation) (p : Page) : KeepsNames p (o.apply p) := by
  cases o with
  | add classes text => exact pushBlock p classes text _ _
  | edit e => exact apply e p

theorem applyAll (ops : List Operation) (p : Page) : KeepsNames p (Operation.applyAll ops p) := by
  induction ops generalizing p with
  | nil => exact refl p
  | cons o ops ih => exact (operated o p).trans (ih (o.apply p))

/-- A number that was given out and names no block will never name one. -/
theorem slot?_eq_none (h : KeepsNames p p') {id : NodeId} (hle : id ≤ p.allocated)
    (hnone : p.slot? id = none) : p'.slot? id = none := by
  cases hs' : p'.slot? id with
  | none => rfl
  | some s' =>
    obtain ⟨hmem', hid'⟩ := slot?_eq_some_mem hs'
    obtain ⟨i, hi⟩ := List.mem_iff_getElem?.1 hmem'
    obtain ⟨s, hs, hid⟩ := h.named i s' hi (hid' ▸ hle)
    have habsent := List.find?_eq_none.1 hnone s (List.mem_of_getElem? hs)
    exact absurd (hid.trans hid') (by simpa using habsent)

/-- A number that names a block names it where it always was. -/
theorem index_eq (h : KeepsNames p p') (hp : p.IsNumbered) {i j : Nat} {s s' : Slot}
    (hs : p.slots[i]? = some s) (hs' : p'.slots[j]? = some s') (hid : s'.node.id = s.node.id) :
    j = i := by
  obtain ⟨t, ht, hidt⟩ := h.named j s' hs' (hid ▸ hp.le_allocated s (List.mem_of_getElem? hs))
  have hidEq : p.slots[j]?.map (·.node.id) = p.slots[i]?.map (·.node.id) := by
    rw [ht, hs, Option.map_some, Option.map_some, hidt, hid]
  rw [← List.getElem?_map, ← List.getElem?_map] at hidEq
  have hj : j < (p.slots.map (·.node.id)).length := by
    rw [List.length_map]
    exact (List.getElem?_eq_some_iff.1 ht).1
  exact (List.getElem?_inj hj hp.nodup).1 hidEq

end KeepsNames

/-! ## Operations on a number that names no block -/

/-- An edit of a number that names no block can take a number, and does nothing else. -/
theorem apply_of_slot?_eq_none {e : Edit} {p : Page} (h : p.slot? e.id = none) :
    e.apply p = { p with allocated := (e.apply p).allocated } := by
  have hnode : p.node? e.id = none := Option.map_eq_none_iff.2 h
  cases e <;>
    simp only [Edit.id] at h hnode <;>
    simp only [Edit.apply, capture, replace, restore, addClass, removeClass, setCopyState, h,
      hnode, Option.bind_none]

/-! ## The numbers given out -/

theorem allocated_operated (o : Operation) (p : Page) :
    (o.apply p).allocated = p.allocated + if o.takesNumber then 1 else 0 := by
  cases o with
  | add classes text => rfl
  | edit e =>
    rw [Operation.apply, allocated_apply]
    cases e <;> rfl

/-- Numbers are given out one by one. -/
theorem allocated_applyAll (ops : List Operation) (p : Page) :
    (Operation.applyAll ops p).allocated =
      p.allocated + (ops.filter (·.takesNumber)).length := by
  induction ops generalizing p with
  | nil => rfl
  | cons o ops ih =>
    rw [Operation.applyAll_cons, ih, allocated_operated, List.filter_cons]
    split
    · simp only [List.length_cons]
      omega
    · rfl

/-! ## Writing -/

theorem map_writeSegment_blocks (p : Page) (ss : List Segment) :
    (ss.filter (·.block?.isSome)).map p.writeSegment =
      (ss.filterMap Segment.block?).map fun i => p.writeSegment (.block i) := by
  induction ss with
  | nil => rfl
  | cons seg ss ih =>
    rw [List.filter_cons, List.filterMap_cons]
    cases seg with
    | html t => exact ih
    | root => exact ih
    | block i => exact congrArg (p.writeSegment (.block i) :: ·) ih

/-- The pieces of a page in order write each of its blocks, and each once. -/
theorem IsOrderly.map_writeSegment {p : Page} (h : p.IsOrderly) :
    (p.segments.filter (·.block?.isSome)).map p.writeSegment = p.slots.map writeSlot := by
  rw [map_writeSegment_blocks, h.inOrder]
  refine List.ext_getElem (by simp) fun i hi hi' => ?_
  rw [List.length_map] at hi'
  simp only [List.getElem_map, List.getElem_range]
  exact writeSegment_block (List.getElem?_eq_getElem hi')

/-! ## Every page that operations make -/

/-- Whatever operations make of an empty page or of one that was read, and whatever
numbers they are given: no two blocks have the same number, and each has one that was
given out, counted from one, one for each block at first, added, or asked to be put in.
Later, a number that was given out and names no block names none, and one that names a
block is where it was.  The pieces of the page tell each block once and in order, so it
is written once and in order.  And an operation on a number that names no block at most
takes a number. -/
theorem numbers_after {start : Page} (hstart : start.IsStart) (ops later : List Operation) :
    let p := Operation.applyAll ops start
    let p' := Operation.applyAll later p
    (p.slots.map (·.node.id)).Nodup ∧
    (∀ s ∈ p.slots, 1 ≤ s.node.id ∧ s.node.id ≤ p.allocated) ∧
    p.allocated = start.slots.length + (ops.filter (·.takesNumber)).length ∧
    (∀ id ≤ p.allocated, p.slot? id = none → p'.slot? id = none) ∧
    (∀ (i j : Nat) (s s' : Slot), p.slots[i]? = some s → p'.slots[j]? = some s' →
      s'.node.id = s.node.id → j = i) ∧
    p.segments.filterMap Segment.block? = List.range p.slots.length ∧
    (p.segments.filter (·.block?.isSome)).map p.writeSegment = p.slots.map writeSlot ∧
    ∀ e : Edit, p.slot? e.id = none →
      e.apply p = { p with allocated := (e.apply p).allocated } := by
  intro p p'
  obtain ⟨horderly, hcount⟩ := hstart.isOrderly
  have hp : p.IsOrderly := horderly.applyAll ops
  have hnames : p.KeepsNames p' := .applyAll later p
  refine ⟨hp.numbered.nodup, ?_, ?_, ?_, ?_, hp.inOrder, hp.map_writeSegment, ?_⟩
  · exact fun s hs => ⟨hp.one_le s hs, hp.numbered.le_allocated s hs⟩
  · rw [← hcount]
    exact allocated_applyAll ops start
  · exact fun id hle hnone => hnames.slot?_eq_none hle hnone
  · exact fun i j s s' hs hs' hid => hnames.index_eq hp.numbered hs hs' hid
  · exact fun e he => apply_of_slot?_eq_none he

/-- A block is added, a block that never was is to be replaced, and the one that is
there is replaced: the number that it had names no block, whatever is done with it. -/
theorem numbers_after_replaced :
    let r : RenderedBlock := ⟨"<pre></pre>", [], [], "nord", ⟨[], .idle⟩⟩
    let p := Operation.applyAll
      [.add ["language-rust"] "let x = 1;", .edit (.replace 7 r), .edit (.capture 1),
        .edit (.replace 1 r)] empty
    let p' := Operation.applyAll
      [.edit (.restore 1), .edit (.addClass 1 "stale"), .edit (.restore 3), .add [] []] p
    empty.IsStart ∧ p.allocated = 3 ∧ p.slot? 1 = none ∧ p'.slot? 1 = none ∧
      p'.blocks.map (·.id) = [3, 4] ∧
      p.segments.filterMap Segment.block? = List.range p.slots.length ∧
      (Edit.restore 1).apply p = { p with allocated := ((Edit.restore 1).apply p).allocated } := by
  intro r p p'
  have hgone : p.slot? 1 = none := by decide +kernel
  obtain ⟨-, -, hcount, hnone, -, hinOrder, -, hedit⟩ :=
    numbers_after (.inl rfl)
      [.add ["language-rust"] "let x = 1;", .edit (.replace 7 r), .edit (.capture 1),
        .edit (.replace 1 r)]
      [.edit (.restore 1), .edit (.addClass 1 "stale"), .edit (.restore 3), .add [] []]
  have hcount : p.allocated = 3 := hcount
  refine ⟨.inl rfl, hcount, hgone, ?_, by decide +kernel, hinOrder, ?_⟩
  · exact hnone 1 (by rw [hcount]; decide) hgone
  · exact hedit (.restore 1) hgone

end Page

end PageHighlight
