/-
  Proofs/Page/Blocks.lean --- what cycles and restores do to all blocks of a page at
  once.

  WHAT THIS FILE IS FOR.  An operation on a number changes the first block that has
  it.  If every block has a number of its own, that is the same as changing each block
  that has the number, and so an operation is a function on single blocks, used on all
  of them.  Functions of this kind are composed without looking at the page: marking a
  list of blocks is adding the class to those whose number is in the list
  (`IsNumbered.blocks_markAll`), however often a number is in it, and restoring a page is
  putting every block back (`IsNumbered.slots_restoreBlocks`).
-/
import PageHighlight.Proofs.Page.Identity
import PageHighlight.Proofs.Session.Edits

set_option autoImplicit false

namespace PageHighlight

/-! ## Blocks with and without a class -/

namespace Node

/-- A block with a class. -/
def withClass (c : Text) (n : Node) : Node :=
  if n.hasClass c then n else { n with classes := n.classes ++ [c] }

/-- A block without a class. -/
def withoutClass (c : Text) (n : Node) : Node :=
  { n with classes := n.classes.filter (· ≠ c) }

@[simp] theorem id_withClass (c : Text) (n : Node) : (n.withClass c).id = n.id := by
  unfold withClass
  split <;> rfl

@[simp] theorem id_withoutClass (c : Text) (n : Node) : (n.withoutClass c).id = n.id := rfl

@[simp] theorem content_withClass (c : Text) (n : Node) :
    (n.withClass c).content = n.content := by
  unfold withClass
  split <;> rfl

theorem hasClass_withClass (c : Text) (n : Node) : (n.withClass c).hasClass c = true := by
  unfold withClass
  split
  · assumption
  · simp [hasClass]

@[simp] theorem withClass_withClass (c : Text) (n : Node) :
    (n.withClass c).withClass c = n.withClass c := by
  rw [withClass, if_pos (n.hasClass_withClass c)]

theorem withoutClass_of_not_hasClass {c : Text} {n : Node} (h : n.hasClass c = false) :
    n.withoutClass c = n := by
  have hclasses : n.classes.filter (· ≠ c) = n.classes := by
    rw [List.filter_eq_self]
    intro x hx
    simp only [hasClass, List.contains_eq_mem, decide_eq_false_iff_not] at h
    simp only [ne_eq, decide_eq_true_eq]
    rintro rfl
    exact h hx
  rw [withoutClass, hclasses]

@[simp] theorem withoutClass_withoutClass (c : Text) (n : Node) :
    (n.withoutClass c).withoutClass c = n.withoutClass c := by
  simp [withoutClass, List.filter_filter]

/-- A class that was added and taken away again leaves no trace. -/
theorem withoutClass_withClass {c : Text} {n : Node} (h : n.hasClass c = false) :
    (n.withClass c).withoutClass c = n := by
  calc (n.withClass c).withoutClass c
      = n.withoutClass c := by simp [withClass, h, withoutClass]
    _ = n := withoutClass_of_not_hasClass h

end Node

namespace Page

/-! ## One block -/

/-- If numbers are no longer than once in a list, changing the slot of a number is
changing every slot that has it. -/
theorem updateSlots_eq_map (id : NodeId) (f : Slot → Slot) {slots : List Slot}
    (hn : (slots.map (·.node.id)).Nodup) :
    updateSlots id f slots = slots.map fun s => if s.node.id = id then f s else s := by
  induction slots with
  | nil => rfl
  | cons a slots ih =>
    obtain ⟨ha, hn⟩ := List.nodup_cons.1 hn
    rw [updateSlots, List.map_cons]
    by_cases hid : a.node.id = id
    · have hrest : slots.map (fun s => if s.node.id = id then f s else s) = slots := by
        refine (List.map_congr_left fun s hs => if_neg fun he => ha ?_).trans (List.map_id' slots)
        exact List.mem_map.2 ⟨s, hs, he.trans hid.symm⟩
      rw [if_pos hid, if_pos hid, hrest]
    · rw [if_neg hid, if_neg hid, ih hn]

/-- The numbers of the blocks. -/
theorem map_id_blocks (p : Page) : p.blocks.map (·.id) = p.slots.map (·.node.id) := by
  rw [blocks, List.map_map]
  rfl

theorem node_mem_blocks {p : Page} {i : Nat} {s : Slot} (h : p.slots[i]? = some s) :
    s.node ∈ p.blocks :=
  List.mem_map_of_mem (List.mem_of_getElem? h)

theorem node?_eq_find? (id : NodeId) (p : Page) : p.node? id = p.blocks.find? (·.id = id) := by
  rw [node?, slot?, blocks, List.find?_map]
  rfl

theorem slot?_isNone_iff {id : NodeId} {p : Page} :
    p.slot? id = none ↔ ∀ n ∈ p.blocks, n.id ≠ id := by
  simp [slot?, blocks]

theorem IsNumbered.nodup_blocks {p : Page} (h : p.IsNumbered) : (p.blocks.map (·.id)).Nodup := by
  rw [map_id_blocks]
  exact h.nodup

variable {p : Page}

/-- Two blocks with the same number are the same. -/
theorem IsNumbered.eq_of_id_eq (h : p.IsNumbered) {m n : Node} (hm : m ∈ p.blocks)
    (hn : n ∈ p.blocks) (hid : m.id = n.id) : m = n :=
  List.inj_on_of_nodup_map h.nodup_blocks hm hn hid

/-- The block that a number finds is the only one that has it. -/
theorem IsNumbered.eq_of_node? (h : p.IsNumbered) {id : NodeId} {m n : Node}
    (hm : p.node? id = some m) (hn : n ∈ p.blocks) (hid : n.id = id) : n = m := by
  have hfind : p.blocks.find? (·.id = id) = some m := by rw [← node?_eq_find?, hm]
  have hmid : m.id = id := by simpa using List.find?_some hfind
  exact h.eq_of_id_eq hn (List.mem_of_find?_eq_some hfind) (hid.trans hmid.symm)

/-- Changing the slot of a number changes the blocks that have it. -/
theorem IsNumbered.blocks_updateSlot (h : p.IsNumbered) (id : NodeId) {f : Slot → Slot}
    {g : Node → Node} (hf : ∀ s, (f s).node = g s.node) :
    (p.updateSlot id f).blocks = p.blocks.map fun n => if n.id = id then g n else n := by
  unfold blocks updateSlot
  rw [updateSlots_eq_map id f h.nodup, List.map_map, List.map_map]
  refine List.map_congr_left fun s _ => ?_
  simp only [Function.comp_apply]
  split
  · exact hf s
  · rfl

/-- An operation that finds no block is no change. -/
theorem blocks_eq_map_of_absent {id : NodeId} (h : p.slot? id = none) (g : Node → Node) :
    p.blocks = p.blocks.map fun n => if n.id = id then g n else n := by
  refine ((List.map_congr_left fun n hn => ?_).trans (List.map_id' p.blocks)).symm
  exact if_neg (slot?_isNone_iff.1 h n hn)

theorem IsNumbered.blocks_capture (h : p.IsNumbered) (id : NodeId) :
    (p.capture id).2.blocks = p.blocks := by
  have same : p.blocks.map (fun n => if n.id = id then n else n) = p.blocks := by simp
  unfold capture
  split
  · rfl
  · split
    · rfl
    · rfl
    · exact (h.blocks_updateSlot id fun s => rfl).trans same

theorem IsNumbered.blocks_replace (h : p.IsNumbered) (id : NodeId) (r : RenderedBlock) :
    (p.replace id r).2.blocks = p.blocks.map fun n =>
      if n.id = id then ⟨p.allocated + 1, [renderedClass], .rendered r⟩ else n := by
  unfold replace
  cases hs : p.slot? id with
  | none => exact blocks_eq_map_of_absent hs _
  | some s =>
    have hnumbered : IsNumbered { p with allocated := p.allocated + 1 } :=
      ⟨h.nodup, fun s hs => Nat.le_succ_of_le (h.le_allocated s hs)⟩
    exact hnumbered.blocks_updateSlot id fun s => rfl

theorem IsNumbered.blocks_addClass (h : p.IsNumbered) (id : NodeId) (c : Text) :
    (p.addClass id c).2.blocks =
      p.blocks.map fun n => if n.id = id then n.withClass c else n := by
  unfold addClass
  cases hn : p.node? id with
  | none => exact blocks_eq_map_of_absent (Option.map_eq_none_iff.1 hn) _
  | some m =>
    simp only
    split
    · next hc =>
      refine ((List.map_congr_left fun n hmem => ?_).trans (List.map_id' p.blocks)).symm
      split
      · next he => rw [h.eq_of_node? hn hmem he, Node.withClass, if_pos hc]
      · rfl
    · next hc =>
      rw [h.blocks_updateSlot id (g := fun n => { n with classes := n.classes ++ [c] })
        (fun s => rfl)]
      refine List.map_congr_left fun n hmem => ?_
      split
      · next he => rw [h.eq_of_node? hn hmem he, Node.withClass, if_neg hc]
      · rfl

theorem IsNumbered.blocks_removeClass (h : p.IsNumbered) (id : NodeId) (c : Text) :
    (p.removeClass id c).2.blocks =
      p.blocks.map fun n => if n.id = id then n.withoutClass c else n := by
  unfold removeClass
  cases hn : p.node? id with
  | none => exact blocks_eq_map_of_absent (Option.map_eq_none_iff.1 hn) _
  | some m =>
    simp only
    split
    · exact h.blocks_updateSlot id fun s => rfl
    · next hc =>
      refine ((List.map_congr_left fun n hmem => ?_).trans (List.map_id' p.blocks)).symm
      split
      · next he =>
        rw [h.eq_of_node? hn hmem he]
        exact Node.withoutClass_of_not_hasClass (by simpa using hc)
      · rfl

/-! ## Many blocks -/

/-- Two changes of things with numbers, one for a number and one for a list of numbers, are
one for the longer list, if they keep numbers and do nothing a second time. -/
theorem map_map_ite {α : Type} (number : α → NodeId) (g : α → α)
    (hid : ∀ a, number (g a) = number a) (hg : ∀ a, g (g a) = g a) (id : NodeId)
    (ids : List NodeId) (as : List α) :
    (as.map fun a => if number a = id then g a else a).map
        (fun a => if number a ∈ ids then g a else a) =
      as.map fun a => if number a ∈ id :: ids then g a else a := by
  rw [List.map_map]
  refine List.map_congr_left fun a _ => ?_
  simp only [Function.comp_apply, List.mem_cons]
  by_cases h : number a = id
  · by_cases h' : id ∈ ids <;> simp [h, h', hid, hg]
  · simp [h]

theorem IsNumbered.blocks_markAll (h : p.IsNumbered) (ids : List NodeId) :
    (Cycle.markAll ids p).2.blocks =
      p.blocks.map fun n => if n.id ∈ ids then n.withClass loadingClass else n := by
  simp only [Cycle.markAll]
  induction ids generalizing p with
  | nil => simp
  | cons id ids ih =>
    have hnumbered : (p.addClass id loadingClass).2.IsNumbered := h.apply (.addClass id _)
    rw [List.foldl_cons, ih hnumbered, h.blocks_addClass]
    exact map_map_ite Node.id _ (Node.id_withClass _) (Node.withClass_withClass _) id ids p.blocks

theorem IsNumbered.blocks_unmarkAll (h : p.IsNumbered) (ids : List NodeId) :
    (Cycle.unmarkAll ids p).2.blocks =
      p.blocks.map fun n => if n.id ∈ ids then n.withoutClass loadingClass else n := by
  simp only [Cycle.unmarkAll]
  induction ids generalizing p with
  | nil => simp
  | cons id ids ih =>
    have hnumbered : (p.removeClass id loadingClass).2.IsNumbered := h.apply (.removeClass id _)
    rw [List.foldl_cons, ih hnumbered, h.blocks_removeClass]
    exact map_map_ite Node.id _ (Node.id_withoutClass _) (Node.withoutClass_withoutClass _) id ids
      p.blocks

end Page

/-! ## Putting blocks back -/

namespace Slot

/-- A slot with its block put back, if it is rendered and it was noted what it was. -/
def putBack (slot : Slot) : Slot :=
  match slot.captured with
  | none => slot
  | some o =>
    if slot.node.isRendered then
      { slot with node := { slot.node with classes := o.classes, content := .source o.text } }
    else slot

theorem putBack_of_pristine {slot : Slot} (h : slot.node.isRendered = false) :
    slot.putBack = slot := by
  unfold putBack
  split
  · rfl
  · rw [h]
    exact if_neg Bool.false_ne_true

theorem id_putBack (slot : Slot) : slot.putBack.node.id = slot.node.id := by
  unfold putBack
  split
  · rfl
  · split <;> rfl

theorem putBack_putBack (slot : Slot) : slot.putBack.putBack = slot.putBack := by
  cases hr : slot.node.isRendered with
  | false => rw [putBack_of_pristine hr, putBack_of_pristine hr]
  | true =>
    cases hc : slot.captured with
    | none => simp only [putBack, hc]
    | some o =>
      refine putBack_of_pristine ?_
      simp only [putBack, hc, if_pos hr]
      rfl

end Slot

namespace Page

variable {p : Page}

theorem IsNumbered.slots_restore (h : p.IsNumbered) (id : NodeId) :
    (p.restore id).2.slots = p.slots.map fun s => if s.node.id = id then s.putBack else s := by
  have absent : (∀ s ∈ p.slots, s.node.id = id → s.putBack = s) →
      p.slots = p.slots.map fun s => if s.node.id = id then s.putBack else s := by
    intro hs
    refine ((List.map_congr_left fun s hmem => ?_).trans (List.map_id' p.slots)).symm
    split
    · next hid => exact hs s hmem hid
    · rfl
  have only : ∀ {s a : Slot}, p.slot? id = some s → a ∈ p.slots → a.node.id = id → a = s := by
    intro s a hs ha hid
    obtain ⟨hmem, hsid⟩ := slot?_eq_some_mem hs
    exact List.inj_on_of_nodup_map h.nodup ha hmem (hid.trans hsid.symm)
  unfold restore
  cases hs : p.slot? id with
  | none =>
    refine absent fun a ha hid => absurd hid ?_
    exact slot?_isNone_iff.1 hs _ (List.mem_map_of_mem ha)
  | some s =>
    cases hc : s.captured with
    | none =>
      simp only [hc]
      refine absent fun a ha hid => ?_
      simp only [only hs ha hid, Slot.putBack, hc]
    | some o =>
      cases hr : s.node.isRendered with
      | false =>
        simp only [hc, hr, Bool.false_eq_true, if_false]
        refine absent fun a ha hid => ?_
        rw [only hs ha hid, Slot.putBack_of_pristine hr]
      | true =>
        simp only [hc, hr, if_true, updateSlot]
        refine (updateSlots_eq_map id _ h.nodup).trans (List.map_congr_left fun a ha => ?_)
        split
        · next hid => simp only [only hs ha hid, Slot.putBack, hc, hr, if_true]
        · rfl

/-- Restoring a page is putting back each of its blocks. -/
theorem IsNumbered.slots_restoreBlocks (h : p.IsNumbered) :
    (SharedPage.restoreBlocks p).2.slots = p.slots.map Slot.putBack := by
  have many : ∀ (ids : List NodeId) (p : Page), p.IsNumbered →
      (Edit.applyAll (ids.map .restore) p).slots =
        p.slots.map fun s => if s.node.id ∈ ids then s.putBack else s := by
    intro ids
    induction ids with
    | nil => simp
    | cons id ids ih =>
      intro p h
      rw [List.map_cons, Edit.applyAll_cons, ih _ (h.apply (.restore id))]
      exact (congrArg _ (h.slots_restore id)).trans
        (map_map_ite (·.node.id) _ Slot.id_putBack Slot.putBack_putBack id ids p.slots)
  rw [SharedPage.page_restoreBlocks, many _ p h]
  refine List.map_congr_left fun s hs => ?_
  split
  · rfl
  · next hid =>
    refine (Slot.putBack_of_pristine ?_).symm
    by_contra hr
    refine hid (List.mem_map_of_mem (List.mem_filter.2 ⟨List.mem_map_of_mem hs, ?_⟩))
    simpa using hr

theorem IsNumbered.restore_fst (h : p.IsNumbered) {s : Slot} (hs : s ∈ p.slots)
    (hrendered : s.node.isRendered = true) (hnoted : s.captured.isSome = true) :
    (p.restore s.node.id).1 = true := by
  obtain ⟨o, ho⟩ := Option.isSome_iff_exists.1 hnoted
  simp only [restore, h.slot?_eq_some hs, ho, hrendered, if_true]

/-- Put a block back, and count it if there was anything to put back. -/
def restoreOne (x : Nat × Page) (id : NodeId) : Nat × Page :=
  (if (x.2.restore id).1 then x.1 + 1 else x.1, (x.2.restore id).2)

theorem restoreBlocks_eq (p : Page) :
    SharedPage.restoreBlocks p =
      ((p.blocks.filter (·.isRendered)).map (·.id)).foldl restoreOne (0, p) := rfl

/-- Every number of a list is counted, if it is there once, and the block that has it can be
put back. -/
theorem IsNumbered.count_restores (h : p.IsNumbered) {ids : List NodeId} (hn : ids.Nodup)
    (hids : ∀ id ∈ ids, ∃ s ∈ p.slots, s.node.id = id ∧ s.node.isRendered = true ∧
      s.captured.isSome = true) (n : Nat) :
    (ids.foldl restoreOne (n, p)).1 = n + ids.length := by
  induction ids generalizing n p with
  | nil => rfl
  | cons id ids ih =>
    obtain ⟨s, hs, rfl, hr, hc⟩ := hids id List.mem_cons_self
    obtain ⟨hfirst, hn⟩ := List.nodup_cons.1 hn
    have hone : restoreOne (n, p) s.node.id = (n + 1, (p.restore s.node.id).2) := by
      rw [restoreOne, h.restore_fst hs hr hc, if_pos rfl]
    -- the blocks that are still to be put back are as they were
    have hrest : ∀ id ∈ ids, ∃ s' ∈ (p.restore s.node.id).2.slots, s'.node.id = id ∧
        s'.node.isRendered = true ∧ s'.captured.isSome = true := by
      intro id hid
      obtain ⟨s', hs', rfl, hsame⟩ := hids id (List.mem_cons_of_mem _ hid)
      have hne : s'.node.id ≠ s.node.id := fun he => hfirst (he ▸ hid)
      rw [h.slots_restore]
      exact ⟨s', List.mem_map.2 ⟨s', hs', if_neg hne⟩, rfl, hsame⟩
    have hnumbered : (p.restore s.node.id).2.IsNumbered := h.apply (.restore s.node.id)
    rw [List.foldl_cons, hone, ih hnumbered hn hrest, List.length_cons]
    omega

/-- As many blocks are put back as there are rendered ones, if it was noted of each of them
what it was. -/
theorem IsNumbered.count_restoreBlocks (h : p.IsNumbered)
    (hnoted : ∀ s ∈ p.slots, s.node.isRendered = true → s.captured.isSome = true) :
    (SharedPage.restoreBlocks p).1 = p.blocks.countP (·.isRendered) := by
  have hsublist : ((p.blocks.filter (·.isRendered)).map (·.id)).Sublist (p.blocks.map (·.id)) :=
    List.filter_sublist.map _
  rw [restoreBlocks_eq, h.count_restores (h.nodup_blocks.sublist hsublist), List.length_map,
    Nat.zero_add, List.countP_eq_length_filter]
  intro id hid
  obtain ⟨n, hn, rfl⟩ := List.mem_map.1 hid
  obtain ⟨hn, hr⟩ := List.mem_filter.1 hn
  obtain ⟨s, hs, rfl⟩ := List.mem_map.1 hn
  exact ⟨s, hs, rfl, hr, hnoted s hs hr⟩

end Page

end PageHighlight
