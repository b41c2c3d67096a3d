/-
  Proofs/Page/Edit.lean --- the changes of the blocks of a page, as data, and what
  each of them does to a slot.

  WHAT THIS FILE IS FOR.  Everything that a session does to the blocks of a page is
  one of six edits, each of which names a block by its number.  `Slot.Move` says
  once what an edit may do to one slot, and `forall₂_move_apply` says that an edit
  does nothing else.  Whatever holds of every move holds of every edit, so a later
  proof about pages never opens an operation again.
-/
import Mathlib.Data.List.Forall2
import PageHighlight.Page.Shared

set_option autoImplicit false

namespace PageHighlight

/-! ## Edits -/

/-- A change of one block of a page. -/
inductive Page.Edit where
  /-- note what the block was at first -/
  | capture (id : NodeId)
  /-- put a rendered block in its place -/
  | replace (id : NodeId) (r : RenderedBlock)
  /-- put it back to what it was -/
  | restore (id : NodeId)
  | addClass (id : NodeId) (c : Text)
  | removeClass (id : NodeId) (c : Text)
  | setCopyState (id : NodeId) (state : CopyState)

namespace Page.Edit

/-- The number that an edit is about. -/
def id : Edit → NodeId
  | capture id | replace id _ | restore id | addClass id _ | removeClass id _ |
    setCopyState id _ => id

/-- The page after an edit. -/
def apply : Edit → Page → Page
  | capture id, p => (p.capture id).2
  | replace id r, p => (p.replace id r).2
  | restore id, p => (p.restore id).2
  | addClass id c, p => (p.addClass id c).2
  | removeClass id c, p => (p.removeClass id c).2
  | setCopyState id state, p => (p.setCopyState id state).2

/-- The page after several edits, one after another. -/
def applyAll (es : List Edit) (p : Page) : Page := es.foldl (fun p e => e.apply p) p

@[simp] theorem applyAll_nil (p : Page) : applyAll [] p = p := rfl

@[simp] theorem applyAll_cons (e : Edit) (es : List Edit) (p : Page) :
    applyAll (e :: es) p = applyAll es (e.apply p) := rfl

end Page.Edit

/-! ## What an edit does to a slot -/

/-- What an edit may do to a slot of a page that gave out `bound` numbers. -/
inductive Slot.Move (bound : Nat) : Page.Edit → Slot → Slot → Prop where
  /-- the edit is about another slot, or there is nothing to do -/
  | keep (e : Page.Edit) (s : Slot) : Move bound e s s
  | capture {s : Slot} {t : Text} (pristine : s.node.content = .source t)
      (fresh : s.captured = none) :
      Move bound (.capture s.node.id) s
        { s with captured := some (Page.sourceBlockOf s.node.classes t) }
  | replace (s : Slot) (r : RenderedBlock) :
      Move bound (.replace s.node.id r) s
        { s with node := ⟨bound + 1, [Page.renderedClass], .rendered r⟩ }
  | restore {s : Slot} {o : SourceBlock} (known : s.captured = some o)
      (rendered : s.node.isRendered = true) :
      Move bound (.restore s.node.id) s
        { s with node := { s.node with classes := o.classes, content := .source o.text } }
  | addClass {s : Slot} {c : Text} (absent : s.node.hasClass c = false) :
      Move bound (.addClass s.node.id c) s
        { s with node := { s.node with classes := s.node.classes ++ [c] } }
  | removeClass {s : Slot} {c : Text} (present : s.node.hasClass c = true) :
      Move bound (.removeClass s.node.id c) s
        { s with node := { s.node with classes := s.node.classes.filter (· ≠ c) } }
  | setCopyState {s : Slot} {r : RenderedBlock} (state : CopyState)
      (rendered : s.node.content = .rendered r) :
      Move bound (.setCopyState s.node.id state) s
        { s with node := { s.node with
            content := .rendered { r with copy := { r.copy with state := state } } } }

namespace Node

theorem isRendered_iff {n : Node} : n.isRendered = true ↔ ∃ r, n.content = .rendered r := by
  unfold isRendered rendered?
  cases n.content <;> simp

theorem rendered?_eq_some {n : Node} {r : RenderedBlock} :
    n.rendered? = some r ↔ n.content = .rendered r := by
  unfold rendered?
  cases n.content <;> simp

end Node

namespace Page

/-! ## Slots by their number -/

theorem slot?_eq_some_mem {p : Page} {id : NodeId} {s : Slot} (h : p.slot? id = some s) :
    s ∈ p.slots ∧ s.node.id = id :=
  ⟨List.mem_of_find?_eq_some h, by simpa using List.find?_some h⟩

/-- Changing the slot of a number changes the slot that the number finds and no
other one. -/
theorem forall₂_updateSlots (id : NodeId) (f : Slot → Slot) (slots : List Slot) :
    List.Forall₂
      (fun s s' => s' = s ∨ (slots.find? (·.node.id = id) = some s ∧ s' = f s))
      slots (updateSlots id f slots) := by
  induction slots with
  | nil => exact .nil
  | cons a slots ih =>
    simp only [updateSlots]
    by_cases ha : a.node.id = id
    · rw [if_pos ha]
      refine .cons (.inr ⟨by simp [ha], rfl⟩) ?_
      exact List.forall₂_same.2 fun s _ => .inl rfl
    · rw [if_neg ha]
      refine .cons (.inl rfl) (ih.imp fun s s' h => ?_)
      rcases h with h | ⟨hf, he⟩
      · exact .inl h
      · exact .inr ⟨by simpa [ha] using hf, he⟩

/-- An update is a move of every slot, if it is one of the slot that its number
finds. -/
theorem forall₂_move_updateSlot {p : Page} {id : NodeId} {f : Slot → Slot} {e : Edit} {s : Slot}
    {bound : Nat} (hs : p.slot? id = some s) (hm : Slot.Move bound e s (f s)) :
    List.Forall₂ (Slot.Move bound e) p.slots (p.updateSlot id f).slots := by
  refine (forall₂_updateSlots id f p.slots).imp ?_
  intro a b hab
  rcases hab with rfl | ⟨ha, rfl⟩
  · exact .keep e b
  · have has : some a = some s := ha.symm.trans hs
    cases has
    exact hm

theorem forall₂_move_refl (bound : Nat) (e : Edit) (slots : List Slot) :
    List.Forall₂ (Slot.Move bound e) slots slots :=
  List.forall₂_same.2 fun s _ => .keep e s

theorem node?_eq_some {p : Page} {id : NodeId} {n : Node} (h : p.node? id = some n) :
    ∃ s, p.slot? id = some s ∧ s.node = n := by
  obtain ⟨s, hs, he⟩ := Option.map_eq_some_iff.1 h
  exact ⟨s, hs, he⟩

/-- An edit moves every slot, and does nothing else to the slots. -/
theorem forall₂_move_apply (e : Edit) (p : Page) :
    List.Forall₂ (Slot.Move p.allocated e) p.slots (e.apply p).slots := by
  cases e with
  | capture id =>
    simp only [Edit.apply, capture]
    split
    · exact forall₂_move_refl _ _ _
    · next s hs =>
      obtain ⟨-, rfl⟩ := slot?_eq_some_mem hs
      split
      · exact forall₂_move_refl _ _ _
      · exact forall₂_move_refl _ _ _
      · next t hc ht => exact forall₂_move_updateSlot hs (.capture ht hc)
  | replace id r =>
    simp only [Edit.apply, replace]
    split
    · exact forall₂_move_refl _ _ _
    · next s hs =>
      obtain ⟨-, rfl⟩ := slot?_eq_some_mem hs
      exact forall₂_move_updateSlot (p := { p with allocated := p.allocated + 1 }) hs
        (.replace s r)
  | restore id =>
    simp only [Edit.apply, restore]
    split
    · exact forall₂_move_refl _ _ _
    · next s hs =>
      obtain ⟨-, rfl⟩ := slot?_eq_some_mem hs
      split
      · exact forall₂_move_refl _ _ _
      · next o ho =>
        split
        · next hr => exact forall₂_move_updateSlot hs (.restore ho hr)
        · exact forall₂_move_refl _ _ _
  | addClass id c =>
    simp only [Edit.apply, addClass]
    split
    · exact forall₂_move_refl _ _ _
    · next n hn =>
      obtain ⟨s, hs, rfl⟩ := node?_eq_some hn
      obtain ⟨-, rfl⟩ := slot?_eq_some_mem hs
      split
      · exact forall₂_move_refl _ _ _
      · next hc => exact forall₂_move_updateSlot hs (.addClass (by simpa using hc))
  | removeClass id c =>
    simp only [Edit.apply, removeClass]
    split
    · exact forall₂_move_refl _ _ _
    · next n hn =>
      obtain ⟨s, hs, rfl⟩ := node?_eq_some hn
      obtain ⟨-, rfl⟩ := slot?_eq_some_mem hs
      split
      · next hc => exact forall₂_move_updateSlot hs (.removeClass hc)
      · exact forall₂_move_refl _ _ _
  | setCopyState id state =>
    simp only [Edit.apply, setCopyState]
    split
    · exact forall₂_move_refl _ _ _
    · next r hr =>
      obtain ⟨n, hn, hc⟩ := Option.bind_eq_some_iff.1 hr
      obtain ⟨s, hs, rfl⟩ := node?_eq_some hn
      obtain ⟨-, rfl⟩ := slot?_eq_some_mem hs
      exact forall₂_move_updateSlot hs (.setCopyState state (Node.rendered?_eq_some.1 hc))

/-! ## What an edit leaves alone -/

/-- What an edit cannot change: all of a page but its slots and how many numbers
were given out. -/
def SameFrame (p p' : Page) : Prop :=
  p'.root = p.root ∧ p'.prefersDark = p.prefersDark ∧ p'.segments = p.segments

theorem SameFrame.refl (p : Page) : SameFrame p p := ⟨rfl, rfl, rfl⟩

theorem SameFrame.trans {p p' p'' : Page} (h : SameFrame p p') (h' : SameFrame p' p'') :
    SameFrame p p'' :=
  ⟨h'.1.trans h.1, h'.2.1.trans h.2.1, h'.2.2.trans h.2.2⟩

theorem sameFrame_apply (e : Edit) (p : Page) : SameFrame p (e.apply p) := by
  cases e <;>
    simp only [Edit.apply, capture, replace, restore, addClass, removeClass, setCopyState] <;>
    repeat' split
  all_goals exact ⟨rfl, rfl, rfl⟩

theorem sameFrame_applyAll (es : List Edit) (p : Page) : SameFrame p (Edit.applyAll es p) := by
  induction es generalizing p with
  | nil => exact .refl p
  | cons e es ih => exact (sameFrame_apply e p).trans (ih (e.apply p))

/-- Only putting a rendered block in takes a number. -/
theorem allocated_apply (e : Edit) (p : Page) :
    (e.apply p).allocated =
      match e with
      | .replace _ _ => p.allocated + 1
      | _ => p.allocated := by
  cases e <;>
    simp only [Edit.apply, capture, replace, restore, addClass, removeClass, setCopyState] <;>
    repeat' split
  all_goals rfl

theorem allocated_le_apply (e : Edit) (p : Page) : p.allocated ≤ (e.apply p).allocated := by
  rw [allocated_apply]
  split <;> omega

end Page

end PageHighlight
