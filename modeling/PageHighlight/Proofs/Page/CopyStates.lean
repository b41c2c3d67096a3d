/-
  Proofs/Page/CopyStates.lean --- what the copy controls of a page read, and what edits
  do to them.

  WHAT THIS FILE IS FOR.  `Page.ControlReads` says what the copy control of the rendered
  block with a number reads.  One edit is there to change it, and changes it for this
  number only (`IsNumbered.controlReads_setCopyState`); any other one leaves the controls
  alone, unless it puts a block in, and then the control of that block is idle
  (`controlReads_of_applyAll`).
-/
import PageHighlight.Proofs.Page.Identity

set_option autoImplicit false

namespace PageHighlight

/-- The copy control of the rendered block that has this number reads this. -/
def Page.ControlReads (p : Page) (id : NodeId) (state : CopyState) : Prop :=
  ∃ s ∈ p.slots, s.node.id = id ∧ ∃ r, s.node.content = .rendered r ∧ r.copy.state = state

/-- An edit that changes what no control reads: a block that it puts in has an idle one. -/
def Page.Edit.SparesControls : Page.Edit → Prop
  | .setCopyState _ _ => False
  | .replace _ r => r.copy.state = .idle
  | _ => True

/-- A block that is rendered after a move that spares the controls was rendered before, with
the same number and the same control, or has a new number and an idle control. -/
theorem Slot.Move.control_before {bound : Nat} {e : Page.Edit} {s s' : Slot}
    (h : Move bound e s s') (he : e.SparesControls) {r' : RenderedBlock}
    (hr : s'.node.content = .rendered r') :
    (s'.node.id = s.node.id ∧ ∃ r, s.node.content = .rendered r ∧ r.copy = r'.copy) ∨
      (s'.node.id = bound + 1 ∧ r'.copy.state = .idle) := by
  cases h with
  | keep e s => exact .inl ⟨rfl, r', hr, rfl⟩
  | capture pristine fresh => exact .inl ⟨rfl, r', hr, rfl⟩
  | replace s r =>
    cases hr
    exact .inr ⟨rfl, he⟩
  | restore known rendered => cases hr
  | addClass absent => exact .inl ⟨rfl, r', hr, rfl⟩
  | removeClass present => exact .inl ⟨rfl, r', hr, rfl⟩
  | setCopyState state rendered => exact he.elim

namespace Page

variable {p p' : Page} {id : NodeId} {state : CopyState}

theorem controlReads_iff_mem : p.ControlReads id state ↔
    (id, some state) ∈ p.slots.map fun s => (s.node.id, s.node.rendered?.map (·.copy.state)) := by
  simp only [ControlReads, List.mem_map, Prod.mk.injEq, Option.map_eq_some_iff,
    Node.rendered?_eq_some]

instance : Decidable (p.ControlReads id state) := decidable_of_iff _ controlReads_iff_mem.symm

theorem controlReads_iff_of_slots_eq (h : p'.slots = p.slots) :
    p'.ControlReads id state ↔ p.ControlReads id state := by
  unfold ControlReads
  rw [h]

theorem IsNumbered.le_of_controlReads (hp : p.IsNumbered) (h : p.ControlReads id state) :
    id ≤ p.allocated := by
  obtain ⟨s, hs, rfl, -⟩ := h
  exact hp.le_allocated s hs

/-- What a control reads after edits that spare the controls it read before, or its block was
put in since and it is idle. -/
theorem controlReads_of_applyAll {es : List Edit} (hes : ∀ e ∈ es, e.SparesControls)
    (h : (Edit.applyAll es p).ControlReads id state) :
    p.ControlReads id state ∨ (p.allocated < id ∧ state = .idle) := by
  induction es generalizing p with
  | nil => exact .inl h
  | cons e es ih =>
    have he : e.SparesControls := hes e List.mem_cons_self
    rcases ih (fun e he => hes e (List.mem_cons_of_mem _ he)) h with hone | ⟨hnew, hidle⟩
    · obtain ⟨s', hs', rfl, r', hr', rfl⟩ := hone
      obtain ⟨s, hs, hmove⟩ := exists_of_mem_right_of_forall₂ (forall₂_move_apply e p) hs'
      rcases hmove.control_before he hr' with ⟨hid, r, hr, hcopy⟩ | ⟨hid, hidle⟩
      · exact .inl ⟨s, hs, hid.symm, r, hr, congrArg CopyControl.state hcopy⟩
      · exact .inr ⟨hid ▸ Nat.lt_succ_self p.allocated, hidle⟩
    · exact .inr ⟨Nat.lt_of_le_of_lt (allocated_le_apply e p) hnew, hidle⟩

/-- Setting what a control reads sets it for the block with this number and no other one. -/
theorem IsNumbered.controlReads_setCopyState (hp : p.IsNumbered) {id' : NodeId}
    {state' : CopyState} (h : ((Edit.setCopyState id' state').apply p).ControlReads id state) :
    (id = id' ∧ state = state' ∧ ∃ before, p.ControlReads id before) ∨
      (id ≠ id' ∧ p.ControlReads id state) := by
  obtain ⟨s', hs', rfl, r', hr', rfl⟩ := h
  have hfound := (hp.apply (.setCopyState id' state')).slot?_eq_some hs'
  obtain ⟨s, hs, hmove⟩ :=
    exists_of_mem_right_of_forall₂ (forall₂_move_apply (.setCopyState id' state') p) hs'
  obtain ⟨hid, r, hr⟩ : s'.node.id = s.node.id ∧ ∃ r, s.node.content = .rendered r := by
    cases hmove with
    | keep => exact ⟨rfl, r', hr'⟩
    | setCopyState state rendered => exact ⟨rfl, _, rendered⟩
  by_cases hother : s'.node.id = id'
  · refine .inl ⟨hother, ?_, r.copy.state, s, hs, hid.symm, r, hr, rfl⟩
    -- the number finds one slot before and one after, which is the first one with its
    -- control set; a move alone might have kept it
    have hbefore : p.slot? id' = some s := by
      rw [← hother, hid]
      exact hp.slot?_eq_some hs
    have hcontrol : (p.node? id').bind (·.rendered?) = some r := by
      rw [node?, hbefore]
      exact Node.rendered?_eq_some.2 hr
    have hafter : ((Edit.setCopyState id' state').apply p).slot? id' =
        some { s with node := { s.node with
          content := .rendered { r with copy := { r.copy with state := state' } } } } := by
      simp only [Edit.apply, Page.setCopyState, hcontrol]
      exact slot?_updateSlot _ (fun _ => rfl) hbefore
    rw [hother, hafter] at hfound
    cases hfound
    cases hr'
    rfl
  · refine .inr ⟨hother, s, hs, hid.symm, r, hr, ?_⟩
    generalize hedit : Edit.setCopyState id' state' = e at hmove
    cases hmove with
    | keep =>
      rw [hr] at hr'
      cases hr'
      rfl
    | setCopyState state rendered =>
      cases hedit
      exact absurd rfl hother
    | _ => cases hedit

end Page

end PageHighlight
