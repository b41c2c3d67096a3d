/-
  Proofs/Page/Shown.lean --- which themes a page shows, and what edits do to them.

  WHAT THIS FILE IS FOR.  `Page.Shows` says that a rendered block with a number has a
  theme.  An edit lets a page show something new only by putting a block in
  (`shows_of_apply`), and what it showed stays unless the edit puts a block back or
  puts one in its place (`Shows.apply`).  Putting every rendered block back leaves
  nothing shown, if it is noted of every rendered block what it was at first
  (`IsNumbered.not_shows_of_restores`).
-/
import PageHighlight.Proofs.Page.Identity

set_option autoImplicit false

namespace PageHighlight

/-- A rendered block that has this number has this theme. -/
def Page.Shows (p : Page) (id : NodeId) (theme : Text) : Prop :=
  ∃ s ∈ p.slots, s.node.id = id ∧ ∃ r, s.node.content = .rendered r ∧ r.theme = theme

namespace Slot.Move

variable {bound : Nat} {e : Page.Edit} {s s' : Slot}

/-- A block that is rendered after a move was rendered before, with the same number
and theme, or was put in. -/
theorem rendered_before (h : Move bound e s s') {r' : RenderedBlock}
    (hr : s'.node.content = .rendered r') :
    (s'.node.id = s.node.id ∧ ∃ r, s.node.content = .rendered r ∧ r.theme = r'.theme) ∨
      (s'.node.id = bound + 1 ∧ ∃ id, e = .replace id r') := by
  cases h with
  | keep e s => exact .inl ⟨rfl, r', hr, rfl⟩
  | capture pristine fresh => exact .inl ⟨rfl, r', hr, rfl⟩
  | replace s r =>
    cases hr
    exact .inr ⟨rfl, s.node.id, rfl⟩
  | restore known rendered => cases hr
  | addClass absent => exact .inl ⟨rfl, r', hr, rfl⟩
  | removeClass present => exact .inl ⟨rfl, r', hr, rfl⟩
  | @setCopyState _ r state rendered =>
    cases hr
    exact .inl ⟨rfl, r, rendered, rfl⟩

/-- A rendered block is still there after a move that neither puts it back nor puts
another one in its place. -/
theorem rendered_after (h : Move bound e s s') {r : RenderedBlock}
    (hr : s.node.content = .rendered r) (hrestore : ∀ id, e ≠ .restore id)
    (hreplace : ∀ id r', e = .replace id r' → id ≠ s.node.id) :
    s'.node.id = s.node.id ∧ ∃ r', s'.node.content = .rendered r' ∧ r'.theme = r.theme := by
  cases h with
  | keep e s => exact ⟨rfl, r, hr, rfl⟩
  | capture pristine fresh => exact ⟨rfl, r, hr, rfl⟩
  | replace s r' => exact absurd rfl (hreplace _ r' rfl)
  | restore known rendered => exact absurd rfl (hrestore _)
  | addClass absent => exact ⟨rfl, r, hr, rfl⟩
  | removeClass present => exact ⟨rfl, r, hr, rfl⟩
  | @setCopyState _ r' state rendered =>
    rw [rendered] at hr
    cases hr
    exact ⟨rfl, _, rfl, rfl⟩

end Slot.Move

namespace Page

variable {p : Page} {id : NodeId} {theme : Text}

theorem shows_iff_mem : p.Shows id theme ↔
    (id, some theme) ∈ p.slots.map fun s => (s.node.id, s.node.rendered?.map (·.theme)) := by
  simp only [Shows, List.mem_map, Prod.mk.injEq, Option.map_eq_some_iff, Node.rendered?_eq_some]

instance : Decidable (p.Shows id theme) := decidable_of_iff _ shows_iff_mem.symm

theorem shows_iff_of_slots_eq {p' : Page} (h : p'.slots = p.slots) :
    p'.Shows id theme ↔ p.Shows id theme := by
  unfold Shows
  rw [h]

/-- What is shown after an edit was shown before, or was put in. -/
theorem shows_of_apply {e : Edit} (h : (e.apply p).Shows id theme) :
    p.Shows id theme ∨ (id = p.allocated + 1 ∧ ∃ old r, e = .replace old r ∧ r.theme = theme) := by
  obtain ⟨s', hs', rfl, r', hr', rfl⟩ := h
  obtain ⟨s, hs, hmove⟩ := exists_of_mem_right_of_forall₂ (forall₂_move_apply e p) hs'
  rcases hmove.rendered_before hr' with ⟨hid, r, hr, htheme⟩ | ⟨hid, old, he⟩
  · exact .inl ⟨s, hs, hid.symm, r, hr, htheme⟩
  · exact .inr ⟨hid, old, r', he, rfl⟩

/-- An edit that takes no rendered block away. -/
def Edit.Spares (p : Page) : Edit → Prop
  | .restore _ => False
  | .replace old _ => p.NeverRendered old
  | _ => True

/-- What was shown is shown after an edit that takes no rendered block away. -/
theorem Shows.apply (h : p.Shows id theme) {e : Edit} (he : e.Spares p) :
    (e.apply p).Shows id theme := by
  obtain ⟨s, hs, rfl, r, hr, rfl⟩ := h
  obtain ⟨s', hs', hmove⟩ := exists_of_mem_left_of_forall₂ (forall₂_move_apply e p) hs
  have hrestore : ∀ old, e ≠ .restore old := by
    rintro old rfl
    exact he
  have hreplace : ∀ old r', e = .replace old r' → old ≠ s.node.id := by
    rintro old r' rfl rfl
    have hpristine := he.2 s hs rfl
    rw [Node.isRendered_iff.2 ⟨r, hr⟩] at hpristine
    cases hpristine
  obtain ⟨hid, r', hr', htheme⟩ := hmove.rendered_after hr hrestore hreplace
  exact ⟨s', hs', hid, r', hr', htheme⟩

/-! ## Edits that are not about themes -/

/-- An edit that neither puts a block in nor puts one back. -/
def Edit.IsQuiet : Edit → Prop
  | .replace _ _ | .restore _ => False
  | _ => True

theorem Edit.IsQuiet.spares {e : Edit} (he : e.IsQuiet) (p : Page) : e.Spares p := by
  cases e with
  | replace old r => exact he.elim
  | _ => exact he

theorem shows_applyAll_iff {es : List Edit} (hes : ∀ e ∈ es, e.IsQuiet) :
    (Edit.applyAll es p).Shows id theme ↔ p.Shows id theme := by
  induction es generalizing p with
  | nil => rfl
  | cons e es ih =>
    have he : e.IsQuiet := hes e List.mem_cons_self
    rw [Edit.applyAll_cons, ih fun e he => hes e (List.mem_cons_of_mem _ he)]
    constructor
    · intro h
      rcases shows_of_apply h with h | ⟨-, old, r, rfl, -⟩
      · exact h
      · exact he.elim
    · intro h
      exact h.apply (he.spares p)

/-! ## Putting every block back -/

/-- It is noted of every rendered block what it was at first. -/
def IsNoted (p : Page) : Prop :=
  ∀ s ∈ p.slots, s.node.isRendered = true → ∃ o, s.captured = some o

theorem IsNoted.restore (h : p.IsNoted) (old : NodeId) : ((Edit.restore old).apply p).IsNoted := by
  intro s' hs' hrendered
  obtain ⟨s, hs, hmove⟩ := exists_of_mem_right_of_forall₂ (forall₂_move_apply (.restore old) p) hs'
  cases hmove with
  | keep e s => exact h _ hs hrendered
  | @restore _ o known rendered => exact ⟨o, known⟩

/-- A block that is put back is not rendered. -/
theorem IsNumbered.isRendered_restore (h : p.IsNumbered) (hn : p.IsNoted) {s' : Slot}
    (hs' : s' ∈ ((Edit.restore s'.node.id).apply p).slots) : s'.node.isRendered = false := by
  have hfound := (h.apply (.restore s'.node.id)).slot?_eq_some hs'
  revert hfound
  generalize s'.node.id = id
  intro hfound
  simp only [Edit.apply, Page.restore] at hfound
  split at hfound
  · next hnone =>
    rw [hnone] at hfound
    cases hfound
  · next s hs =>
    split at hfound
    · next hcaptured =>
      have hsame : s = s' := Option.some.inj (hs.symm.trans hfound)
      rw [← hsame, Bool.eq_false_iff]
      intro hr
      obtain ⟨o, ho⟩ := hn s (slot?_eq_some_mem hs).1 hr
      rw [hcaptured] at ho
      cases ho
    · next o ho =>
      split at hfound
      · have hback := slot?_updateSlot (fun s => { s with node := { s.node with
          classes := o.classes, content := .source o.text } }) (fun _ => rfl) hs
        rw [← Option.some.inj (hback.symm.trans hfound)]
        rfl
      · next hr =>
        have hsame : s = s' := Option.some.inj (hs.symm.trans hfound)
        rw [← hsame]
        exact Bool.eq_false_iff.2 hr

/-- What is shown after some blocks were put back was shown before. -/
theorem shows_of_restores {ids : List NodeId}
    (h : (Edit.applyAll (ids.map .restore) p).Shows id theme) : p.Shows id theme := by
  induction ids generalizing p with
  | nil => exact h
  | cons old ids ih =>
    rcases shows_of_apply (ih h) with hbefore | ⟨-, old', r, he, -⟩
    · exact hbefore
    · cases he

/-- A block that was put back is not shown any more. -/
theorem IsNumbered.not_mem_of_shows (h : p.IsNumbered) (hn : p.IsNoted) {ids : List NodeId}
    (hshows : (Edit.applyAll (ids.map .restore) p).Shows id theme) : id ∉ ids := by
  induction ids generalizing p with
  | nil => exact List.not_mem_nil
  | cons old ids ih =>
    have hrest := ih (h.apply (.restore old)) (hn.restore old) hshows
    intro hmem
    rcases List.mem_cons.1 hmem with rfl | hmem
    · have hbefore : ((Edit.restore id).apply p).Shows id theme := shows_of_restores hshows
      obtain ⟨s, hs, rfl, r, hr, -⟩ := hbefore
      have hpristine := h.isRendered_restore hn hs
      rw [Node.isRendered_iff.2 ⟨r, hr⟩] at hpristine
      cases hpristine
    · exact hrest hmem

/-- After every rendered block was put back nothing is shown. -/
theorem IsNumbered.not_shows_of_restores (h : p.IsNumbered) (hn : p.IsNoted) :
    ¬(Edit.applyAll (((p.blocks.filter (·.isRendered)).map (·.id)).map .restore) p).Shows
      id theme := by
  intro hshows
  obtain ⟨s, hs, rfl, r, hr, -⟩ := shows_of_restores hshows
  have hmem : s.node ∈ p.blocks.filter (·.isRendered) :=
    List.mem_filter.2 ⟨List.mem_map_of_mem hs, Node.isRendered_iff.2 ⟨r, hr⟩⟩
  exact h.not_mem_of_shows hn hshows (List.mem_map_of_mem hmem)

end Page

end PageHighlight
