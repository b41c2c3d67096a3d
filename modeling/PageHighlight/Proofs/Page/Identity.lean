/-
  Proofs/Page/Identity.lean --- which slot a number names, and what is noted of it.

  WHAT THIS FILE IS FOR.  Activities hold on to blocks by their numbers while others
  change the page.  `Page.Evolves` is what they can rely on meanwhile: what was noted
  of a block stays noted, a number that was given out never comes to name another
  slot, and it never goes from a pristine block to a rendered one.  Every edit keeps
  it (`Evolves.apply`), and two facts that an activity knows about its number survive
  it: what the block was at first (`Owns`), and that it is not rendered
  (`NeverRendered`).
-/
import Mathlib.Data.List.Nodup
import PageHighlight.Proofs.Page.Edit

set_option autoImplicit false

namespace PageHighlight

/-! ## How slots evolve -/

/-- How a slot may have changed since `bound` numbers had been given out. -/
structure Slot.Evolves (bound : Nat) (s s' : Slot) : Prop where
  captured : ∀ o, s.captured = some o → s'.captured = some o
  identity : (s'.node.id = s.node.id ∧ (s'.node.isRendered = true → s.node.isRendered = true))
    ∨ bound < s'.node.id
  preTag : s'.preTag = s.preTag
  codeAttrs : s'.codeAttrs = s.codeAttrs

namespace Slot

theorem Evolves.refl (bound : Nat) (s : Slot) : Evolves bound s s :=
  ⟨fun _ h => h, .inl ⟨rfl, id⟩, rfl, rfl⟩

theorem Evolves.trans {b b' : Nat} {s s' s'' : Slot} (hb : b ≤ b') (h : Evolves b s s')
    (h' : Evolves b' s' s'') : Evolves b s s'' := by
  refine ⟨fun o ho => h'.captured o (h.captured o ho), ?_, h'.preTag.trans h.preTag,
    h'.codeAttrs.trans h.codeAttrs⟩
  rcases h'.identity with ⟨hid', hr'⟩ | hnew
  · rcases h.identity with ⟨hid, hr⟩ | hnew
    · exact .inl ⟨hid'.trans hid, fun hs => hr (hr' hs)⟩
    · exact .inr (hid' ▸ hnew)
  · exact .inr (Nat.lt_of_le_of_lt hb hnew)

/-- No move does more than evolve a slot. -/
theorem Move.evolves {bound : Nat} {e : Page.Edit} {s s' : Slot} (h : Move bound e s s') :
    Evolves bound s s' := by
  cases h with
  | keep e s => exact .refl bound s
  | capture pristine fresh =>
    exact ⟨fun o ho => by simp [fresh] at ho, .inl ⟨rfl, id⟩, rfl, rfl⟩
  | replace s r => exact ⟨fun _ ho => ho, .inr (Nat.lt_succ_self bound), rfl, rfl⟩
  | restore known rendered => exact ⟨fun _ ho => ho, .inl ⟨rfl, fun _ => rendered⟩, rfl, rfl⟩
  | addClass absent => exact ⟨fun _ ho => ho, .inl ⟨rfl, id⟩, rfl, rfl⟩
  | removeClass present => exact ⟨fun _ ho => ho, .inl ⟨rfl, id⟩, rfl, rfl⟩
  | setCopyState state rendered =>
    exact ⟨fun _ ho => ho, .inl ⟨rfl, fun _ => Node.isRendered_iff.2 ⟨_, rendered⟩⟩, rfl, rfl⟩

/-- Only putting a rendered block in changes a number. -/
theorem Move.id_eq {bound : Nat} {e : Page.Edit} {s s' : Slot} (h : Move bound e s s')
    (he : ∀ id r, e ≠ .replace id r) : s'.node.id = s.node.id := by
  cases h with
  | replace s r => exact absurd rfl (he _ r)
  | _ => rfl

end Slot

theorem exists_of_mem_right_of_forall₂ {α β : Type} {R : α → β → Prop} {l : List α} {l' : List β}
    (h : List.Forall₂ R l l') {b : β} (hb : b ∈ l') : ∃ a ∈ l, R a b := by
  induction h with
  | nil => cases hb
  | cons hr _ ih =>
    rcases List.mem_cons.1 hb with rfl | hb
    · exact ⟨_, List.mem_cons_self, hr⟩
    · obtain ⟨a, ha, hab⟩ := ih hb
      exact ⟨a, List.mem_cons_of_mem _ ha, hab⟩

theorem exists_of_mem_left_of_forall₂ {α β : Type} {R : α → β → Prop} {l : List α} {l' : List β}
    (h : List.Forall₂ R l l') {a : α} (ha : a ∈ l) : ∃ b ∈ l', R a b :=
  exists_of_mem_right_of_forall₂ h.flip ha

/-- Two steps of a chain of lists, element by element. -/
theorem forall₂_trans {α β γ : Type} {R : α → β → Prop} {S : β → γ → Prop} {T : α → γ → Prop}
    {l : List α} {l' : List β} {l'' : List γ}
    (hT : ∀ a c, ∀ b ∈ l', R a b → S b c → T a c)
    (h : List.Forall₂ R l l') (h' : List.Forall₂ S l' l'') : List.Forall₂ T l l'' := by
  induction h generalizing l'' with
  | nil => cases h'; exact .nil
  | cons hr _ ih =>
    cases h' with
    | cons hs h' =>
      refine .cons (hT _ _ _ List.mem_cons_self hr hs) (ih (fun a c b hb => ?_) h')
      exact hT a c b (List.mem_cons_of_mem _ hb)

namespace Page

/-! ## How pages evolve -/

/-- How the blocks of a page may have changed. -/
structure Evolves (p p' : Page) : Prop where
  allocated_le : p.allocated ≤ p'.allocated
  slots : List.Forall₂ (Slot.Evolves p.allocated) p.slots p'.slots

theorem Evolves.refl (p : Page) : Evolves p p :=
  ⟨Nat.le_refl _, List.forall₂_same.2 fun s _ => .refl _ s⟩

theorem Evolves.of_slots_eq {p p' : Page} (hs : p'.slots = p.slots)
    (ha : p'.allocated = p.allocated) : Evolves p p' := by
  refine ⟨Nat.le_of_eq ha.symm, ?_⟩
  rw [hs]
  exact (Evolves.refl p).slots

theorem Evolves.trans {p p' p'' : Page} (h : Evolves p p') (h' : Evolves p' p'') :
    Evolves p p'' :=
  ⟨Nat.le_trans h.allocated_le h'.allocated_le,
    forall₂_trans (fun _ _ _ _ hab hbc => hab.trans h.allocated_le hbc) h.slots h'.slots⟩

theorem Evolves.apply (e : Edit) (p : Page) : Evolves p (e.apply p) :=
  ⟨allocated_le_apply e p, (forall₂_move_apply e p).imp fun _ _ h => h.evolves⟩

theorem Evolves.applyAll (es : List Edit) (p : Page) : Evolves p (Edit.applyAll es p) := by
  induction es generalizing p with
  | nil => exact .refl p
  | cons e es ih => exact (Evolves.apply e p).trans (ih (e.apply p))

/-- A number that was given out before names what it named before. -/
theorem Evolves.slot_of_le {p p' : Page} (h : Evolves p p') {s' : Slot} (hs : s' ∈ p'.slots)
    (hle : s'.node.id ≤ p.allocated) :
    ∃ s ∈ p.slots, Slot.Evolves p.allocated s s' ∧ s'.node.id = s.node.id ∧
      (s'.node.isRendered = true → s.node.isRendered = true) := by
  obtain ⟨s, hmem, hev⟩ := exists_of_mem_right_of_forall₂ h.slots hs
  rcases hev.identity with ⟨hid, hr⟩ | hnew
  · exact ⟨s, hmem, hev, hid, hr⟩
  · exact absurd hle (Nat.not_le.2 hnew)

/-! ## Edited pages -/

/-- The second page is the first one after some edits. -/
def Edited (p p' : Page) : Prop := ∃ es, p' = Edit.applyAll es p

theorem Edited.refl (p : Page) : Edited p p := ⟨[], rfl⟩

theorem Edited.apply (e : Edit) (p : Page) : Edited p (e.apply p) := ⟨[e], rfl⟩

theorem Edited.evolves {p p' : Page} (h : p.Edited p') : p.Evolves p' := by
  obtain ⟨es, rfl⟩ := h
  exact .applyAll es p

theorem Edited.sameFrame {p p' : Page} (h : p.Edited p') : p.SameFrame p' := by
  obtain ⟨es, rfl⟩ := h
  exact sameFrame_applyAll es p

/-! ## What activities know about a number -/

/-- The number was given out, and a block that has it was this at first. -/
def Owns (p : Page) (id : NodeId) (o : SourceBlock) : Prop :=
  id ≤ p.allocated ∧ ∀ s ∈ p.slots, s.node.id = id → s.captured = some o

theorem Owns.mono {p p' : Page} {id : NodeId} {o : SourceBlock} (h : p.Owns id o)
    (hev : p.Evolves p') : p'.Owns id o := by
  refine ⟨Nat.le_trans h.1 hev.allocated_le, ?_⟩
  intro s' hs' hid
  obtain ⟨s, hs, hsev, hsid, -⟩ := hev.slot_of_le hs' (hid ▸ h.1)
  exact hsev.captured o (h.2 s hs (hsid ▸ hid))

/-- The number was given out, and no rendered block has it. -/
def NeverRendered (p : Page) (id : NodeId) : Prop :=
  id ≤ p.allocated ∧ ∀ s ∈ p.slots, s.node.id = id → s.node.isRendered = false

theorem NeverRendered.mono {p p' : Page} {id : NodeId} (h : p.NeverRendered id)
    (hev : p.Evolves p') : p'.NeverRendered id := by
  refine ⟨Nat.le_trans h.1 hev.allocated_le, ?_⟩
  intro s' hs' hid
  obtain ⟨s, hs, -, hsid, hr⟩ := hev.slot_of_le hs' (hid ▸ h.1)
  have hpristine := h.2 s hs (hsid ▸ hid)
  cases hs'r : s'.node.isRendered with
  | false => rfl
  | true => exact absurd (hr hs'r) (by simp [hpristine])

/-! ## Numbers -/

/-- Every block has a number of its own, and it was given out. -/
structure IsNumbered (p : Page) : Prop where
  nodup : (p.slots.map (·.node.id)).Nodup
  le_allocated : ∀ s ∈ p.slots, s.node.id ≤ p.allocated

theorem map_id_updateSlots (id new : NodeId) (f : Slot → Slot) (hf : ∀ s, (f s).node.id = new)
    (slots : List Slot) (x : NodeId) (hx : x ∈ (updateSlots id f slots).map (·.node.id)) :
    x = new ∨ x ∈ slots.map (·.node.id) := by
  obtain ⟨s', hs', rfl⟩ := List.mem_map.1 hx
  obtain ⟨s, hs, he⟩ := exists_of_mem_right_of_forall₂ (forall₂_updateSlots id f slots) hs'
  rcases he with rfl | ⟨-, rfl⟩
  · exact .inr (List.mem_map_of_mem hs)
  · exact .inl (hf s)

theorem nodup_updateSlots {id : NodeId} (new : NodeId) {f : Slot → Slot}
    (hf : ∀ s, (f s).node.id = new) {slots : List Slot} (hn : (slots.map (·.node.id)).Nodup)
    (hnew : new ∉ slots.map (·.node.id)) :
    ((updateSlots id f slots).map (·.node.id)).Nodup := by
  induction slots with
  | nil => exact hn
  | cons a slots ih =>
    simp only [List.map_cons, List.nodup_cons, List.mem_cons, not_or] at hn hnew
    simp only [updateSlots]
    by_cases ha : a.node.id = id
    · rw [if_pos ha, List.map_cons, hf, List.nodup_cons]
      exact ⟨hnew.2, hn.2⟩
    · rw [if_neg ha, List.map_cons, List.nodup_cons]
      refine ⟨?_, ih hn.2 hnew.2⟩
      intro hmem
      rcases map_id_updateSlots id new f hf slots _ hmem with he | hm
      · exact hnew.1 he.symm
      · exact hn.1 hm

theorem map_id_of_forall₂_move {bound : Nat} {e : Edit} (he : ∀ id r, e ≠ .replace id r)
    {slots slots' : List Slot} (h : List.Forall₂ (Slot.Move bound e) slots slots') :
    slots'.map (·.node.id) = slots.map (·.node.id) := by
  induction h with
  | nil => rfl
  | cons hm _ ih => simp only [List.map_cons, hm.id_eq he, ih]

theorem IsNumbered.apply {p : Page} (h : p.IsNumbered) (e : Edit) : (e.apply p).IsNumbered := by
  refine ⟨?_, ?_⟩
  · by_cases he : ∀ id r, e ≠ .replace id r
    · rw [map_id_of_forall₂_move he (forall₂_move_apply e p)]
      exact h.nodup
    · push Not at he
      obtain ⟨id, r, rfl⟩ := he
      simp only [Edit.apply, replace]
      split
      · exact h.nodup
      · refine nodup_updateSlots (p.allocated + 1) (fun _ => rfl) h.nodup ?_
        intro hmem
        obtain ⟨s, hs, he⟩ := List.mem_map.1 hmem
        exact absurd (h.le_allocated s hs) (he ▸ Nat.not_succ_le_self p.allocated)
  · intro s' hs'
    obtain ⟨s, hs, hm⟩ := exists_of_mem_right_of_forall₂ (forall₂_move_apply e p) hs'
    have hle := h.le_allocated s hs
    have hgrow := allocated_le_apply e p
    cases hm with
    | replace s r => exact Nat.le_of_eq (allocated_apply (.replace s.node.id r) p).symm
    | _ => exact Nat.le_trans hle hgrow

theorem IsNumbered.applyAll {p : Page} (h : p.IsNumbered) (es : List Edit) :
    (Edit.applyAll es p).IsNumbered := by
  induction es generalizing p with
  | nil => exact h
  | cons e es ih => exact ih (h.apply e)

theorem Edited.isNumbered {p p' : Page} (h : p.Edited p') (hp : p.IsNumbered) :
    p'.IsNumbered := by
  obtain ⟨es, rfl⟩ := h
  exact hp.applyAll es

/-- In a page with numbers of its own, a block is found by its number. -/
theorem IsNumbered.slot?_eq_some {p : Page} (h : p.IsNumbered) {s : Slot} (hs : s ∈ p.slots) :
    p.slot? s.node.id = some s := by
  obtain ⟨t, ht⟩ : ∃ t, p.slot? s.node.id = some t := by
    rw [← Option.isSome_iff_exists, slot?, List.find?_isSome]
    exact ⟨s, hs, by simp⟩
  obtain ⟨htmem, htid⟩ := slot?_eq_some_mem ht
  rw [ht, List.inj_on_of_nodup_map h.nodup htmem hs htid]

/-- A block of a page with numbers of its own is known by what was noted of it. -/
theorem IsNumbered.owns {p : Page} (h : p.IsNumbered) {id : NodeId} {s : Slot} {o : SourceBlock}
    (hs : p.slot? id = some s) (ho : s.captured = some o) : p.Owns id o := by
  obtain ⟨hmem, hid⟩ := slot?_eq_some_mem hs
  refine ⟨hid ▸ h.le_allocated s hmem, ?_⟩
  intro s' hs' hid'
  have hsame : s' = s := List.inj_on_of_nodup_map h.nodup hs' hmem (hid'.trans hid.symm)
  rw [hsame]
  exact ho

theorem find?_updateSlots (id : NodeId) {f : Slot → Slot} (hf : ∀ s, (f s).node.id = s.node.id)
    (slots : List Slot) :
    (updateSlots id f slots).find? (·.node.id = id) =
      (slots.find? (·.node.id = id)).map f := by
  induction slots with
  | nil => rfl
  | cons a slots ih =>
    simp only [updateSlots]
    by_cases ha : a.node.id = id
    · simp [ha, hf]
    · rw [if_neg ha]
      simpa [ha] using ih

theorem slot?_updateSlot {p : Page} {id : NodeId} {s : Slot} (f : Slot → Slot)
    (hf : ∀ s, (f s).node.id = s.node.id) (hs : p.slot? id = some s) :
    (p.updateSlot id f).slot? id = some (f s) := by
  have hfind := find?_updateSlots id hf p.slots
  unfold slot? at hs ⊢
  rw [hs] at hfind
  exact hfind

/-- A pristine block of a page with numbers of its own has the number of no rendered
one. -/
theorem IsNumbered.neverRendered {p : Page} (h : p.IsNumbered) {n : Node} (hn : n ∈ p.blocks)
    (hpristine : n.isRendered = false) : p.NeverRendered n.id := by
  obtain ⟨s, hs, rfl⟩ := List.mem_map.1 hn
  refine ⟨h.le_allocated s hs, ?_⟩
  intro s' hs' hid
  rw [List.inj_on_of_nodup_map h.nodup hs' hs hid]
  exact hpristine

/-- What noting what a block was gives is noted of the block from then on. -/
theorem IsNumbered.owns_capture {p : Page} (h : p.IsNumbered) {id : NodeId} {o : SourceBlock}
    (ho : (p.capture id).1 = some o) : (p.capture id).2.Owns id o := by
  have hnumbered : (p.capture id).2.IsNumbered := h.apply (.capture id)
  revert ho hnumbered
  unfold capture
  split
  · intro ho
    cases ho
  · next s hs =>
    split
    · next o' hc =>
      intro ho hnumbered
      cases ho
      exact hnumbered.owns hs hc
    · intro ho
      cases ho
    · next t hc ht =>
      intro ho hnumbered
      cases ho
      exact hnumbered.owns (slot?_updateSlot _ (fun _ => rfl) hs) rfl

/-! ## Fresh pages -/

/-- A page that nobody worked on yet: every block is pristine, nothing was noted of
it, and it has a number of its own. -/
structure IsFresh (p : Page) : Prop where
  pristine : ∀ s ∈ p.slots, ∃ t, s.node.content = .source t
  uncaptured : ∀ s ∈ p.slots, s.captured = none
  numbered : p.IsNumbered

theorem isFresh_empty : empty.IsFresh :=
  ⟨by simp [empty], by simp [empty], ⟨by simp [empty], by simp [empty]⟩⟩

/-- What the reader prefers is no work on a page. -/
theorem IsFresh.withPreference {p : Page} (h : p.IsFresh) (dark : Bool) :
    { p with prefersDark := dark }.IsFresh :=
  ⟨h.pristine, h.uncaptured, h.numbered.nodup, h.numbered.le_allocated⟩

theorem IsNumbered.pushBlock {p : Page} (h : p.IsNumbered) (classes : List Text)
    (text preTag : Text) (codeAttrs : List Attribute) :
    (p.pushBlock classes text preTag codeAttrs).IsNumbered := by
  refine ⟨?_, ?_⟩
  · simp only [Page.pushBlock, List.map_append, List.map_cons, List.map_nil]
    refine List.nodup_append.2 ⟨h.nodup, by simp, ?_⟩
    intro a ha b hb
    obtain ⟨s, hs, rfl⟩ := List.mem_map.1 ha
    have hle := h.le_allocated s hs
    have hb' : b = p.allocated + 1 := by simpa using hb
    rw [hb']
    exact Nat.ne_of_lt (Nat.lt_succ_of_le hle)
  · intro s hs
    rcases List.mem_append.1 hs with hs | hs
    · exact Nat.le_succ_of_le (h.le_allocated s hs)
    · rw [List.mem_singleton.1 hs]
      exact Nat.le_refl _

theorem IsFresh.pushBlock {p : Page} (h : p.IsFresh) (classes : List Text) (text preTag : Text)
    (codeAttrs : List Attribute) : (p.pushBlock classes text preTag codeAttrs).IsFresh := by
  refine ⟨?_, ?_, h.numbered.pushBlock classes text preTag codeAttrs⟩
  · intro s hs
    rcases List.mem_append.1 hs with hs | hs
    · exact h.pristine s hs
    · rw [List.mem_singleton.1 hs]
      exact ⟨text, rfl⟩
  · intro s hs
    rcases List.mem_append.1 hs with hs | hs
    · exact h.uncaptured s hs
    · rw [List.mem_singleton.1 hs]

/-- A page that was read from HTML is fresh. -/
theorem isFresh_ofHtml (t : Text) : (ofHtml t).IsFresh := by
  have add : ∀ (p : Page) (part : Part), p.IsFresh → (p.addPart part).IsFresh := by
    intro p part h
    cases part with
    | html t => exact ⟨h.pristine, h.uncaptured, ⟨h.numbered.nodup, h.numbered.le_allocated⟩⟩
    | root attrs => exact ⟨h.pristine, h.uncaptured, ⟨h.numbered.nodup, h.numbered.le_allocated⟩⟩
    | block b => exact h.pushBlock _ _ _ _
  have addAll : ∀ (parts : List Part) (p : Page), p.IsFresh → (parts.foldl addPart p).IsFresh := by
    intro parts
    induction parts with
    | nil => exact fun p h => h
    | cons part parts ih => exact fun p h => ih _ (add p part h)
  exact addAll _ _ isFresh_empty

end Page

end PageHighlight
