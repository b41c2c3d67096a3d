/-
  Proofs/Session/Marks.lean --- the marks that a cycle puts on its candidates.

  WHAT THIS FILE IS FOR.  A cycle marks its candidates by their numbers, waits, and takes
  the marks off by the same numbers.  Meanwhile blocks are replaced under new numbers, put
  back with the classes that were noted of them, and noted while they are marked.  All the
  same, the blocks with a mark are exactly those whose numbers the cycle marked
  (`Page.Marks`): a mark is never part of what is noted, and a number that was marked never
  comes to name a rendered block (`Pact.found`).
-/
import PageHighlight.Proofs.Page.Blocks
import PageHighlight.Proofs.Session.Flights

set_option autoImplicit false

namespace PageHighlight

/-! ## What a cycle found and marked -/

namespace Cycle

/-- The candidates that a cycle found, from when it looked until it takes its marks off. -/
def found? : Cycle → Option (List NodeId)
  | mark _ ids | unmark ids _ => some ids
  | batch b => some b.candidates
  | _ => none

/-- The numbers of the blocks that a cycle marked, until it takes its marks off. -/
def marked : Cycle → List NodeId
  | batch b => b.candidates
  | unmark ids _ => ids
  | _ => []

theorem found?_of_mem_marked {c : Cycle} {id : NodeId} (h : id ∈ c.marked) :
    c.found? = some c.marked := by
  cases c with
  | batch b => rfl
  | unmark ids tally => rfl
  | _ => cases h

theorem isActive_of_found? {c : Cycle} {ids : List NodeId} (h : c.found? = some ids) :
    c.isActive = true := by
  cases c with
  | mark theme ids' => rfl
  | batch b => rfl
  | unmark ids' tally => rfl
  | _ => cases h

theorem isActive_of_mem_marked {c : Cycle} {id : NodeId} (h : id ∈ c.marked) :
    c.isActive = true :=
  isActive_of_found? (found?_of_mem_marked h)

theorem marked_of_not_isActive {c : Cycle} (h : c.isActive = false) : c.marked = [] := by
  refine List.eq_nil_iff_forall_not_mem.2 fun id hid => ?_
  rw [isActive_of_mem_marked hid] at h
  cases h

theorem marked_of_report? {c : Cycle} (h : c.report?.isSome = true) : c.marked = [] :=
  marked_of_not_isActive (not_isActive_of_report? h)

theorem found?_next (b : Batches) : b.next.found? = some b.candidates := by
  unfold Batches.next
  split <;> rfl

theorem marked_next (b : Batches) : b.next.marked = b.candidates := by
  unfold Batches.next
  split <;> rfl

/-- A cycle keeps the candidates that it found when it looked at the page. -/
theorem found?_step (s : Setting) (part : Nat) (w : World) (c : Cycle) {ids : List NodeId}
    (h : (c.step s part w).2.found? = some ids) :
    c.found? = some ids ∨ (c = .survey ∧ ids = s.config.candidates w.page) := by
  cases c with
  | start =>
    simp only [step] at h
    split at h <;> cases h
  | survey =>
    simp only [step] at h
    split at h
    · cases h
    · cases h
      exact .inr ⟨rfl, rfl⟩
  | mark theme ids' =>
    rw [step, begin, found?_next] at h
    exact .inl h
  | batch b =>
    simp only [step] at h
    split at h
    · rw [found?_next] at h
      exact .inl h
    · split at h
      · exact .inl h
      · exact .inl h
  | unmark ids' tally => cases h
  | release n tally => cases h
  | done report => cases h

/-- A cycle renders none but the candidates that it found. -/
def KeepsToFound (c : Cycle) : Prop := ∀ id ∈ c.ids, ∃ ids, c.found? = some ids ∧ id ∈ ids

theorem keepsToFound_start : Cycle.start.KeepsToFound := fun id hid => by cases hid

theorem KeepsToFound.step {c : Cycle} (h : c.KeepsToFound) (s : Setting) (part : Nat) (w : World) :
    (c.step s part w).2.KeepsToFound := by
  have idle : ∀ c' : Cycle, c'.ids = [] → c'.KeepsToFound := by
    intro c' hids id hid
    rw [hids] at hid
    cases hid
  cases c with
  | start =>
    simp only [Cycle.step]
    split <;> exact idle _ rfl
  | survey =>
    simp only [Cycle.step]
    split
    · exact idle _ rfl
    · exact fun id hid => ⟨_, rfl, hid⟩
  | mark theme ids =>
    intro id hid
    have hmem := mem_ids_next _ hid
    rw [flatten_chunks] at hmem
    exact ⟨ids, found?_next _, hmem⟩
  | batch b =>
    simp only [Cycle.step]
    split
    · intro id hid
      obtain ⟨ids, hids, hmem⟩ := h id (List.mem_append_right _ (mem_ids_next b hid))
      cases hids
      exact ⟨b.candidates, found?_next b, hmem⟩
    · split
      · exact h
      · next r hr =>
        intro id hid
        refine h id ?_
        rwa [ids, ← Render.map_id_set_step hr s w]
  | unmark ids tally => exact idle _ rfl
  | release n tally => exact idle _ rfl
  | done report => exact idle _ rfl

/-- A cycle looks at the page once, after it has set the flag. -/
theorem step_ne_survey (s : Setting) (part : Nat) (w : World) {c : Cycle}
    (hc : c.isActive = true) : (c.step s part w).2 ≠ .survey := by
  have next : ∀ b : Batches, b.next ≠ .survey := by
    intro b
    unfold Batches.next
    split <;> exact Cycle.noConfusion
  cases c with
  | start => cases hc
  | survey =>
    simp only [step]
    split <;> exact Cycle.noConfusion
  | mark theme ids => exact next _
  | batch b =>
    simp only [step]
    split
    · exact next b
    · split <;> exact Cycle.noConfusion
  | _ => exact Cycle.noConfusion

/-- A cycle that is not at work comes to be by setting the flag. -/
theorem step_of_not_isActive (s : Setting) (part : Nat) (w : World) {c : Cycle}
    (hc : c.isActive = false) :
    (c.step s part w).1.page = w.page ∧
      ((c.step s part w).2.isActive = false ∨
        ((c.step s part w).2 = .survey ∧ w.running = false)) := by
  cases c with
  | start =>
    cases hr : w.running with
    | true =>
      rw [step, if_pos hr]
      exact ⟨rfl, .inl rfl⟩
    | false =>
      rw [step, if_neg (by simp [hr])]
      exact ⟨rfl, .inr ⟨rfl, rfl⟩⟩
  | done report => exact ⟨rfl, .inl rfl⟩
  | _ => cases hc

end Cycle

/-- The candidates that the cycles of a session found are pristine. -/
def Pact.found (s : Setting) : Pact s where
  inv w := w.page.IsNumbered
  rely w w' := w.page.Evolves w'.page
  render _ _ := True
  cycle w c := ∀ ids, c.found? = some ids → ∀ id ∈ ids, w.page.NeverRendered id

theorem Pact.kept_found (s : Setting) : (Pact.found s).Kept where
  trans h h' := h.trans h'
  render_mono _ _ := trivial
  cycle_mono h hc ids hids id hid := (hc ids hids id hid).mono h
  alike h hw := by
    refine ⟨⟨?_, ?_⟩, .of_slots_eq h.slots h.allocated⟩
    · rw [h.slots]
      exact hw.nodup
    · rw [h.slots, h.allocated]
      exact hw.le_allocated
  start _ ids hids := by cases hids
  render_step {w} {r} hw _ := by
    have hedited := (r.acts s w).edited
    exact ⟨⟨hedited.isNumbered hw, hedited.evolves⟩, trivial⟩
  cycle_step {w} {c} part hw hc := by
    have hedited := c.edited_step s part w
    refine ⟨⟨hedited.isNumbered hw, hedited.evolves⟩, fun ids hids id hid => ?_⟩
    rcases c.found?_step s part w hids with hids | ⟨-, rfl⟩
    · exact (hc ids hids id hid).mono hedited.evolves
    · exact (Cycle.neverRendered_of_mem_candidates hw hid).mono hedited.evolves
  copying_step {w} c hw := by
    have hedited := c.edited_step s w
    exact ⟨hedited.isNumbered hw, hedited.evolves⟩
  restored {w} hw := ⟨w.edited_restored.isNumbered hw, w.edited_restored.evolves⟩
  arrived {w} hw := ⟨hw, .refl w.page⟩

theorem Pact.keptWhenGivenUp_found (s : Setting) : (Pact.found s).KeptWhenGivenUp where
  render {w} {r} hw _ := by
    have hpage := r.page_giveUp s w
    refine ⟨?_, ?_⟩
    · show (r.giveUp s w).page.IsNumbered
      rwa [hpage]
    · show w.page.Evolves (r.giveUp s w).page
      rw [hpage]
      exact .refl w.page
  cycle {w} {c} hw _ := by
    have hpage := c.page_giveUp s w
    refine ⟨?_, ?_⟩
    · show (c.giveUp s w).page.IsNumbered
      rwa [hpage]
    · show w.page.Evolves (c.giveUp s w).page
      rw [hpage]
      exact .refl w.page

theorem Pact.admits_found (s : Setting) (e : Event) : (Pact.found s).Admits e := by
  cases e with
  | call c =>
    cases c with
    | render id theme => exact fun w hw => trivial
    | _ => trivial
  | giveUp task => exact Pact.keptWhenGivenUp_found s
  | _ => trivial

/-- So are the blocks that cycles render, which are candidates that they found. -/
def Pact.rendering (s : Setting) : Pact s := (Pact.found s).withCycle fun _ c => c.KeepsToFound

theorem Pact.kept_rendering (s : Setting) : (Pact.rendering s).Kept :=
  (Pact.kept_found s).withCycle (fun _ h => h) (fun _ => Cycle.keepsToFound_start)
    fun {w} {_} part _ _ h => h.step s part w

/-! ## The marks on a page -/

namespace Page

theorem not_mem_sourceBlockOf (classes : List Text) (t : Text) :
    loadingClass ∉ (sourceBlockOf classes t).classes := by
  simp [sourceBlockOf]

theorem not_hasClass_rendered (id : NodeId) (r : RenderedBlock) :
    Node.hasClass loadingClass ⟨id, [renderedClass], .rendered r⟩ = false := by
  have hne : renderedClass ≠ loadingClass := by decide
  simp [Node.hasClass, hne.symm]

/-- No mark is part of what was noted of a block. -/
def NotesNoMark (p : Page) : Prop :=
  ∀ slot ∈ p.slots, ∀ o, slot.captured = some o → loadingClass ∉ o.classes

theorem NotesNoMark.apply {p : Page} (h : p.NotesNoMark) (e : Edit) : (e.apply p).NotesNoMark := by
  intro slot' hslot' o ho
  obtain ⟨slot, hslot, hmove⟩ := exists_of_mem_right_of_forall₂ (forall₂_move_apply e p) hslot'
  cases hmove with
  | capture pristine fresh =>
    cases ho
    exact not_mem_sourceBlockOf _ _
  | _ => exact h _ hslot o ho

theorem NotesNoMark.applyAll {p : Page} (h : p.NotesNoMark) (es : List Edit) :
    (Edit.applyAll es p).NotesNoMark := by
  induction es generalizing p with
  | nil => exact h
  | cons e es ih => exact ih (h.apply e)

/-- The marked blocks of a page are those with these numbers, and none of them is
rendered. -/
structure Marks (ids : List NodeId) (p : Page) : Prop where
  numbered : p.IsNumbered
  notes : p.NotesNoMark
  pristine : ∀ id ∈ ids, p.NeverRendered id
  marked : ∀ n ∈ p.blocks, n.hasClass loadingClass = true ↔ n.id ∈ ids

namespace Marks

variable {ids ids' : List NodeId} {p p' : Page}

theorem congr (h : p.Marks ids) (hids : ∀ id, id ∈ ids' ↔ id ∈ ids) : p.Marks ids' :=
  ⟨h.numbered, h.notes, fun id hid => h.pristine id ((hids id).1 hid),
    fun n hn => (h.marked n hn).trans (hids n.id).symm⟩

theorem of_slots_eq (h : p.Marks ids) (hslots : p'.slots = p.slots)
    (hallocated : p'.allocated = p.allocated) : p'.Marks ids := by
  obtain ⟨root, dark, segments, slots, allocated⟩ := p'
  cases hslots
  cases hallocated
  exact ⟨⟨h.numbered.nodup, h.numbered.le_allocated⟩, h.notes, h.pristine, h.marked⟩

/-- An edit that puts no class on a block and takes none off changes no mark. -/
theorem apply (h : p.Marks ids) {e : Edit} (he : e.isClassChange = false) :
    (e.apply p).Marks ids := by
  refine ⟨h.numbered.apply e, h.notes.apply e, fun id hid =>
    (h.pristine id hid).mono (.apply e p), ?_⟩
  intro n hn
  obtain ⟨slot', hslot', rfl⟩ := List.mem_map.1 hn
  obtain ⟨slot, hslot, hmove⟩ := exists_of_mem_right_of_forall₂ (forall₂_move_apply e p) hslot'
  have hmarked := h.marked slot.node (List.mem_map_of_mem hslot)
  cases hmove with
  | keep => exact hmarked
  | capture pristine fresh => exact hmarked
  | replace slot r =>
    -- the number is new, and the candidates were given out before
    rw [not_hasClass_rendered]
    refine ⟨fun hmark => (by cases hmark), fun hid => ?_⟩
    exact absurd (h.pristine _ hid).1 (Nat.not_succ_le_self p.allocated)
  | @restore slot o known rendered =>
    -- it was rendered, and no candidate is
    refine ⟨fun hmark => ?_, fun hid => ?_⟩
    · exact absurd (by simpa [Node.hasClass] using hmark) (h.notes slot hslot o known)
    · rw [(h.pristine _ hid).2 slot hslot rfl] at rendered
      cases rendered
  | addClass absent => cases he
  | removeClass present => cases he
  | setCopyState state rendered => exact hmarked

theorem editedAside (h : p.Marks ids) (hp : p.EditedAside p') : p'.Marks ids := by
  obtain ⟨es, hes, rfl⟩ := hp
  induction es generalizing p with
  | nil => exact h
  | cons e es ih =>
    exact ih (h.apply (hes e List.mem_cons_self)) fun e he => hes e (List.mem_cons_of_mem _ he)

/-- Marking blocks of a page without marks. -/
theorem markAll (h : p.Marks []) (hids : ∀ id ∈ ids, p.NeverRendered id) :
    (Cycle.markAll ids p).2.Marks ids := by
  have hpage := Cycle.page_markAll ids p
  have hevolves : p.Evolves (Cycle.markAll ids p).2 := hpage ▸ .applyAll _ p
  refine ⟨hpage ▸ h.numbered.applyAll _, hpage ▸ h.notes.applyAll _,
    fun id hid => (hids id hid).mono hevolves, ?_⟩
  intro n hn
  rw [h.numbered.blocks_markAll] at hn
  obtain ⟨m, hm, rfl⟩ := List.mem_map.1 hn
  have hclean : m.hasClass loadingClass ≠ true := fun hmark => by
    cases (h.marked m hm).1 hmark
  split
  · next hid => simp [Node.hasClass_withClass, hid]
  · next hid => simp [hclean, hid]

/-- Taking the marks off again. -/
theorem unmarkAll (h : p.Marks ids) : (Cycle.unmarkAll ids p).2.Marks [] := by
  have hpage := Cycle.page_unmarkAll ids p
  refine ⟨hpage ▸ h.numbered.applyAll _, hpage ▸ h.notes.applyAll _, ?_, ?_⟩
  · intro id hid
    cases hid
  intro n hn
  rw [h.numbered.blocks_unmarkAll] at hn
  obtain ⟨m, hm, rfl⟩ := List.mem_map.1 hn
  split
  · simp [Node.hasClass, Node.withoutClass]
  · next hid => simp [h.marked m hm, hid]

end Marks

end Page

/-- A step of a cycle marks what it is to mark and unmarks it again. -/
theorem Cycle.marks_step {s : Setting} {w : World} {c : Cycle} (part : Nat)
    (h : w.page.Marks c.marked)
    (hfound : ∀ ids, c.found? = some ids → ∀ id ∈ ids, w.page.NeverRendered id) :
    (c.step s part w).1.page.Marks (c.step s part w).2.marked := by
  cases c with
  | start =>
    simp only [step]
    split <;> exact h
  | survey =>
    simp only [step]
    split <;> exact h
  | mark theme ids =>
    rw [step, begin, marked_next]
    exact h.markAll (hfound ids rfl)
  | batch b =>
    simp only [step]
    split
    · rw [marked_next]
      exact h
    · split
      · exact h
      · next r hr => exact h.editedAside (r.acts s w).editedAside
  | unmark ids tally => exact h.unmarkAll
  | release n tally => exact h
  | done report => exact h

end PageHighlight
