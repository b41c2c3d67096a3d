/-
  Proofs/Session/Candidates.lean --- cycles render pristine blocks only, with the
  theme that they resolved.

  WHAT THIS FILE IS FOR.  A cycle picks its candidates once and renders them batch by
  batch.  Meanwhile others change the page, but a number that named a pristine block
  never comes to name a rendered one (`Page.NeverRendered`), so the cycle never puts
  a block in the place of a rendered one.  Its theme stays the one that it resolved
  when it picked them.
-/
import PageHighlight.Proofs.Page.Blocks
import PageHighlight.Proofs.Session.Edits
import PageHighlight.Proofs.Session.Pact

set_option autoImplicit false

namespace PageHighlight

/-! ## Pieces -/

/-- The pieces of a list, put together, are the list. -/
theorem flatten_chunks {α : Type} (n : Nat) (xs : List α) : (chunks n xs).flatten = xs := by
  fun_induction chunks n xs with
  | case1 => rfl
  | case2 x rest ih =>
    rw [List.flatten_cons, ih, List.take_succ_cons, List.cons_append, List.take_append_drop]

/-! ## The blocks and the theme of a cycle -/

namespace Cycle

/-- The blocks that a cycle is rendering or will render. -/
def ids : Cycle → List NodeId
  | mark _ ids => ids
  | batch b => b.current.map (·.id) ++ b.rest.flatten
  | _ => []

/-- The theme that a cycle resolved, while it renders with it. -/
def theme? : Cycle → Option Text
  | mark theme _ => some theme
  | batch b => some b.theme
  | _ => none

theorem isActive_of_theme? {c : Cycle} {theme : Text} (h : c.theme? = some theme) :
    c.isActive = true := by
  cases c with
  | mark theme ids => rfl
  | batch b => rfl
  | _ => cases h

theorem mem_ids_of_mem_renders {c : Cycle} {r : Render} (h : r ∈ c.renders) : r.id ∈ c.ids := by
  cases c with
  | batch b => exact List.mem_append_left _ (List.mem_map_of_mem h)
  | _ => cases h

/-- The next batch is one of those to come, and keeps the theme. -/
theorem mem_ids_next (b : Batches) {id : NodeId} (h : id ∈ b.next.ids) : id ∈ b.rest.flatten := by
  unfold Batches.next at h
  cases hrest : b.rest with
  | nil =>
    rw [hrest] at h
    cases h
  | cons ids rest =>
    rw [hrest] at h
    simpa [Cycle.ids, Render.of, Function.comp_def] using h

theorem theme?_next (b : Batches) {theme : Text} (h : b.next.theme? = some theme) :
    theme = b.theme := by
  unfold Batches.next at h
  split at h
  · cases h
  · cases h
    rfl

/-- A cycle resolves its theme when it picks its candidates, and keeps it. -/
theorem theme?_step (s : Setting) (part : Nat) (w : World) (c : Cycle) {theme : Text}
    (h : (c.step s part w).2.theme? = some theme) :
    c.theme? = some theme ∨ theme = s.config.resolveTheme w.page := by
  cases c with
  | start =>
    simp only [step] at h
    split at h <;> cases h
  | survey =>
    simp only [step] at h
    split at h
    · cases h
    · cases h
      exact .inr rfl
  | mark theme' ids =>
    have he := theme?_next _ h
    exact .inl (congrArg some he.symm)
  | batch b =>
    simp only [step] at h
    split at h
    · have he := theme?_next b h
      exact .inl (congrArg some he.symm)
    · split at h
      · exact .inl h
      · exact .inl h
  | unmark ids tally => cases h
  | release n tally => cases h
  | done report => cases h

end Cycle

/-! ## The candidates of a page -/

/-- The candidates of a page are pristine. -/
theorem Cycle.neverRendered_of_mem_candidates {c : Config} {p : Page} (hp : p.IsNumbered)
    {id : NodeId} (h : id ∈ c.candidates p) : p.NeverRendered id := by
  obtain ⟨n, hn, rfl⟩ := List.mem_map.1 h
  obtain ⟨hmem, hcandidate⟩ := List.mem_filter.1 hn
  refine hp.neverRendered hmem ?_
  simp only [Config.isCandidate, Bool.and_eq_true, Bool.not_eq_true'] at hcandidate
  exact hcandidate.1.1

namespace Setting

variable {s : Setting} {p : Page}

/-- A block of a page is picked if its number is. -/
theorem mem_candidates_iff (hp : p.IsNumbered) {n : Node} (hn : n ∈ p.blocks) :
    n.id ∈ s.config.candidates p ↔ s.config.isCandidate n = true := by
  constructor
  · intro h
    obtain ⟨m, hm, hid⟩ := List.mem_map.1 h
    obtain ⟨hmem, hcandidate⟩ := List.mem_filter.1 hm
    rw [← hp.eq_of_id_eq hmem hn hid]
    exact hcandidate
  · intro h
    exact List.mem_map_of_mem (List.mem_filter.2 ⟨hn, h⟩)

theorem nodup_candidates (hp : p.IsNumbered) : (s.config.candidates p).Nodup :=
  hp.nodup_blocks.sublist (List.filter_sublist.map _)

theorem le_allocated_of_mem_candidates (hp : p.IsNumbered) {id : NodeId}
    (h : id ∈ s.config.candidates p) : id ≤ p.allocated :=
  (Cycle.neverRendered_of_mem_candidates hp h).1

end Setting

/-! ## The pact -/

/-- What a cycle knows of its blocks: none of them is rendered, and all of them are
rendered with its theme. -/
structure Cycle.Knows (p : Page) (c : Cycle) : Prop where
  pristine : ∀ id ∈ c.ids, p.NeverRendered id
  themed : ∀ r ∈ c.renders, c.theme? = some r.theme

/-- What the cycles of a session rely on, if nobody renders a block that is rendered
already. -/
def Pact.pristine (s : Setting) : Pact s where
  inv w := w.page.IsNumbered
  rely w w' := w.page.Evolves w'.page
  render w r := w.page.NeverRendered r.id
  cycle w c := c.Knows w.page

namespace Cycle

theorem Knows.mono {p p' : Page} {c : Cycle} (h : c.Knows p) (hev : p.Evolves p') : c.Knows p' :=
  ⟨fun id hid => (h.pristine id hid).mono hev, h.themed⟩

theorem knows_of_ids_eq_nil {p : Page} {c : Cycle} (hids : c.ids = []) (hrenders : c.renders = []) :
    c.Knows p := by
  refine ⟨?_, ?_⟩
  · intro id hid
    rw [hids] at hid
    cases hid
  · intro r hr
    rw [hrenders] at hr
    cases hr

theorem knows_next {p : Page} (b : Batches) (h : ∀ id ∈ b.rest.flatten, p.NeverRendered id) :
    b.next.Knows p := by
  refine ⟨fun id hid => h id (mem_ids_next b hid), ?_⟩
  intro r hr
  obtain ⟨ids, rest, hrest, -, he⟩ := renders_next b hr
  rw [he]
  unfold Batches.next
  rw [hrest]
  rfl

/-- A step of a cycle keeps what it knows. -/
theorem Knows.step {s : Setting} {w : World} {c : Cycle} (hw : w.page.IsNumbered)
    (h : c.Knows w.page) (part : Nat) :
    (c.step s part w).2.Knows (c.step s part w).1.page := by
  have hev := (c.edited_step s part w).evolves
  cases c with
  | start =>
    simp only [Cycle.step]
    split
    · exact knows_of_ids_eq_nil rfl rfl
    · exact knows_of_ids_eq_nil rfl rfl
  | survey =>
    simp only [Cycle.step]
    split
    · exact knows_of_ids_eq_nil rfl rfl
    · next ids hids =>
      refine ⟨fun id hid => neverRendered_of_mem_candidates hw hid, ?_⟩
      intro r hr
      cases hr
  | mark theme ids =>
    refine knows_next _ fun id hid => (h.pristine id ?_).mono hev
    rwa [flatten_chunks] at hid
  | batch b =>
    have hrest : ∀ id ∈ b.rest.flatten, w.page.NeverRendered id :=
      fun id hid => h.pristine id (List.mem_append_right _ hid)
    simp only [Cycle.step] at hev ⊢
    split
    · exact knows_next b hrest
    · next hsettled =>
      rw [if_neg hsettled] at hev
      split
      · exact h
      · next r hr =>
        simp only [hr] at hev
        refine ⟨fun id hid => ?_, fun x hx => ?_⟩
        · rw [ids, Render.map_id_set_step hr s w] at hid
          exact (h.pristine id hid).mono hev
        · obtain ⟨y, hy, -, htheme⟩ := Render.exists_of_mem_set_step hr hx
          rw [htheme]
          exact h.themed y hy
  | unmark ids tally => exact knows_of_ids_eq_nil rfl rfl
  | release n tally => exact knows_of_ids_eq_nil rfl rfl
  | done report => exact knows_of_ids_eq_nil rfl rfl

end Cycle

namespace Pact

theorem allows_of_edited {s : Setting} {w w' : World} (hw : w.page.IsNumbered)
    (h : w.page.Edited w'.page) : (Pact.pristine s).Allows w w' :=
  ⟨h.isNumbered hw, h.evolves⟩

theorem kept_pristine (s : Setting) : (Pact.pristine s).Kept where
  trans h h' := h.trans h'
  render_mono h hr := hr.mono h
  cycle_mono h hc := hc.mono h
  alike h hw := by
    refine ⟨⟨?_, ?_⟩, .of_slots_eq h.slots h.allocated⟩
    · rw [h.slots]
      exact hw.nodup
    · rw [h.slots, h.allocated]
      exact hw.le_allocated
  start hw := Cycle.knows_of_ids_eq_nil rfl rfl
  render_step {w} {r} hw hr := by
    have hedited := (r.acts s w).edited
    refine ⟨allows_of_edited hw hedited, ?_⟩
    show Page.NeverRendered _ (r.step s w).2.id
    rw [(r.id_theme_step s w).1]
    exact hr.mono hedited.evolves
  cycle_step {w} {c} part hw hc := ⟨allows_of_edited hw (c.edited_step s part w), hc.step hw part⟩
  copying_step {w} c hw := allows_of_edited hw (c.edited_step s w)
  restored {w} hw := allows_of_edited hw w.edited_restored
  arrived {w} hw := allows_of_edited hw (.refl w.page)

end Pact

end PageHighlight
