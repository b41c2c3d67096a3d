/-
  Proofs/Session/Edits.lean --- what the steps of a session do to the page, as edits.

  WHAT THIS FILE IS FOR.  A cycle marks its candidates and takes the marks off again,
  a restore puts every rendered block back, a copy shows that it copied.  Each of
  these is a list of edits of the page, so that whatever every edit keeps is kept by
  them.
-/
import PageHighlight.Proofs.Page.Identity
import PageHighlight.Proofs.Session.Step

set_option autoImplicit false

namespace PageHighlight

/-- The rendered blocks of a page are put back, one after another. -/
theorem SharedPage.page_restoreBlocks (p : Page) :
    (restoreBlocks p).2 =
      Page.Edit.applyAll (((p.blocks.filter (·.isRendered)).map (·.id)).map .restore) p := by
  simp only [restoreBlocks]
  generalize (p.blocks.filter (·.isRendered)).map (·.id) = ids
  generalize 0 = n
  induction ids generalizing n p with
  | nil => rfl
  | cons id ids ih => exact ih (p.restore id).2 _

namespace World

theorem page_restored (w : World) :
    w.restored.page =
      Page.Edit.applyAll (((w.page.blocks.filter (·.isRendered)).map (·.id)).map .restore)
        w.page :=
  SharedPage.page_restoreBlocks w.shared.page

theorem edited_restored (w : World) : w.page.Edited w.restored.page := ⟨_, w.page_restored⟩

end World

namespace Render

theorem Acts.edited {r : Render} {w w' : World} (h : r.Acts w w') : w.page.Edited w'.page := by
  cases h with
  | nothing => exact .refl w.page
  | notes => exact .apply (.capture r.id) w.page
  | asks engines n => exact .refl w.page
  | puts block theme => exact .apply (.replace r.id block) w.page

end Render

namespace Cycle

theorem page_markAll (ids : List NodeId) (p : Page) :
    (markAll ids p).2 = Page.Edit.applyAll (ids.map (.addClass · Page.loadingClass)) p := by
  simp only [markAll, Page.Edit.applyAll, List.foldl_map]
  rfl

theorem page_unmarkAll (ids : List NodeId) (p : Page) :
    (unmarkAll ids p).2 = Page.Edit.applyAll (ids.map (.removeClass · Page.loadingClass)) p := by
  simp only [unmarkAll, Page.Edit.applyAll, List.foldl_map]
  rfl

/-- The renders of the next batch have not begun; the cycle keeps its theme. -/
theorem renders_next (b : Batches) {r : Render} (hr : r ∈ b.next.renders) :
    ∃ ids rest, b.rest = ids :: rest ∧ r.id ∈ ids ∧ r = Render.of r.id b.theme := by
  unfold Batches.next at hr
  cases hrest : b.rest with
  | nil =>
    rw [hrest] at hr
    cases hr
  | cons ids rest =>
    rw [hrest] at hr
    obtain ⟨id, hid, rfl⟩ := List.mem_map.1 hr
    exact ⟨ids, rest, rfl, hid, rfl⟩

/-- A step of a cycle adds and removes marks, or is a step of one of its renders. -/
theorem page_step (s : Setting) (part : Nat) (w : World) (c : Cycle) :
    (∃ es, (c.step s part w).1.page = Page.Edit.applyAll es w.page ∧
      ∀ e ∈ es, ∃ id, e = .addClass id Page.loadingClass ∨ e = .removeClass id Page.loadingClass) ∨
    (∃ r ∈ c.renders, r.Acts w (c.step s part w).1) := by
  have hacts := c.acts s part w
  generalize (c.step s part w).1 = w' at hacts ⊢
  cases hacts with
  | flags running => exact .inl ⟨[], rfl, List.forall_mem_nil _⟩
  | marks theme ids is =>
    refine .inl ⟨_, page_markAll ids w.page, fun e he => ?_⟩
    obtain ⟨id, -, rfl⟩ := List.mem_map.1 he
    exact ⟨id, .inl rfl⟩
  | unmarks ids tally is =>
    refine .inl ⟨_, page_unmarkAll ids w.page, fun e he => ?_⟩
    obtain ⟨id, -, rfl⟩ := List.mem_map.1 he
    exact ⟨id, .inr rfl⟩
  | renders r mem => exact .inr ⟨r, mem, r.acts s w⟩

theorem edited_step (s : Setting) (part : Nat) (w : World) (c : Cycle) :
    w.page.Edited (c.step s part w).1.page := by
  rcases c.page_step s part w with ⟨es, h, -⟩ | ⟨r, -, h⟩
  · exact ⟨es, h⟩
  · exact h.edited

end Cycle

namespace Copying

/-- A step of a copy changes nothing of the page but what a control shows. -/
theorem page_step (s : Setting) (w : World) (c : Copying) :
    (c.step s w).1.page = w.page ∨
      ∃ state, (c.step s w).1.page = (Page.Edit.setCopyState c.id state).apply w.page := by
  unfold step
  split
  · split <;> exact .inl rfl
  · exact .inl rfl
  · exact .inr ⟨.copied, rfl⟩
  · exact .inr ⟨.idle, rfl⟩
  · exact .inl rfl

theorem edited_step (s : Setting) (w : World) (c : Copying) :
    w.page.Edited (c.step s w).1.page := by
  rcases c.page_step s w with h | ⟨state, h⟩
  · exact ⟨[], h⟩
  · exact ⟨[.setCopyState c.id state], h⟩

theorem engines_step (s : Setting) (w : World) (c : Copying) :
    (c.step s w).1.engines = w.engines ∧ (c.step s w).1.running = w.running := by
  unfold step
  split
  · split <;> exact ⟨rfl, rfl⟩
  all_goals exact ⟨rfl, rfl⟩

end Copying

namespace Activity

/-- A step of an activity does nothing to the page but edits. -/
theorem edited_step (s : Setting) (part : Nat) (w : World) (a : Activity) :
    w.page.Edited (a.step s part w).1.page := by
  have ticketed : ∀ {w' w'' : World}, w'.Ticketed w'' → w.page.Edited w'.page →
      w.page.Edited w''.page := by
    rintro w' w'' ⟨n, rfl⟩ h
    exact h
  have hstep := stepped s part w a
  generalize (a.step s part w).1 = w' at hstep ⊢
  generalize (a.step s part w).2 = a' at hstep
  cases hstep with
  | quiet world same noRender => exact ticketed world (.refl w.page)
  | begins world before after old new noRender => exact ticketed world (.refl w.page)
  | render r is => exact (r.acts s w).edited
  | cycle c part' world replaced noRender => exact ticketed world (c.edited_step s part' w)
  | restores is world old new noRender => exact ticketed world w.edited_restored
  | takes observer ticket is new noRender => exact .refl w.page
  | copies c is => exact c.edited_step s w

end Activity

end PageHighlight
