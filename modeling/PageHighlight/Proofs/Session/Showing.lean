/-
  Proofs/Session/Showing.lean --- which themes the steps of a session show.

  WHAT THIS FILE IS FOR.  A page comes to show a theme only where a cycle that
  resolved this theme puts a block in (`Activity.shows_before`), and stops showing it
  only when every rendered block is put back (`Activity.shows_after`).  A cycle has a
  theme only because it resolved it at some time (`Activity.theme?_step`).
-/
import PageHighlight.Proofs.Page.Shown
import PageHighlight.Proofs.Session.Candidates

set_option autoImplicit false

namespace PageHighlight

variable {id : NodeId} {theme : Text}

namespace World

theorem shows_of_restored (w : World) (h : w.restored.page.Shows id theme) :
    w.page.Shows id theme := by
  rw [w.page_restored] at h
  exact Page.shows_of_restores h

/-- After every rendered block was put back nothing is shown. -/
theorem not_shows_restored {w : World} (h : w.page.IsNumbered) (hn : w.page.IsNoted) :
    ¬w.restored.page.Shows id theme := by
  rw [w.page_restored]
  exact h.not_shows_of_restores hn

end World

namespace Render

/-- A step of a render shows nothing new but its block with its theme. -/
theorem Acts.shows_before {r : Render} {w w' : World} (h : r.Acts w w')
    (hshows : w'.page.Shows id theme) :
    w.page.Shows id theme ∨ (w.page.allocated < id ∧ theme = r.theme) := by
  cases h with
  | nothing => exact .inl hshows
  | notes =>
    rcases Page.shows_of_apply (e := .capture r.id) hshows with h | ⟨-, old, block, he, -⟩
    · exact .inl h
    · cases he
  | asks engines n => exact .inl hshows
  | puts block htheme =>
    rcases Page.shows_of_apply (e := .replace r.id block) hshows with
      h | ⟨hid, old, block', he, rfl⟩
    · exact .inl h
    · cases he
      exact .inr ⟨hid ▸ Nat.lt_succ_self w.page.allocated, htheme⟩

/-- A step of a render takes no rendered block away, if its own is none. -/
theorem Acts.shows_after {r : Render} {w w' : World} (h : r.Acts w w')
    (hr : w.page.NeverRendered r.id) (hshows : w.page.Shows id theme) :
    w'.page.Shows id theme := by
  cases h with
  | nothing => exact hshows
  | notes => exact hshows.apply (e := .capture r.id) trivial
  | asks engines n => exact hshows
  | puts block htheme => exact hshows.apply (e := .replace r.id block) hr

end Render

namespace Cycle

theorem isQuiet_of_mark {e : Page.Edit} (h : ∃ id, e = .addClass id Page.loadingClass ∨
    e = .removeClass id Page.loadingClass) : e.IsQuiet := by
  obtain ⟨id, rfl | rfl⟩ := h <;> trivial

/-- A step of a cycle shows nothing new but blocks with its theme. -/
theorem shows_before (s : Setting) (part : Nat) {w : World} {c : Cycle} (hc : c.Knows w.page)
    (hshows : (c.step s part w).1.page.Shows id theme) :
    w.page.Shows id theme ∨ (w.page.allocated < id ∧ c.theme? = some theme) := by
  rcases c.page_step s part w with ⟨es, hpage, hes⟩ | ⟨r, hr, hacts⟩
  · rw [hpage, Page.shows_applyAll_iff fun e he => isQuiet_of_mark (hes e he)] at hshows
    exact .inl hshows
  · rcases hacts.shows_before hshows with h | ⟨hid, rfl⟩
    · exact .inl h
    · exact .inr ⟨hid, hc.themed r hr⟩

/-- A step of a cycle takes no rendered block away. -/
theorem shows_after (s : Setting) (part : Nat) {w : World} {c : Cycle} (hc : c.Knows w.page)
    (hshows : w.page.Shows id theme) : (c.step s part w).1.page.Shows id theme := by
  rcases c.page_step s part w with ⟨es, hpage, hes⟩ | ⟨r, hr, hacts⟩
  · rwa [hpage, Page.shows_applyAll_iff fun e he => isQuiet_of_mark (hes e he)]
  · exact hacts.shows_after (hc.pristine r.id (mem_ids_of_mem_renders hr)) hshows

end Cycle

theorem Copying.shows_step_iff (s : Setting) (w : World) (c : Copying) :
    (c.step s w).1.page.Shows id theme ↔ w.page.Shows id theme := by
  rcases c.page_step s w with h | ⟨state, h⟩
  · rw [h]
  · rw [h]
    have hquiet : ∀ e ∈ [Page.Edit.setCopyState c.id state], e.IsQuiet := by
      intro e he
      rw [List.mem_singleton.1 he]
      trivial
    exact Page.shows_applyAll_iff hquiet

namespace Activity

/-- A step of an activity shows nothing new but blocks with the theme of one of its
cycles. -/
theorem shows_before (s : Setting) (part : Nat) {w : World} {a : Activity} (hr : a.render? = none)
    (hc : ∀ c ∈ a.cycles, c.Knows w.page)
    (hshows : (a.step s part w).1.page.Shows id theme) :
    w.page.Shows id theme ∨
      (w.page.allocated < id ∧ ∃ c ∈ a.cycles, c.theme? = some theme) := by
  have hstep := stepped s part w a
  generalize (a.step s part w).1 = w' at hstep hshows
  generalize (a.step s part w).2 = a' at hstep
  cases hstep with
  | quiet world same noRender =>
    obtain ⟨n, rfl⟩ := world
    exact .inl hshows
  | begins world before after old new noRender =>
    obtain ⟨n, rfl⟩ := world
    exact .inl hshows
  | render r is =>
    rw [is] at hr
    cases hr
  | cycle c part' world replaced noRender =>
    obtain ⟨n, hn⟩ := world
    rw [hn] at hshows
    rcases Cycle.shows_before s part' (hc c replaced.mem_before) hshows with h | ⟨hid, htheme⟩
    · exact .inl h
    · exact .inr ⟨hid, c, replaced.mem_before, htheme⟩
  | restores is world old new noRender =>
    obtain ⟨n, rfl⟩ := world
    exact .inl (w.shows_of_restored hshows)
  | takes observer ticket is new noRender => exact .inl hshows
  | copies c is => exact .inl ((c.shows_step_iff s w).1 hshows)

/-- A step of an activity takes no rendered block away unless it puts all of them
back. -/
theorem shows_after (s : Setting) (part : Nat) {w : World} {a : Activity} (hr : a.render? = none)
    (hc : ∀ c ∈ a.cycles, c.Knows w.page) (hrestore : a.reaction? ≠ some .restore)
    (hshows : w.page.Shows id theme) : (a.step s part w).1.page.Shows id theme := by
  have hstep := stepped s part w a
  generalize (a.step s part w).1 = w' at hstep ⊢
  generalize (a.step s part w).2 = a' at hstep
  cases hstep with
  | quiet world same noRender =>
    obtain ⟨n, rfl⟩ := world
    exact hshows
  | begins world before after old new noRender =>
    obtain ⟨n, rfl⟩ := world
    exact hshows
  | render r is =>
    rw [is] at hr
    cases hr
  | cycle c part' world replaced noRender =>
    obtain ⟨n, hn⟩ := world
    rw [hn]
    exact Cycle.shows_after s part' (hc c replaced.mem_before) hshows
  | restores is world old new noRender => exact absurd is hrestore
  | takes observer ticket is new noRender => exact hshows
  | copies c is => exact (c.shows_step_iff s w).2 hshows

/-- A cycle of an activity has its theme since before, or has just resolved it. -/
theorem theme?_step (s : Setting) (part : Nat) (w : World) {a : Activity} (hr : a.render? = none)
    {c' : Cycle} (hc' : c' ∈ (a.step s part w).2.cycles) (htheme : c'.theme? = some theme) :
    (∃ c ∈ a.cycles, c.theme? = some theme) ∨ theme = s.config.resolveTheme w.page := by
  have hstep := stepped s part w a
  generalize (a.step s part w).1 = w' at hstep
  generalize (a.step s part w).2 = a' at hstep hc'
  cases hstep with
  | quiet world same noRender => exact .inl ⟨c', same ▸ hc', htheme⟩
  | begins world before after old new noRender =>
    rw [new] at hc'
    rw [old]
    rcases List.mem_append.1 hc' with hc' | hc'
    · exact .inl ⟨c', List.mem_append_left _ hc', htheme⟩
    · rcases List.mem_cons.1 hc' with rfl | hc'
      · cases htheme
      · exact .inl ⟨c', List.mem_append_right _ hc', htheme⟩
  | render r is =>
    rw [is] at hr
    cases hr
  | cycle c part' world replaced noRender =>
    rcases replaced.eq_or_mem_before hc' with rfl | hold
    · rcases Cycle.theme?_step s part' w c htheme with h | h
      · exact .inl ⟨c, replaced.mem_before, h⟩
      · exact .inr h
    · exact .inl ⟨c', hold, htheme⟩
  | restores is world old new noRender =>
    rw [new] at hc'
    cases hc'
  | takes observer ticket is new noRender =>
    rw [new] at hc'
    cases hc'
  | copies c is => cases hc'

end Activity

end PageHighlight
