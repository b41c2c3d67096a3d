/-
  Proofs/Session/Again.lean --- blocks that are put back and rendered again.

  WHAT THIS FILE IS FOR.  Whatever happened in a session, putting the rendered blocks
  back gives each of them the classes and the source that it had at first, under the
  number that it has (`Session.IsSound.restored`).  A cycle on a page that was put back
  therefore meets the blocks that the first cycle met, whatever happened in between: it
  picks the same ones, and renders those that the first one rendered, since what is read
  of a block does not depend on the theme (`Session.CompletedCycle.rendered_again`).
-/
import PageHighlight.Proofs.Highlight.Themes
import PageHighlight.Proofs.Session.AtWork
import PageHighlight.Proofs.Session.Completed

set_option autoImplicit false

namespace PageHighlight

/-! ## One block, in two themes -/

section

variable {s : Setting} {offers takes : Text → Text → Prop} {engine : Engine} {o : SourceBlock}
  {theme theme' : Text} {r r' : RenderedBlock}

/-- Two rendered blocks that were the same at first read the same. -/
theorem Setting.Renders.readsAs (hengine : s.loader.handle s.config = some engine)
    (he : engine.IsBuiltIn offers takes) (h : s.Renders o r) (h' : s.Renders o r') :
    r.ReadsAs r' := by
  obtain ⟨engine₁, b, hengine₁, hrender, hr⟩ := h
  obtain ⟨engine₂, b', hengine₂, hrender', hr'⟩ := h'
  cases hengine.symm.trans hengine₁
  cases hengine.symm.trans hengine₂
  obtain ⟨hdisplay, hlevels, hcopied⟩ := readsAs_of_render? he hrender hrender'
  rw [hr, hr']
  exact ⟨hdisplay, hlevels, hcopied⟩

/-- If their theme is the same and both copy controls are idle, they are the same. -/
theorem Setting.Renders.eq_of_idle (h : s.Renders o r) (h' : s.Renders o r')
    (htheme : r'.theme = r.theme) (hidle : r.copy.state = .idle) (hidle' : r'.copy.state = .idle) :
    r' = r := by
  obtain ⟨engine, b, hengine, hrender, hr⟩ := h
  obtain ⟨engine', b', hengine', hrender', hr'⟩ := h'
  cases hengine.symm.trans hengine'
  rw [htheme, hrender] at hrender'
  cases hrender'
  rw [hr, hr', hidle, hidle']

/-- What a pristine block that was picked is rendered as has the theme of the cycle and an
idle copy control. -/
theorem Setting.theme_of_fate {n : Node} {t : Text} (hn : n.content = .source t)
    (h : s.fate theme n = .rendered r) : r.theme = theme ∧ r.copy.state = .idle := by
  obtain ⟨-, engine, -, hrender⟩ := (fate_eq_rendered_iff hn).1 h
  obtain ⟨f, -, rfl⟩ := render?_eq_ok_iff.1 hrender
  exact ⟨rfl, rfl⟩

/-- A block can be rendered with one theme that is loaded if and only if it can be with
another one, whatever its number is. -/
theorem Setting.exists_fate_congr (hengine : s.loader.handle s.config = some engine)
    (he : engine.IsBuiltIn offers takes) (h : offers Language.plainText theme)
    (h' : offers Language.plainText theme') {n : Node} {t : Text} (hn : n.content = .source t)
    (id : NodeId) :
    (∃ r, s.fate theme n = .rendered r) ↔
      ∃ r, s.fate theme' { n with id := id } = .rendered r := by
  have hn' : ({ n with id := id } : Node).content = .source t := hn
  simp only [fate_eq_rendered_iff hn, fate_eq_rendered_iff hn', hengine, Option.some.injEq,
    exists_eq_left', exists_and_left, exists_render?_congr he h h']

/-- Two cycles that meet a pristine block, under any numbers, both render it or both leave
it, if their themes are loaded. -/
theorem Node.Cycled.isRendered_congr (hengine : s.loader.handle s.config = some engine)
    (he : engine.IsBuiltIn offers takes) (h : offers Language.plainText theme)
    (h' : offers Language.plainText theme') {bound bound' : Nat} {n₀ n₁ n₂ n₃ : Node}
    (hpristine : n₀.isRendered = false) (hsame : n₂ = { n₀ with id := n₂.id })
    (hcycled : n₀.Cycled s theme bound n₁) (hcycled' : n₂.Cycled s theme' bound' n₃) :
    n₃.isRendered = n₁.isRendered := by
  obtain ⟨t, ht⟩ := exists_source hpristine
  have hpristine' : n₂.isRendered = false := by
    rw [hsame]
    exact hpristine
  have hcandidate : s.config.isCandidate n₂ = s.config.isCandidate n₀ := by
    rw [hsame]
    rfl
  have hfates : (∃ r, s.fate theme n₀ = .rendered r) ↔ ∃ r, s.fate theme' n₂ = .rendered r := by
    rw [hsame]
    exact s.exists_fate_congr hengine he h h' ht n₂.id
  rw [Bool.eq_iff_iff, isRendered_iff, isRendered_iff]
  simp only [hcycled.content_eq_iff hpristine, hcycled'.content_eq_iff hpristine',
    exists_and_left, hcandidate, hfates]

end

/-! ## A page that was put back -/

/-- What a slot holds when its block is put back. -/
theorem Slot.Faithful.putBack_eq {s : Setting} {first slot : Slot} (h : Faithful s first slot)
    (hclean : first.node.hasClass Page.loadingClass = false) :
    slot.putBack =
      if slot.node.isRendered then { slot with node := { first.node with id := slot.node.id } }
      else slot := by
  cases hr : slot.node.isRendered with
  | false => exact putBack_of_pristine hr
  | true =>
    obtain ⟨r, hcontent⟩ := Node.isRendered_iff.1 hr
    obtain ⟨o, ho, -⟩ := h.rendered r hcontent
    obtain ⟨t, ht, rfl⟩ := h.captured o ho
    have hclasses : (Page.sourceBlockOf first.node.classes t).classes = first.node.classes :=
      Node.lastingClasses_of_unmarked hclean
    have hnode : first.node = ⟨first.node.id, first.node.classes, .source t⟩ := by rw [← ht]
    simp only [putBack, ho, hr, if_true, hclasses]
    rw [hnode]
    rfl

namespace Session

variable {s : Setting} {first : Page} {S : Session}

/-- Putting the rendered blocks back is putting back each of them. -/
theorem IsSound.slots_restored (h : S.IsSound s first) :
    (S.apply .restoreAll).page.slots = S.page.slots.map Slot.putBack :=
  Page.IsNumbered.slots_restoreBlocks h.faithful.inv.numbered

/-- Putting the rendered blocks back gives each of them what it had at first, under the number
that it has, leaves the others, and says how many were rendered. -/
theorem IsSound.restored (h : S.IsSound s first)
    (hclean : ∀ n ∈ first.blocks, n.hasClass Page.loadingClass = false) :
    S.world.shared.restoreAll.1 = S.page.blocks.countP (·.isRendered) ∧
      ∀ (i : Nat) (original slot : Slot), first.slots[i]? = some original →
        S.page.slots[i]? = some slot →
        (S.apply .restoreAll).page.slots[i]? = some
          (if slot.node.isRendered then
            { slot with node := { original.node with id := slot.node.id } } else slot) := by
  have hnumbered : S.page.IsNumbered := h.faithful.inv.numbered
  have hpage : Page.Faithful s first S.page := h.faithful.inv.page
  constructor
  · refine hnumbered.count_restoreBlocks fun slot hslot hr => ?_
    obtain ⟨original, -, hfaithful⟩ := exists_of_mem_right_of_forall₂ hpage hslot
    obtain ⟨r, hcontent⟩ := Node.isRendered_iff.1 hr
    obtain ⟨o, ho, -⟩ := hfaithful.rendered r hcontent
    exact Option.isSome_iff_exists.2 ⟨o, ho⟩
  · intro i original slot horiginal hslot
    obtain ⟨original', horiginal', hfaithful⟩ := forall₂_getElem? hpage hslot
    cases horiginal.symm.trans horiginal'
    have hmem : original.node ∈ first.blocks := Page.node_mem_blocks horiginal
    rw [h.slots_restored, List.getElem?_map, hslot, Option.map_some,
      hfaithful.putBack_eq (hclean _ hmem)]

/-- No block of a page that was put back is rendered. -/
theorem IsSound.pristine_restored (h : S.IsSound s first)
    (hclean : ∀ n ∈ first.blocks, n.hasClass Page.loadingClass = false) (hp : first.IsFresh) :
    ∀ n ∈ (S.apply .restoreAll).page.blocks, n.isRendered = false := by
  intro n hn
  obtain ⟨slot', hslot', rfl⟩ := List.mem_map.1 hn
  rw [h.slots_restored] at hslot'
  obtain ⟨slot, hslot, rfl⟩ := List.mem_map.1 hslot'
  obtain ⟨original, horiginal, hfaithful⟩ :=
    exists_of_mem_right_of_forall₂ h.faithful.inv.page hslot
  rw [hfaithful.putBack_eq (hclean _ (List.mem_map_of_mem horiginal))]
  split
  · obtain ⟨t, ht⟩ := hp.pristine original horiginal
    simp [Node.isRendered, Node.rendered?, ht]
  · next hr => simpa using hr

/-- Two rendered blocks of one slot were the same at first. -/
theorem IsSound.exists_renders {T : Session} (hS : S.IsSound s first) (hT : T.IsSound s first)
    {i : Nat} {slot slot' : Slot} (hslot : S.page.slots[i]? = some slot)
    (hslot' : T.page.slots[i]? = some slot') {r r' : RenderedBlock}
    (hr : slot.node.content = .rendered r) (hr' : slot'.node.content = .rendered r') :
    ∃ o, s.Renders o r ∧ s.Renders o r' := by
  obtain ⟨a, ha, hfaithful⟩ := forall₂_getElem? hS.faithful.inv.page hslot
  obtain ⟨a', ha', hfaithful'⟩ := forall₂_getElem? hT.faithful.inv.page hslot'
  cases ha.symm.trans ha'
  obtain ⟨o, ho, hrenders⟩ := hfaithful.rendered r hr
  obtain ⟨o', ho', hrenders'⟩ := hfaithful'.rendered r' hr'
  obtain ⟨t, ht, rfl⟩ := hfaithful.captured o ho
  obtain ⟨t', ht', rfl⟩ := hfaithful'.captured o' ho'
  cases ht.symm.trans ht'
  exact ⟨_, hrenders, hrenders'⟩

/-! ## Rendering again -/

namespace CompletedCycle

variable {task task' : Nat} {mid rest mid' rest' : List Event} {report report' : Report}

/-- What a cycle left of a slot. -/
theorem exists_cycled (h : CompletedCycle s S task mid rest report) {i : Nat} {slot' : Slot}
    (hslot' : (S.after (.proceed task 0 :: mid ++ .proceed task 0 :: rest)).page.slots[i]? =
      some slot') :
    ∃ slot, S.page.slots[i]? = some slot ∧
      slot.node.Cycled s (s.config.resolveTheme (S.after (.proceed task 0 :: mid)).page)
        S.page.allocated slot'.node := by
  obtain ⟨slot, hslot, hcycled⟩ := forall₂_getElem? h.slots hslot'
  exact ⟨slot, hslot, hcycled.node⟩

/-- Blocks that are put back after a cycle are what they were at first, and are rendered
again.  A session with a fresh page without marks has an engine that is built in.  A cycle
ran to its end in it, with a theme that is loaded, and after any other events, such as
copies, the rendered blocks are put back, however they came to be rendered: each of them has
the classes and the source that it had at first, under the number that it had while it was
rendered, and as many were put back as there were.  Then another cycle runs to its end, with
a theme that is loaded, too, after events that leave the blocks alone, such as changes of the
root element or of what the reader prefers.  It renders the blocks that the first cycle
rendered, and no other ones that the first cycle found pristine; they read the same as before
they were put back, and they have its theme; and those that had this theme and an idle copy
control are the very same. -/
theorem rendered_again {p : Page} (hp : p.IsFresh)
    (hclean : ∀ n ∈ p.blocks, n.hasClass Page.loadingClass = false)
    {offers takes : Text → Text → Prop} {engine : Engine}
    (hengine : s.loader.handle s.config = some engine) (hbuiltIn : engine.IsBuiltIn offers takes)
    (past between later : List Event) :
    let S := (start s p).after past
    let S₁ := S.after (.proceed task 0 :: mid ++ .proceed task 0 :: rest)
    let T := S₁.after between
    let S₂ := (T.apply .restoreAll).after later
    let S₃ := S₂.after (.proceed task' 0 :: mid' ++ .proceed task' 0 :: rest')
    let theme := s.config.resolveTheme (S.after (.proceed task 0 :: mid)).page
    let theme' := s.config.resolveTheme (S₂.after (.proceed task' 0 :: mid')).page
    CompletedCycle s S task mid rest report → offers Language.plainText theme →
    S₂.page.blocks = (T.apply .restoreAll).page.blocks →
    CompletedCycle s S₂ task' mid' rest' report' → offers Language.plainText theme' →
    (T.world.shared.restoreAll.1 = T.page.blocks.countP (·.isRendered) ∧
      ∀ (i : Nat) (original slot : Slot), p.slots[i]? = some original →
        T.page.slots[i]? = some slot →
        (T.apply .restoreAll).page.slots[i]? = some
          (if slot.node.isRendered then
            { slot with node := { original.node with id := slot.node.id } } else slot)) ∧
    ∀ (i : Nat) (slot₀ slot₁ slot₃ : Slot), S.page.slots[i]? = some slot₀ →
      S₁.page.slots[i]? = some slot₁ → S₃.page.slots[i]? = some slot₃ →
      (slot₀.node.isRendered = false →
        slot₃.node.isRendered = slot₁.node.isRendered ∧
          ∀ r, slot₁.node.content = .rendered r → r.theme = theme) ∧
      ∀ (slot : Slot) (r r' : RenderedBlock), T.page.slots[i]? = some slot →
        slot.node.content = .rendered r → slot₃.node.content = .rendered r' →
        r.ReadsAs r' ∧ r'.theme = theme' ∧
          (r.theme = theme' → r.copy.state = .idle → r' = r) := by
  intro S S₁ T S₂ S₃ theme theme' h hoffers hblocks h' hoffers'
  have hS : S.IsSound s p := (isSound_start hp).after past
  have hT : T.IsSound s p := (hS.after _).after between
  have hS₂ : S₂.IsSound s p := (hT.apply .restoreAll).after later
  have hS₃ : S₃.IsSound s p := hS₂.after _
  refine ⟨hT.restored hclean, fun i slot₀ slot₁ slot₃ hslot₀ hslot₁ hslot₃ => ?_⟩
  obtain ⟨_, hfirst, hcycled⟩ := h.exists_cycled hslot₁
  cases hslot₀.symm.trans hfirst
  obtain ⟨slot₂, hslot₂, hcycled'⟩ := h'.exists_cycled hslot₃
  have hpristine₂ : slot₂.node.isRendered = false := by
    refine hT.pristine_restored hclean hp _ ?_
    rw [← hblocks]
    exact Page.node_mem_blocks hslot₂
  obtain ⟨t, ht⟩ := Node.exists_source hpristine₂
  refine ⟨fun hpristine₀ => ⟨?_, fun r hr => ?_⟩, fun slot r r' hslot hr hr' => ?_⟩
  · -- the second cycle meets the block that the first one met
    have hsame : slot₂.node = { slot₀.node with id := slot₂.node.id } :=
      hS.alike hS₂ hslot₀ hslot₂ hpristine₀ hpristine₂
        (h.unmarked _ (Page.node_mem_blocks hslot₀)) (h'.unmarked _ (Page.node_mem_blocks hslot₂))
    exact hcycled.isRendered_congr hengine hbuiltIn hoffers hoffers' hpristine₀ hsame hcycled'
  · obtain ⟨t₀, ht₀⟩ := Node.exists_source hpristine₀
    exact (s.theme_of_fate ht₀ ((hcycled.content_eq_iff hpristine₀ r).1 hr).2).1
  · obtain ⟨htheme, hidle⟩ := s.theme_of_fate ht ((hcycled'.content_eq_iff hpristine₂ r').1 hr').2
    obtain ⟨o, hrenders, hrenders'⟩ := hT.exists_renders hS₃ hslot hslot₃ hr hr'
    exact ⟨hrenders.readsAs hengine hbuiltIn hrenders', htheme,
      fun hsame hidle₀ => hrenders.eq_of_idle hrenders' (htheme.trans hsame.symm) hidle₀ hidle⟩

/-- A block of Rust code is rendered on a light page, copied, put back, and rendered again
when the page is dark. -/
theorem rendered_again_oneBlock :
    let s := Setting.forRust .plain
    let copied : List Event := .call (.copying 2 ⟨false, false⟩) :: List.replicate 3 (.proceed 1 0)
    let dark : List Event := [.setRootClass "navy".toList true, .call .cycle]
    let rest := List.replicate 8 (.proceed 0 0)
    let rest' := List.replicate 8 (.proceed 2 0)
    let S := (start s .oneBlock).after [.call .cycle]
    let T := (S.after (.proceed 0 0 :: [] ++ .proceed 0 0 :: rest)).after copied
    let S₂ := (T.apply .restoreAll).after dark
    let S₃ := S₂.after (.proceed 2 0 :: [] ++ .proceed 2 0 :: rest')
    let report := Report.completed 1 ⟨1, 0, 0⟩
    CompletedCycle s S 0 [] rest report ∧ CompletedCycle s S₂ 2 [] rest' report ∧
      T.world.shared.restoreAll.1 = 1 ∧
      ∃ (slot slot' : Slot) (r r' : RenderedBlock), T.page.slots[0]? = some slot ∧
        S₃.page.slots[0]? = some slot' ∧ slot.node.content = .rendered r ∧
        slot'.node.content = .rendered r' ∧ r'.theme = "gruvbox-dark".toList ∧ r.ReadsAs r' := by
  intro s copied dark rest rest' S T S₂ S₃ report
  have hfresh : Page.oneBlock.IsFresh := Page.isFresh_empty.pushBlock _ _ _ _
  have h : CompletedCycle s S 0 [] rest report :=
    of_steps ⟨_, [], hfresh, rfl⟩ (by decide +kernel) rfl rfl (by decide +kernel)
      (by decide +kernel)
  have h' : CompletedCycle s S₂ 2 [] rest' report := by
    refine of_steps (T := (T.apply .restoreAll).apply (.setRootClass "navy".toList true))
      ⟨_, [.call .cycle] ++ (.proceed 0 0 :: [] ++ .proceed 0 0 :: rest) ++ copied ++
        [.restoreAll, .setRootClass "navy".toList true], hfresh, ?_⟩ (by decide +kernel)
      (by decide +kernel) (by decide +kernel) (by decide +kernel) (by decide +kernel)
    simp only [T, S, after_append, after_cons, after_nil]
  have hlight : s.config.resolveTheme (S.after (.proceed 0 0 :: [])).page =
      "gruvbox-light".toList := by decide +kernel
  have hdark : s.config.resolveTheme (S₂.after (.proceed 2 0 :: [])).page =
      "gruvbox-dark".toList := by decide +kernel
  have hloaded : ∀ name ∈ ["gruvbox-light".toList, "gruvbox-dark".toList],
      name ∈ s.config.themesToLoad ∧ (Theme.named? name).isSome = true := by decide +kernel
  have hblocks : S₂.page.blocks = (T.apply .restoreAll).page.blocks := by decide +kernel
  obtain ⟨⟨hcount, -⟩, hslots⟩ := rendered_again hfresh (by decide +kernel) rfl (.plain _)
    [.call .cycle] copied dark h (hloaded _ (by rw [hlight]; exact List.mem_cons_self)) hblocks h'
    (hloaded _ (by rw [hdark]; exact List.mem_cons_of_mem _ List.mem_cons_self))
  have hone : T.page.blocks.countP (·.isRendered) = 1 := by decide +kernel
  have hslot : ∀ P : Page, P.slots.length = 1 → ∃ slot, P.slots[0]? = some slot ∧
      slot.node ∈ P.blocks := fun P hP =>
    have hlt : 0 < P.slots.length := hP ▸ Nat.zero_lt_one
    ⟨_, List.getElem?_eq_getElem hlt, List.mem_map_of_mem (List.getElem_mem hlt)⟩
  obtain ⟨slot₀, hslot₀, -⟩ := hslot S.page (by decide +kernel)
  obtain ⟨slot₁, hslot₁, -⟩ := hslot (S.after (.proceed 0 0 :: [] ++ .proceed 0 0 :: rest)).page
    (by decide +kernel)
  obtain ⟨slot, hslotT, hmem⟩ := hslot T.page (by decide +kernel)
  obtain ⟨slot₃, hslot₃, hmem₃⟩ := hslot S₃.page (by decide +kernel)
  have hrendered : ∀ n ∈ T.page.blocks, n.isRendered = true := by decide +kernel
  have hrendered₃ : ∀ n ∈ S₃.page.blocks, n.isRendered = true := by decide +kernel
  obtain ⟨r, hr⟩ := Node.isRendered_iff.1 (hrendered _ hmem)
  obtain ⟨r', hr'⟩ := Node.isRendered_iff.1 (hrendered₃ _ hmem₃)
  obtain ⟨hreads, htheme, -⟩ :=
    (hslots 0 slot₀ slot₁ slot₃ hslot₀ hslot₁ hslot₃).2 slot r r' hslotT hr hr'
  refine ⟨h, h', ?_, slot, slot₃, r, r', hslotT, hslot₃, hr, hr', htheme.trans hdark, hreads⟩
  rw [← hone]
  simp only [T, S, hcount]

end CompletedCycle

end Session

end PageHighlight
