/-
  Proofs/Session/Lifecycle.lean --- when a block is replaced, and when it is put back.

  WHAT THIS FILE IS FOR.  A pristine block is rendered by a render of its number, and a
  rendered one is put back by whoever puts blocks back.  It would be in order if nothing
  else became of a block; but a render does not ask whether the block that its number
  finds is rendered (`rendered_replaced_by_rendered`).  `replaced_iff_render_succeeds` says
  what becomes of the block in a slot with anything that happens: it is replaced just if
  a render of its number succeeds, and of a rendered block only one that was called for it
  by itself does.

  GONE.  A render answers that its block is gone if no block has its number, when it begins
  or when it puts its block in; it never does so while a block has it.
-/
import PageHighlight.Proofs.Session.Turns

set_option autoImplicit false

namespace PageHighlight

/-! ## Renders that find no block -/

/-- Of a rendered block it is noted what it was: then nothing is known of a number only if
no block has it. -/
theorem Page.absent_of_capture {p : Page} {id : NodeId} (h : (p.capture id).1 = none)
    (hnoted : ∀ slot ∈ p.slots, slot.node.isRendered = true → slot.captured ≠ none) :
    ∀ n ∈ p.blocks, n.id ≠ id := by
  unfold capture at h
  split at h
  · next habsent => exact slot?_isNone_iff.1 habsent
  · next slot hslot =>
    split at h
    · cases h
    · next r hnone hcontent =>
      exact absurd hnone
        (hnoted slot (slot?_eq_some_mem hslot).1 (Node.isRendered_iff.2 ⟨r, hcontent⟩))
    · cases h

/-- A render ends with the answer that its block is gone only if no block has its number. -/
theorem Render.absent_of_gone {s : Setting} {w : World} {r : Render} (hundone : r.outcome? = none)
    (hgone : (r.step s w).2.outcome? = some (.skipped .gone))
    (hnoted : ∀ slot ∈ w.page.slots, slot.node.isRendered = true → slot.captured ≠ none) :
    ∀ n ∈ w.page.blocks, n.id ≠ r.id := by
  by_cases hwill : ∃ o block, r.WillPut s o block
  · obtain ⟨o, block, hwill⟩ := hwill
    rw [(hwill.step (w := w)).2] at hgone
    cases hnew : (w.page.replace r.id block).1 with
    | some new =>
      rw [hnew] at hgone
      cases hgone
    | none =>
      rw [Page.replace_fst, Option.map_eq_none_iff] at hnew
      exact Page.slot?_isNone_iff.1 hnew
  · obtain ⟨id, theme, stage⟩ := r
    have request : ∀ o q, outcome? ⟨id, theme, afterRequest o q⟩ = none := by
      intro o q
      cases q <;> rfl
    cases stage with
    | start =>
      cases hnone : (w.page.capture id).1 with
      | none => exact Page.absent_of_capture hnone hnoted
      | some o =>
        have hcapture : (w.write (·.capture id)).1 = some o := hnone
        simp only [step, hcapture] at hgone
        split at hgone <;> simp [outcome?] at hgone
    | asking o =>
      simp only [step, request] at hgone
      cases hgone
    | waiting o q =>
      simp only [step, request] at hgone
      cases hgone
    | answered o handle =>
      cases handle with
      | none => simp [step, outcome?] at hgone
      | some engine =>
        simp only [step] at hgone
        split at hgone
        · simp [outcome?] at hgone
        · next block hblock => exact absurd ⟨o, block, engine, rfl, hblock⟩ hwill
    | done o => cases hundone

namespace Session

variable {s : Setting} {first p : Page} {S : Session} {h : Happening} {i : Nat} {slot slot' : Slot}

/-! ## One render over a history -/

/-- An event leaves an activity at its stage, or is a step of it. -/
theorem task_apply {k : Nat} {t : Task} (ht : S.tasks[k]? = some t) (e : Event) :
    ∃ t', (S.apply e).tasks[k]? = some t' ∧
      (t'.activity = t.activity ∨
        ∃ part, t'.activity = (t.activity.step S.setting part S.world).2) := by
  have hlt : k < S.tasks.length := (List.getElem?_eq_some_iff.1 ht).1
  have same : (S.apply e).tasks = S.tasks →
      ∃ t', (S.apply e).tasks[k]? = some t' ∧ (t'.activity = t.activity ∨
        ∃ part, t'.activity = (t.activity.step S.setting part S.world).2) :=
    fun he => ⟨t, by rw [he, ht], .inl rfl⟩
  have set : ∀ {j : Nat} {u u' : Task}, S.tasks[j]? = some u →
      (S.apply e).tasks = S.tasks.set j u' →
      (u'.activity = u.activity ∨
        ∃ part, u'.activity = (u.activity.step S.setting part S.world).2) →
      ∃ t', (S.apply e).tasks[k]? = some t' ∧ (t'.activity = t.activity ∨
        ∃ part, t'.activity = (t.activity.step S.setting part S.world).2) := by
    intro j u u' hu he hu'
    by_cases hj : j = k
    · subst hj
      cases ht.symm.trans hu
      exact ⟨u', by rw [he, List.getElem?_set_self hlt], hu'⟩
    · exact ⟨t, by rw [he, List.getElem?_set_ne hj, ht], .inl rfl⟩
  cases e with
  | call c =>
    refine ⟨t, ?_, .inl rfl⟩
    exact (List.getElem?_append_left hlt).trans ht
  | proceed task part =>
    rcases S.proceed_cases task part with he | ⟨u, hu, -, he⟩
    · exact same (congrArg tasks he)
    · exact set hu (congrArg tasks he) (.inr ⟨part, rfl⟩)
  | giveUp task =>
    rcases S.giveUp_cases task with he | ⟨u, hu, -, he⟩
    · exact same (congrArg tasks he)
    · exact set hu (congrArg tasks he) (.inl rfl)
  | _ => exact same rfl

theorem task_undergo {k : Nat} {t : Task} (ht : S.tasks[k]? = some t) (x : Happening) :
    ∃ t', (S.undergo x).tasks[k]? = some t' ∧
      (t'.activity = t.activity ∨
        ∃ part, t'.activity = (t.activity.step S.setting part S.world).2) := by
  cases x with
  | event e => exact task_apply ht e
  | restore id => exact ⟨t, ht, .inl rfl⟩

/-- Of a rendered block it is noted what it was. -/
theorem IsSound.noted (hS : S.IsSound s first) :
    ∀ slot ∈ S.page.slots, slot.node.isRendered = true → slot.captured ≠ none := by
  intro slot hslot hrendered hnone
  obtain ⟨a, -, hfaithful⟩ := exists_of_mem_right_of_forall₂ hS.faithful.inv.page hslot
  obtain ⟨r, hr⟩ := Node.isRendered_iff.1 hrendered
  obtain ⟨o, ho, -⟩ := hfaithful.rendered r hr
  rw [hnone] at ho
  cases ho

/-- A render stays a render of its number.  It has answered that its block is gone only if
at some moment no block had that number. -/
theorem IsSound.absent_of_gone (hS : S.IsSound s first) {k : Nat} {t : Task} {r : Render}
    (ht : S.tasks[k]? = some t) (hr : t.activity = .render r) (hundone : r.outcome? = none)
    (mid : List Happening) :
    ∃ t' r', (S.undergoAll mid).tasks[k]? = some t' ∧ t'.activity = .render r' ∧ r'.id = r.id ∧
      (r'.outcome? = some (.skipped .gone) → ∃ early late, mid = early ++ late ∧
        ∀ n ∈ (S.undergoAll early).page.blocks, n.id ≠ r.id) := by
  induction mid using List.reverseRecOn with
  | nil =>
    refine ⟨t, r, ht, hr, rfl, fun hgone => ?_⟩
    rw [hundone] at hgone
    cases hgone
  | append_singleton mid x ih =>
    obtain ⟨t', r', ht', hr', hid, hgone'⟩ := ih
    have hsound := hS.undergoAll mid
    rw [undergoAll_snoc]
    obtain ⟨t'', ht'', hcases⟩ := task_undergo ht' x
    rw [hr'] at hcases
    rcases hcases with hsame | ⟨part, hstep⟩
    · refine ⟨t'', r', ht'', hsame, hid, fun hgone => ?_⟩
      obtain ⟨early, late, rfl, habsent⟩ := hgone' hgone
      exact ⟨early, late ++ [x], List.append_assoc early late [x], habsent⟩
    · refine ⟨t'', (r'.step (S.undergoAll mid).setting (S.undergoAll mid).world).2, ht'', hstep,
        ((r'.id_theme_step _ _).1).trans hid, fun hgone => ?_⟩
      cases hdone : r'.outcome? with
      | none =>
        refine ⟨mid, [x], rfl, ?_⟩
        rw [← hid]
        exact Render.absent_of_gone hdone hgone hsound.noted
      | some outcome =>
        -- it has answered before, and takes no step any more
        rw [Render.step_of_outcome? hdone] at hgone
        obtain ⟨early, late, rfl, habsent⟩ := hgone' hgone
        exact ⟨early, late ++ [x], List.append_assoc early late [x], habsent⟩

/-! ## What becomes of a block -/

/-- A render of the number of a block that succeeds puts a rendered block with a new number
in its place. -/
theorem Succeeds.replaces {a : Activity} {r : Render} {new : NodeId} (hr : S.Succeeds h a r new)
    (hnumbered : S.page.IsNumbered) (hid : r.id = slot.node.id)
    (hslot : S.page.slots[i]? = some slot)
    (hslot' : (S.undergo h).page.slots[i]? = some slot') :
    slot'.node.id = new ∧ new ≠ slot.node.id ∧ slot'.node.isRendered = true := by
  have hwill : ∃ o block, r.WillPut S.setting o block := by
    by_contra hnot
    exact (Render.step_of_not_willPut (fun o block h => hnot ⟨o, block, h⟩) hr.undone).2 new
      hr.answers
  obtain ⟨o, block, hwill⟩ := hwill
  have hstep := (hwill.step (w := S.world)).1
  have hblocks : (S.undergo h).page.blocks = S.page.blocks.map fun n =>
      if n.id = r.id then ⟨S.page.allocated + 1, [Page.renderedClass], .rendered block⟩ else n :=
    (congrArg Page.blocks (hr.page.trans hstep)).trans (hnumbered.blocks_replace r.id block)
  have hnode : slot'.node = ⟨S.page.allocated + 1, [Page.renderedClass], .rendered block⟩ := by
    have hat : (S.undergo h).page.blocks[i]? = some slot'.node := by
      rw [Page.blocks, List.getElem?_map, hslot']
      rfl
    have hat' : S.page.blocks[i]? = some slot.node := by
      rw [Page.blocks, List.getElem?_map, hslot]
      rfl
    rw [hblocks, List.getElem?_map, hat', Option.map_some, if_pos hid.symm] at hat
    exact (Option.some.inj hat).symm
  have hnew : new = S.page.allocated + 1 := by
    have hanswer := hwill.answers (w := S.world) (hid ▸ Page.slot?_isSome_of_getElem? hslot)
    have hsame := hr.answers.symm.trans hanswer
    cases hsame
    rfl
  have hgiven : slot.node.id ≤ S.page.allocated :=
    hnumbered.le_allocated slot (List.mem_of_getElem? hslot)
  rw [hnode, hnew]
  exact ⟨rfl, Nat.ne_of_gt (Nat.lt_succ_of_le hgiven), rfl⟩

/-- The render that replaces a rendered block was called by itself: no cycle renders one. -/
theorem Succeeds.called {a : Activity} {r : Render} {new : NodeId} (hr : S.Succeeds h a r new)
    (hrendering : (Pact.rendering s).OfSession S) (hid : r.id = slot.node.id)
    (hslot : slot ∈ S.page.slots) (hrendered : slot.node.isRendered = true) : a = .render r := by
  obtain ⟨task, part, -, htask⟩ := hr.turn
  rcases hr.rendering with his | ⟨c, hc, hmem⟩
  · cases a with
    | render r' =>
      cases his
      rfl
    | _ => cases his
  · obtain ⟨hfound, hkeeps⟩ := (hrendering.tasks _ (List.mem_of_getElem? htask)).2 c hc
    obtain ⟨ids, hids, hidmem⟩ := hkeeps r.id (Cycle.mem_ids_of_mem_renders hmem)
    have hpristine := (hfound ids hids r.id hidmem).2 slot hslot hid.symm
    rw [hrendered] at hpristine
    cases hpristine

/-- What becomes of a block, in every session with a fresh page, after every history of
cycles, renders, reactions and of blocks put back, and with everything that happens next:
it gets a new number just if a render of its number succeeds with that one, and is then
rendered; so a pristine block becomes a rendered one just by that.  A rendered block becomes
a pristine one only if it is put back, and keeps its number.  A rendered block is replaced,
too, if a render that was called for it succeeds, but never by a cycle.  And a render that
is called answers that its block is gone only if since then there was a moment in which no
block had its number. -/
theorem replaced_iff_render_succeeds (hp : p.IsFresh) (past : List Happening) :
    let S := (start s p).undergoAll past
    (∀ (h : Happening) (i : Nat) (slot slot' : Slot), S.page.slots[i]? = some slot →
      (S.undergo h).page.slots[i]? = some slot' →
      (∀ new, (slot'.node.id = new ∧ new ≠ slot.node.id) ↔
        ∃ a r, r.id = slot.node.id ∧ S.Succeeds h a r new) ∧
      (slot'.node.id ≠ slot.node.id → slot'.node.isRendered = true) ∧
      (slot.node.isRendered = false → slot'.node.isRendered = true →
        slot'.node.id ≠ slot.node.id) ∧
      (slot.node.isRendered = true → slot'.node.isRendered = false →
        S.PutsBack slot.node.id h ∧ slot'.node.id = slot.node.id) ∧
      (slot.node.isRendered = true → ∀ a r new, r.id = slot.node.id →
        S.Succeeds h a r new → a = .render r)) ∧
    ∀ (id : NodeId) (theme : Text) (mid : List Happening),
      let T := S.undergo (.event (.call (.render id theme)))
      (T.undergoAll mid).result? S.tasks.length = some (.outcome (.skipped .gone)) →
      ∃ early late, mid = early ++ late ∧ ∀ n ∈ (T.undergoAll early).page.blocks, n.id ≠ id := by
  intro S
  have hsound : S.IsSound s p := (isSound_start hp).undergoAll past
  have hrendering : (Pact.rendering s).OfSession S := rendering_undergoAll hp past
  refine ⟨?_, ?_⟩
  · intro h i slot slot' hslot hslot'
    have hturns := turns_undergo hsound.numbered h hslot hslot'
    have hreplaced : ∀ {a r new}, r.id = slot.node.id → S.Succeeds h a r new →
        slot'.node.id = new ∧ new ≠ slot.node.id ∧ slot'.node.isRendered = true :=
      fun hid hr => hr.replaces hsound.numbered hid hslot hslot'
    have hsucceeds : slot'.node.id ≠ slot.node.id →
        ∃ a r, r.id = slot.node.id ∧ S.Succeeds h a r slot'.node.id := by
      intro hne
      cases hturns with
      | stays stays => exact absurd stays.1 hne
      | renders a r its succeeds o block willPut node => exact ⟨a, r, its, succeeds⟩
      | restores puts o noted rendered node => exact absurd (by rw [node]) hne
    refine ⟨fun new => ⟨?_, ?_⟩, fun hne => ?_, fun hpristine hrendered => ?_,
      fun hrendered hpristine => ?_, fun hrendered a r new hid hr => ?_⟩
    · rintro ⟨rfl, hne⟩
      exact hsucceeds hne
    · rintro ⟨a, r, hid, hr⟩
      obtain ⟨hnew, hne, -⟩ := hreplaced hid hr
      exact ⟨hnew, hne⟩
    · obtain ⟨a, r, hid, hr⟩ := hsucceeds hne
      exact (hreplaced hid hr).2.2
    · cases hturns with
      | stays stays =>
        rw [stays.2, hpristine] at hrendered
        cases hrendered
      | renders a r its succeeds o block willPut node =>
        obtain ⟨hnew, hne, -⟩ := hreplaced its succeeds
        exact hne
      | restores puts o noted rendered node =>
        rw [hpristine] at rendered
        cases rendered
    · cases hturns with
      | stays stays =>
        rw [stays.2, hrendered] at hpristine
        cases hpristine
      | renders a r its succeeds o block willPut node =>
        rw [(hreplaced its succeeds).2.2] at hpristine
        cases hpristine
      | restores puts o noted rendered node => exact ⟨puts, by rw [node]⟩
    · exact hr.called hrendering hid (List.mem_of_getElem? hslot) hrendered
  · intro id theme mid T hgone
    have htask : T.tasks[S.tasks.length]? = some ⟨.render (.of id theme), false⟩ :=
      List.getElem?_concat_length
    have hcalled : T.IsSound s p := hsound.undergo (.event (.call (.render id theme)))
    obtain ⟨t', r', ht', hr', -, habsent⟩ := hcalled.absent_of_gone htask rfl rfl mid
    refine habsent ?_
    rw [result?, ht'] at hgone
    cases ho : r'.outcome? with
    | none => simp [hr', Activity.result?, ho] at hgone
    | some outcome =>
      have houtcome : outcome = .skipped .gone := by
        simpa [hr', Activity.result?, ho] using hgone
      rw [houtcome]

/-- A block that is rendered, and rendered again with another theme. -/
theorem replaced_iff_render_succeeds_oneBlock :
    let past : List Happening :=
      .event (.call (.render 1 "gruvbox-light".toList)) :: List.replicate 4 (.event (.proceed 0 0))
        ++ .event (.call (.render 2 "gruvbox-dark".toList)) ::
          List.replicate 2 (.event (.proceed 1 0))
    let S := (start (.forRust .plain) .oneBlock).undergoAll past
    Page.oneBlock.IsFresh ∧
    ∃ slot slot' : Slot, S.page.slots[0]? = some slot ∧
      (S.undergo (.event (.proceed 1 0))).page.slots[0]? = some slot' ∧
      slot.node.isRendered = true ∧ slot.node.id = 2 ∧
      ∃ r : Render, r.id = slot.node.id ∧ S.Succeeds (.event (.proceed 1 0)) (.render r) r 3 := by
  intro past S
  have hfresh : Page.oneBlock.IsFresh := Page.isFresh_empty.pushBlock _ _ _ _
  have hbefore : S.page.slots.map (fun s => (s.node.id, s.node.isRendered)) = [(2, true)] := by
    decide +kernel
  have hafter : (S.undergo (.event (.proceed 1 0))).page.slots.map (·.node.id) = [3] := by
    decide +kernel
  obtain ⟨slot, rest, hslots, hslot, -⟩ := List.map_eq_cons_iff.1 hbefore
  obtain ⟨slot', rest', hslots', hslot', -⟩ := List.map_eq_cons_iff.1 hafter
  obtain ⟨hid, hrendered⟩ := Prod.mk.inj hslot
  have hat : S.page.slots[0]? = some slot := by rw [hslots]; rfl
  have hat' : (S.undergo (.event (.proceed 1 0))).page.slots[0]? = some slot' := by
    rw [hslots']
    rfl
  obtain ⟨hblock, -⟩ := replaced_iff_render_succeeds hfresh past
  obtain ⟨hreplaced, -, -, -, hcalled⟩ := hblock (.event (.proceed 1 0)) 0 slot slot' hat hat'
  obtain ⟨a, r, hr, hsucceeds⟩ := (hreplaced 3).1 ⟨hslot', by rw [hid]; decide⟩
  obtain rfl := hcalled hrendered a r 3 hr hsucceeds
  exact ⟨hfresh, slot, slot', hat, hat', hrendered, hid, r, hr, hsucceeds⟩

/-- A block is rendered, and a render is called with its new number: it does not answer that
the block is gone, and puts another rendered block in its place. -/
theorem rendered_replaced_by_rendered :
    let S := (start (.forRust .plain) .oneBlock).undergoAll
      (.event (.call (.render 1 "gruvbox-light".toList)) ::
        List.replicate 4 (.event (.proceed 0 0)))
    let T := S.undergoAll (.event (.call (.render 2 "gruvbox-dark".toList)) ::
      List.replicate 3 (.event (.proceed 1 0)))
    S.page.blocks.map (fun n => (n.id, n.rendered?.map (·.theme))) =
      [(2, some "gruvbox-light".toList)] ∧
    T.result? 1 = some (.outcome (.rendered 3)) ∧
    T.page.blocks.map (fun n => (n.id, n.rendered?.map (·.theme))) =
      [(3, some "gruvbox-dark".toList)] := by
  decide +kernel

end Session

end PageHighlight
