/-
  Proofs/Session/AtWork.lean --- the cycle at work, and the blocks that carry its mark.

  WHAT THIS FILE IS FOR.  Cycles of any number of activities take turns, and blocks are
  rendered, put back and copied besides.  As long as no cycle is given up while it is at
  work, the blocks with a mark are those that the cycle at work marked
  (`Session.Marked`), so that there are none when the flag is not set.

  THE CYCLE OF A MARK.  `Session.StaysAtWork` says that a call looked at the page and that
  the flag was set ever since; then it is the cycle at work, and the candidates it holds
  are those of the page that it looked at (`StaysAtWork.found?`).
-/
import Mathlib.Data.List.Induction
import PageHighlight.Proofs.Session.Marks

set_option autoImplicit false

namespace PageHighlight

/-! ## Blocks at two moments -/

namespace Node

theorem exists_source {n : Node} (h : n.isRendered = false) : ∃ t, n.content = .source t := by
  cases hn : n.content with
  | source t => exact ⟨t, rfl⟩
  | rendered r =>
    rw [isRendered_iff.2 ⟨r, hn⟩] at h
    cases h

theorem lastingClasses_of_unmarked {n : Node} (h : n.hasClass Page.loadingClass = false) :
    Page.lastingClasses n.classes = n.classes :=
  congrArg classes (withoutClass_of_not_hasClass h)

end Node

namespace Language

/-- A mark says no language. -/
theorem tagOfClasses?_lastingClasses (classes : List Text) :
    tagOfClasses? (Page.lastingClasses classes) = tagOfClasses? classes := by
  unfold tagOfClasses? Page.lastingClasses
  induction classes with
  | nil => rfl
  | cons c classes ih =>
    rw [List.filter_cons]
    by_cases hc : c = Page.loadingClass
    · subst hc
      have hnone : classTag? Page.loadingClass = none := by decide +kernel
      simpa [hnone] using ih
    · rw [if_pos (by simpa using hc), List.findSome?_cons, List.findSome?_cons, ih]

end Language

/-- Two blocks with one number were in one slot. -/
theorem Page.Evolves.exists_slots {p p' : Page} (h : p.Evolves p') (hp : p.IsNumbered) {n n' : Node}
    (hn : n ∈ p.blocks) (hn' : n' ∈ p'.blocks) (hid : n'.id = n.id) :
    ∃ (i : Nat) (slot slot' : Slot), p.slots[i]? = some slot ∧ p'.slots[i]? = some slot' ∧
      slot.node = n ∧ slot'.node = n' := by
  obtain ⟨slot', hslot', rfl⟩ := List.mem_map.1 hn'
  obtain ⟨i, hi⟩ := List.mem_iff_getElem?.1 hslot'
  obtain ⟨slot, hslot, hevolves⟩ := forall₂_getElem? h.slots hi
  have hmem : slot.node ∈ p.blocks := Page.node_mem_blocks hslot
  refine ⟨i, slot, slot', hslot, hi, ?_, rfl⟩
  rcases hevolves.identity with ⟨hsame, -⟩ | hnew
  · exact hp.eq_of_id_eq hmem hn (hsame.symm.trans hid)
  · obtain ⟨m, hm, rfl⟩ := List.mem_map.1 hn
    rw [hid] at hnew
    exact absurd (hp.le_allocated m hm) (Nat.not_le.2 hnew)

/-! ## The marks of a session -/

namespace Cycle.Replaced

variable {cs cs' : List Cycle} {c c' : Cycle}

/-- What the cycles of the list have marked, before and afterwards: what one of them has,
and what the others have. -/
theorem mem_marked (h : Replaced cs c c' cs') :
    ∃ before after, cs = before ++ c :: after ∧ ∀ id,
      (id ∈ cs.flatMap marked ↔ id ∈ c.marked ∨ id ∈ (before ++ after).flatMap marked) ∧
      (id ∈ cs'.flatMap marked ↔ id ∈ c'.marked ∨ id ∈ (before ++ after).flatMap marked) := by
  have split : ∀ (before after : List Cycle) (c : Cycle) (id : NodeId),
      id ∈ (before ++ c :: after).flatMap marked ↔
        id ∈ c.marked ∨ id ∈ (before ++ after).flatMap marked := by
    intro before after c id
    simp only [List.flatMap_append, List.flatMap_cons, List.mem_append]
    tauto
  obtain ⟨before, after, hold, rfl | ⟨hended, rfl⟩⟩ := h
  · exact ⟨before, after, hold, fun id => ⟨hold ▸ split before after c id, split _ _ _ _⟩⟩
  · refine ⟨before, after, hold, fun id => ⟨hold ▸ split before after c id, ?_⟩⟩
    rw [marked_of_report? hended]
    simp

end Cycle.Replaced

namespace Session

/-- What every history keeps of a session with a fresh page. -/
structure IsSound (s : Setting) (first : Page) (S : Session) : Prop where
  faithful : (Pact.faithful s first).OfSession S
  found : (Pact.found s).OfSession S
  single : S.IsSingleFlight

/-- An event gives up no cycle that is at work. -/
def Spares (S : Session) (e : Event) : Prop :=
  ∀ task t, e = .giveUp task → S.tasks[task]? = some t → t.activeCycles = 0

/-- In a history, no cycle is given up while it is at work. -/
def DropsNoCycle (S : Session) (es : List Event) : Prop :=
  ∀ before e after, es = before ++ e :: after → (S.after before).Spares e

/-- The blocks with a mark are those that cycles marked and did not unmark. -/
def Marked (S : Session) : Prop := S.page.Marks (S.cycles.flatMap Cycle.marked)

variable {s : Setting} {first p : Page} {S : Session} {task part : Nat}

theorem isSound_start (hp : p.IsFresh) : (start s p).IsSound s p where
  faithful := ofSession_start hp
  found := ⟨rfl, hp.numbered, fun t ht => by cases ht⟩
  single := singleFlight_start s p

theorem IsSound.apply (h : S.IsSound s first) (e : Event) : (S.apply e).IsSound s first where
  faithful := ((Pact.kept_faithful s first).apply h.faithful (admits_faithful s first e)).1
  found := ((Pact.kept_found s).apply h.found (Pact.admits_found s e)).1
  single := singleFlight_apply h.single e

theorem IsSound.after (h : S.IsSound s first) (es : List Event) :
    (S.after es).IsSound s first := by
  induction es generalizing S with
  | nil => exact h
  | cons e es ih => exact ih (h.apply e)

theorem IsSound.evolves (h : S.IsSound s first) (es : List Event) :
    S.page.Evolves (S.after es).page :=
  ((Pact.kept_faithful s first).after h.faithful es fun e _ => admits_faithful s first e).2

/-- The candidates of a cycle are not rendered. -/
theorem IsSound.neverRendered (h : S.IsSound s first) {c : Cycle} (hc : c ∈ S.cycles)
    {ids : List NodeId} (hids : c.found? = some ids) : ∀ id ∈ ids, S.page.NeverRendered id := by
  obtain ⟨t, ht, hct⟩ := List.mem_flatMap.1 hc
  refine (h.found.tasks t ht).2 c ?_ ids hids
  rw [Task.cycles] at hct
  split at hct
  · cases hct
  · exact hct

theorem marked_start (hp : p.IsFresh)
    (hclean : ∀ n ∈ p.blocks, n.hasClass Page.loadingClass = false) : (start s p).Marked where
  numbered := hp.numbered
  notes slot hslot o ho := by
    rw [hp.uncaptured slot hslot] at ho
    cases ho
  pristine id hid := by cases hid
  marked n hn := by
    rw [hclean n hn]
    exact ⟨fun h => Bool.noConfusion h, fun h => nomatch h⟩

/-- Every event that gives up no cycle at work keeps the marks in order. -/
theorem Marked.apply (h : S.Marked) (hS : S.IsSound s first) {e : Event} (he : S.Spares e) :
    (S.apply e).Marked := by
  unfold Marked at h ⊢
  cases S.moves e with
  | aside cycles p page slots allocated =>
    refine ((h.editedAside page).of_slots_eq slots allocated).congr fun id => ?_
    simp only [List.mem_flatMap]
    refine ⟨fun ⟨c, hc, hid⟩ => ?_, fun ⟨c, hc, hid⟩ => ⟨c, cycles.kept c hc, hid⟩⟩
    rcases cycles.new c hc with hc | rfl
    · exact ⟨c, hc, hid⟩
    · cases hid
  | step task part k c is call world cycles =>
    obtain ⟨before, after, hold, hmarked⟩ := cycles.mem_marked
    rw [show (S.apply e).page = (c.step S.setting k S.world).1.page from world.page]
    by_cases hactive : c.isActive = true
    · -- the others have marked nothing, since one cycle at most is at work
      have hothers : ∀ id, id ∉ (before ++ after).flatMap Cycle.marked := by
        intro id hid
        obtain ⟨x, hx, hid⟩ := List.mem_flatMap.1 hid
        have hnot := hS.single.not_isActive_others hold hactive hx
        rw [Cycle.isActive_of_mem_marked hid] at hnot
        cases hnot
      have hc : S.page.Marks c.marked :=
        h.congr fun id => ((hmarked id).1.trans (or_iff_left (hothers id))).symm
      have hfound : ∀ ids, c.found? = some ids → ∀ id ∈ ids, S.page.NeverRendered id :=
        fun _ hids => hS.neverRendered call.mem_cycles hids
      exact (Cycle.marks_step k hc hfound).congr fun id =>
        (hmarked id).2.trans (or_iff_left (hothers id))
    · rw [Bool.not_eq_true] at hactive
      obtain ⟨hpage, hnext⟩ := Cycle.step_of_not_isActive S.setting k S.world hactive
      have hnext' : (c.step S.setting k S.world).2.marked = [] := by
        rcases hnext with hnext | ⟨hnext, -⟩
        · exact Cycle.marked_of_not_isActive hnext
        · rw [hnext]
          rfl
      rw [hpage]
      exact h.congr fun id => by
        rw [(hmarked id).1, (hmarked id).2, hnext', Cycle.marked_of_not_isActive hactive]
  | drops task t is known live kept old page =>
    rw [page]
    refine h.congr fun id => ?_
    simp only [List.mem_flatMap]
    refine ⟨fun ⟨c, hc, hid⟩ => ⟨c, old c hc, hid⟩, fun ⟨c, hc, hid⟩ => ?_⟩
    rcases kept c hc with hc | hc
    · exact ⟨c, hc, hid⟩
    · have hzero := he task t is known
      rw [Task.activeCycles, live] at hzero
      have hnot := List.countP_eq_zero.1 hzero c hc
      exact absurd (Cycle.isActive_of_mem_marked hid) hnot

/-! ### The cycle of a mark -/

/-- A call is about to look at the page, and the flag is set from then on, to the end of a
history. -/
structure StaysAtWork (S : Session) (task part : Nat) (mid : List Event) : Prop where
  looks : S.CallAt task part .survey
  running : ∀ early, early <+: mid →
    (S.after (.proceed task part :: early)).world.running = true

theorem DropsNoCycle.of_append {es es' : List Event} (h : S.DropsNoCycle (es ++ es')) :
    S.DropsNoCycle es := by
  rintro before e after rfl
  exact h before e (after ++ es') (by rw [List.append_assoc, List.cons_append])

theorem Marked.after (h : S.Marked) (hS : S.IsSound s first) {es : List Event}
    (hes : S.DropsNoCycle es) : (S.after es).Marked := by
  induction es using List.reverseRecOn with
  | nil => exact h
  | append_singleton es e ih =>
    rw [after_snoc]
    exact (ih hes.of_append).apply (hS.after es) (hes es e [] rfl)

/-- An event after which the flag is set gives up no cycle at work. -/
theorem IsSingleFlight.spares (h : S.IsSingleFlight) {e : Event}
    (hr : (S.apply e).world.running = true) : S.Spares e := by
  rintro task t rfl ht
  refine Nat.eq_zero_of_not_pos fun hpos => ?_
  have hended := h.running_of_ended (e := .giveUp task) ht (activeCycles_giveUp ht hpos) hpos rfl
  rw [hended] at hr
  cases hr

/-- A call that looks at the page is the only cycle at work, and it has its candidates
afterwards. -/
theorem CallAt.found?_survey (h : S.CallAt task part .survey) (hS : S.IsSingleFlight) {c : Cycle}
    (hc : c ∈ (S.proceed task part).cycles) (hactive : c.isActive = true) :
    c ≠ .survey ∧ ∀ ids, c.found? = some ids → ids = S.setting.config.candidates S.page := by
  obtain ⟨k, -, hturned⟩ := proceed_callAt h rfl
  obtain ⟨t, ht, hlive, -⟩ := h
  obtain ⟨before, after, hold, -, hnew⟩ := (hturned.replaced ht hlive).others
  rcases hnew c hc with rfl | hmem
  · refine ⟨Cycle.step_ne_survey S.setting k S.world rfl, fun ids hids => ?_⟩
    rcases Cycle.found?_step S.setting k S.world .survey hids with hnone | ⟨-, hids⟩
    · cases hnone
    · exact hids
  · rw [hS.not_isActive_others hold rfl hmem] at hactive
    cases hactive

theorem StaysAtWork.of_snoc {mid : List Event} {e : Event}
    (h : S.StaysAtWork task part (mid ++ [e])) : S.StaysAtWork task part mid :=
  ⟨h.looks, fun early hearly => h.running early (hearly.trans (List.prefix_append mid [e]))⟩

theorem StaysAtWork.snoc {mid : List Event} {e : Event} (h : S.StaysAtWork task part mid)
    (hr : ((S.after (.proceed task part :: mid)).apply e).world.running = true) :
    S.StaysAtWork task part (mid ++ [e]) := by
  refine ⟨h.looks, fun early hearly => ?_⟩
  rcases List.prefix_concat_iff.1 hearly with rfl | hearly
  · rwa [← List.cons_append, after_snoc]
  · exact h.running early hearly

/-- The cycle that stays at work has the candidates of the page that it looked at. -/
theorem StaysAtWork.found? {mid : List Event} (h : S.StaysAtWork task part mid)
    (hS : S.IsSingleFlight) {c : Cycle} (hc : c ∈ (S.after (.proceed task part :: mid)).cycles)
    (hactive : c.isActive = true) :
    c ≠ .survey ∧ ∀ ids, c.found? = some ids → ids = S.setting.config.candidates S.page := by
  induction mid using List.reverseRecOn generalizing c with
  | nil => exact h.looks.found?_survey hS hc hactive
  | append_singleton mid e ih =>
    have ih := fun {c} => ih (c := c) h.of_snoc
    have hr := h.running mid (List.prefix_append mid [e])
    rw [← List.cons_append, after_snoc] at hc
    generalize S.after (.proceed task part :: mid) = T at hc hr ih
    cases T.moves e with
    | aside cycles p page slots allocated =>
      rcases cycles.new c hc with hold | rfl
      · exact ih hold hactive
      · cases hactive
    | step task' part' k c' is call world cycles =>
      rcases cycles.eq_or_mem_before hc with rfl | hold
      · cases hc' : c'.isActive with
        | true =>
          obtain ⟨hne, hids⟩ := ih call.mem_cycles hc'
          refine ⟨Cycle.step_ne_survey T.setting k T.world hc', fun ids hfound => ?_⟩
          rcases Cycle.found?_step T.setting k T.world c' hfound with hfound | ⟨he, -⟩
          · exact hids ids hfound
          · exact absurd he hne
        | false =>
          rcases (Cycle.step_of_not_isActive T.setting k T.world hc').2 with hnot | ⟨-, hnot⟩
          · rw [hnot] at hactive
            cases hactive
          · rw [hnot] at hr
            cases hr
      · exact ih hold hactive
    | drops task' t is known live kept old page => exact ih (old c hc) hactive

/-- The marks stay in order while a call stays at work. -/
theorem StaysAtWork.marked {mid : List Event} (h : S.StaysAtWork task part mid)
    (hS : S.IsSound s first) (hmarked : S.Marked) :
    (S.after (.proceed task part :: mid)).Marked := by
  refine hmarked.after hS ?_
  intro before e after hes
  refine (singleFlight_after hS.single before).spares ?_
  rw [← after_snoc]
  cases before with
  | nil =>
    obtain ⟨rfl, -⟩ := List.cons.inj hes
    exact h.running [] List.nil_prefix
  | cons e' before =>
    obtain ⟨rfl, rfl⟩ := List.cons.inj hes
    refine h.running (before ++ [e]) ?_
    exact ⟨after, by simp⟩

/-- A cycle at work has not looked at the page yet, or stays at work since it did. -/
theorem survey_or_staysAtWork (hnone : ∀ c ∈ S.cycles, c.isActive = false)
    (hS : S.IsSingleFlight) (es : List Event) :
    (∀ c ∈ (S.after es).cycles, c.isActive = true → c = .survey) ∨
      ∃ before task part mid, es = before ++ .proceed task part :: mid ∧
        (S.after before).StaysAtWork task part mid := by
  induction es using List.reverseRecOn with
  | nil =>
    refine .inl fun c hc hactive => ?_
    rw [hnone c hc] at hactive
    cases hactive
  | append_singleton es e ih =>
    have hsingle : (S.after es).IsSingleFlight := singleFlight_after hS es
    have hsingle' : (S.after (es ++ [e])).IsSingleFlight := singleFlight_after hS (es ++ [e])
    rw [after_snoc] at hsingle' ⊢
    cases hr' : ((S.after es).apply e).world.running with
    | false =>
      refine .inl fun c hc hactive => ?_
      rw [hsingle'.running_of_isActive hc hactive] at hr'
      cases hr'
    | true =>
      rcases ih with ih | ⟨before, task, part, mid, rfl, hstays⟩
      · cases (S.after es).moves e with
        | aside cycles p page slots allocated =>
          refine .inl fun c hc hactive => ?_
          rcases cycles.new c hc with hold | rfl
          · exact ih c hold hactive
          · cases hactive
        | step task part k c is call world cycles =>
          subst is
          by_cases hc : c = .survey
          · subst hc
            refine .inr ⟨es, task, part, [], rfl, call, fun early hearly => ?_⟩
            rw [List.prefix_nil.1 hearly]
            exact hr'
          · refine .inl fun x hx hactive => ?_
            rcases cycles.eq_or_mem_before hx with rfl | hold
            · have hidle : c.isActive = false :=
                Bool.eq_false_iff.2 fun hc' => hc (ih c call.mem_cycles hc')
              rcases (Cycle.step_of_not_isActive (S.after es).setting k (S.after es).world
                hidle).2 with hnot | hsurvey
              · rw [hnot] at hactive
                cases hactive
              · exact hsurvey.1
            · exact ih x hold hactive
        | drops task t is known live kept old page =>
          exact .inl fun c hc hactive => ih c (old c hc) hactive
      · refine .inr ⟨before, task, part, mid ++ [e], by simp, hstays.snoc ?_⟩
        rwa [after_append] at hr'

/-- A cycle at work has not looked at the page yet, or is past its candidates, or stays at
work since it looked at the page. -/
theorem found?_or_staysAtWork (hnone : ∀ c ∈ S.cycles, c.isActive = false)
    (hS : S.IsSingleFlight) (es : List Event) :
    (∀ c ∈ (S.after es).cycles, c.isActive = true → c.found? = none) ∨
      ∃ before task part mid, es = before ++ .proceed task part :: mid ∧
        (S.after before).StaysAtWork task part mid :=
  (survey_or_staysAtWork hnone hS es).imp_left fun h c hc hactive => by
    rw [h c hc hactive]
    rfl

/-! ### Pages without marks -/

theorem Marked.unmarked (h : S.Marked) (hnone : ∀ c ∈ S.cycles, c.marked = []) {n : Node}
    (hn : n ∈ S.page.blocks) : n.hasClass Page.loadingClass = false := by
  cases hmark : n.hasClass Page.loadingClass with
  | false => rfl
  | true =>
    obtain ⟨c, hc, hid⟩ := List.mem_flatMap.1 ((h.marked n hn).1 hmark)
    rw [hnone c hc] at hid
    cases hid

/-- No cycle has marked anything before the flag is set, nor when the cycle that has set
it looks at the page. -/
theorem IsSingleFlight.marked_eq_nil (hS : S.IsSingleFlight)
    (h : (∃ task part, S.CallAt task part .survey) ∨ S.world.running = false) {c : Cycle}
    (hc : c ∈ S.cycles) : c.marked = [] := by
  cases hactive : c.isActive with
  | false => exact Cycle.marked_of_not_isActive hactive
  | true =>
    rcases h with ⟨task, part, hcall⟩ | hr
    · rw [hS.eq_of_isActive hcall.mem_cycles hc rfl hactive]
      rfl
    · rw [hS.running_of_isActive hc hactive] at hr
      cases hr

/-- A pristine block has the source that it had at first and, but for a mark, the
classes. -/
theorem IsSound.pristine {T : Session} (hS : S.IsSound s first) (hT : T.IsSound s first) {i : Nat}
    {slot slot' : Slot} (hslot : S.page.slots[i]? = some slot)
    (hslot' : T.page.slots[i]? = some slot') (hpristine : slot.node.isRendered = false)
    (hpristine' : slot'.node.isRendered = false) :
    slot'.node.content = slot.node.content ∧
      Page.lastingClasses slot'.node.classes = Page.lastingClasses slot.node.classes := by
  obtain ⟨a, ha, hfaithful⟩ := forall₂_getElem? hS.faithful.inv.page hslot
  obtain ⟨a', ha', hfaithful'⟩ := forall₂_getElem? hT.faithful.inv.page hslot'
  cases ha.symm.trans ha'
  obtain ⟨t, ht⟩ := Node.exists_source hpristine
  obtain ⟨t', ht'⟩ := Node.exists_source hpristine'
  obtain ⟨hcontent, hclasses⟩ := hfaithful.pristine t ht
  obtain ⟨hcontent', hclasses'⟩ := hfaithful'.pristine t' ht'
  exact ⟨ht'.trans (hcontent'.symm.trans (hcontent.trans ht.symm)), hclasses'.trans hclasses.symm⟩

/-- Two pristine blocks of one slot, neither with a mark, are the same but for the number. -/
theorem IsSound.alike {T : Session} (hS : S.IsSound s first) (hT : T.IsSound s first) {i : Nat}
    {slot slot' : Slot} (hslot : S.page.slots[i]? = some slot)
    (hslot' : T.page.slots[i]? = some slot') (hpristine : slot.node.isRendered = false)
    (hpristine' : slot'.node.isRendered = false)
    (hclean : slot.node.hasClass Page.loadingClass = false)
    (hclean' : slot'.node.hasClass Page.loadingClass = false) :
    slot'.node = { slot.node with id := slot'.node.id } := by
  obtain ⟨hcontent, hclasses⟩ := hS.pristine hT hslot hslot' hpristine hpristine'
  rw [Node.lastingClasses_of_unmarked hclean, Node.lastingClasses_of_unmarked hclean'] at hclasses
  calc slot'.node = ⟨slot'.node.id, slot'.node.classes, slot'.node.content⟩ := rfl
    _ = { slot.node with id := slot'.node.id } := by rw [hclasses, hcontent]

/-- A mark is on the candidates of the cycle at work and on nothing else.  After every
history of a session with a fresh page without marks, in which no cycle at work is given
up, whatever cycles, reactions, single renders, restores and copies overlap in it: nothing
that was noted of a block has a mark in it; a block with a mark was a candidate when a call
looked at the page that has been at work ever since; and if no cycle is at work, no block
has a mark, and a block that is pristine now and was when an earlier call began or looked
at the page, under the same number, is what it was, with the same classes. -/
theorem marked_while_at_work (hp : p.IsFresh)
    (hclean : ∀ n ∈ p.blocks, n.hasClass Page.loadingClass = false) (es : List Event)
    (hes : (start s p).DropsNoCycle es) :
    let S := (start s p).after es
    S.page.NotesNoMark ∧
    (∀ n ∈ S.page.blocks, n.hasClass Page.loadingClass = true →
      ∃ before task part mid, es = before ++ .proceed task part :: mid ∧
        let S₀ := (start s p).after before
        S₀.StaysAtWork task part mid ∧ n.id ∈ s.config.candidates S₀.page) ∧
    (S.world.running = false →
      (∀ n ∈ S.page.blocks, n.hasClass Page.loadingClass = false) ∧
      ∀ before rest, es = before ++ rest →
        let S₀ := (start s p).after before
        (∃ task part, S₀.CallAt task part .survey) ∨ S₀.world.running = false →
        ∀ n ∈ S₀.page.blocks, ∀ n' ∈ S.page.blocks, n'.id = n.id →
          n.isRendered = false → n'.isRendered = false → n' = n) := by
  intro S
  have hstart := isSound_start (s := s) hp
  have hsound : S.IsSound s p := hstart.after es
  have hmarked : S.Marked := (marked_start hp hclean).after hstart hes
  refine ⟨hmarked.notes, ?_, fun hr => ⟨fun n hn => ?_, ?_⟩⟩
  · intro n hn hmark
    obtain ⟨c, hc, hid⟩ := List.mem_flatMap.1 ((hmarked.marked n hn).1 hmark)
    have hfound := Cycle.found?_of_mem_marked hid
    have hactive := Cycle.isActive_of_found? hfound
    rcases found?_or_staysAtWork (fun c hc => by cases hc) hstart.single es with hnone |
      ⟨before, task, part, mid, rfl, hstays⟩
    · rw [hnone c hc hactive] at hfound
      cases hfound
    · refine ⟨before, task, part, mid, rfl, hstays, ?_⟩
      have hbefore := hstart.after before
      have hS : S = ((start s p).after before).after (.proceed task part :: mid) :=
        after_append _ _ _
      have hids := (hstays.found? hbefore.single (hS ▸ hc) hactive).2 c.marked hfound
      rw [hbefore.faithful.setting] at hids
      exact hids ▸ hid
  · exact hmarked.unmarked (fun c hc => hsound.single.marked_eq_nil (.inr hr) hc) hn
  · rintro before rest rfl S₀ hearly n hn n' hn' hid hpristine hpristine'
    have hbefore := hstart.after before
    have hmarked₀ := (marked_start hp hclean).after hstart hes.of_append
    have hclean₀ : n.hasClass Page.loadingClass = false :=
      hmarked₀.unmarked (fun c hc => hbefore.single.marked_eq_nil hearly hc) hn
    have hclean' : n'.hasClass Page.loadingClass = false :=
      hmarked.unmarked (fun c hc => hsound.single.marked_eq_nil (.inr hr) hc) hn'
    have hevolves : Page.Evolves _ S.page := after_append (start s p) before rest ▸
      hbefore.evolves rest
    obtain ⟨i, slot, slot', hslot, hslot', rfl, rfl⟩ :=
      hevolves.exists_slots hbefore.faithful.inv.numbered hn hn' hid
    rw [hbefore.alike hsound hslot hslot' hpristine hpristine' hclean₀ hclean', hid]

/-- A history without giving up drops no cycle. -/
theorem dropsNoCycle_of_ne {es : List Event} (h : ∀ task, .giveUp task ∉ es) :
    S.DropsNoCycle es := by
  rintro before e after rfl task t rfl
  exact absurd (List.mem_append_right before List.mem_cons_self) (h task)

/-- Two blocks, one of Rust and one of Python, are marked while a cycle is at work; when it
has ended, the second one, which it did not render, has its class and no other one. -/
theorem marked_while_at_work_twoBlocks :
    let p := (Page.oneBlock.addBlock ["language-python".toList] "x = 1".toList).2
    let s := Setting.forRust .plain
    let early : List Event := .call .cycle :: List.replicate 3 (.proceed 0 0)
    let all := early ++ .proceed 0 1 :: List.replicate 7 (.proceed 0 0)
    let S := (start s p).after early
    let S' := (start s p).after all
    S.page.blocks.map (·.hasClass Page.loadingClass) = [true, true] ∧
    (∃ before task part mid, early = before ++ .proceed task part :: mid ∧
      ((start s p).after before).StaysAtWork task part mid ∧
        2 ∈ s.config.candidates ((start s p).after before).page) ∧
    S'.page.blocks.map (·.isRendered) = [true, false] ∧
    ∀ n ∈ S'.page.blocks, n.id = 2 → n.isRendered = false →
      n = ⟨2, ["language-python".toList], .source "x = 1".toList⟩ := by
  intro p s early all S S'
  have hfresh : p.IsFresh := (Page.isFresh_empty.pushBlock _ _ _ _).pushBlock _ _ _ _
  have hclean : ∀ n ∈ p.blocks, n.hasClass Page.loadingClass = false := by decide +kernel
  have hearly := (marked_while_at_work hfresh hclean early
    (dropsNoCycle_of_ne (S := start s p) (by simp [early]))).2.1
  have hend := (marked_while_at_work hfresh hclean all
    (dropsNoCycle_of_ne (S := start s p) (by simp [all, early]))).2.2 (by decide +kernel)
  refine ⟨by decide +kernel, ?_, by decide +kernel, fun n hn hid hpristine => ?_⟩
  · exact hearly ⟨2, ["language-python".toList, Page.loadingClass], .source "x = 1".toList⟩
      (by decide +kernel) (by decide +kernel)
  · exact hend.2 [.call .cycle] _ rfl (.inr rfl) _ (by decide +kernel) n hn hid rfl hpristine

end Session

end PageHighlight
