/-
  Proofs/Session/Settled.lean --- a second cycle changes nothing.

  WHAT THIS FILE IS FOR.  After a cycle has ended, a block is rendered and not picked any
  more, or it is the very one that was there before, the mark taken off again; and it was
  not rendered for a reason that is still there.  So another cycle with the same theme
  picks what the first one left, is answered the same, and leaves everything as it is
  (`CompletedCycle.second_changes_nothing`).  It does end: what it needs of the engine
  cache has been there since the first cycle.
-/
import PageHighlight.Proofs.Session.Work

set_option autoImplicit false

namespace PageHighlight

/-! ## What a cycle leaves -/

/-- A block that a cycle made or left is left by the next cycle with the same theme. -/
theorem Node.Cycled.left {s : Setting} {theme : Text} {bound : Nat} {n n' : Node}
    (h : n.Cycled s theme bound n') :
    s.config.isCandidate n' = true → ∀ r, s.fate theme n' ≠ .rendered r := by
  cases h with
  | kept why => exact why
  | replaced candidate rendered =>
    intro hcandidate
    simp [Config.isCandidate, Node.isRendered, Node.rendered?] at hcandidate

namespace Setting

variable {s : Setting} {theme : Text} {bound : Nat}

/-- What is picked after a cycle is what it picked and did not render. -/
theorem filter_isCandidate_of_cycled {ns ns' : List Node}
    (h : List.Forall₂ (Node.Cycled s theme bound) ns ns') :
    ns'.filter s.config.isCandidate =
      (ns.filter s.config.isCandidate).filter fun n => !(s.fate theme n).isRendered := by
  induction h with
  | nil => rfl
  | @cons n n' ns ns' hn _ ih =>
    cases hn with
    | kept why =>
      rw [List.filter_cons, List.filter_cons, ih]
      split
      · next hcandidate =>
        have hfate : (s.fate theme n).isRendered = false := by
          cases hf : s.fate theme n with
          | rendered r => exact absurd hf (why hcandidate r)
          | _ => rfl
        rw [List.filter_cons, hfate]
        rfl
      · rfl
    | @replaced candidate r rendered id new =>
      have hnot : s.config.isCandidate ⟨id, [Page.renderedClass], .rendered r⟩ = false := rfl
      rw [List.filter_cons, hnot, List.filter_cons, if_pos candidate, List.filter_cons, rendered]
      exact ih

end Setting

/-- Counting what was not rendered. -/
theorem Tally.ofFates_filter (fs : List Fate) :
    ofFates (fs.filter fun f => !f.isRendered) =
      ⟨0, (ofFates fs).skipped, (ofFates fs).failed⟩ := by
  induction fs with
  | nil => rfl
  | cons f fs ih =>
    cases f <;> simp_all [ofFates, Fate.isRendered, Fate.isSkipped, Fate.isFailed]

/-- Answers that tell one fate are the same, unless they name a new block. -/
theorem Outcome.Tells.eq {o o' : Outcome} {f : Fate} (h : o.Tells f) (h' : o'.Tells f)
    (hf : f.isRendered = false) : o = o' := by
  cases h with
  | rendered => cases hf
  | skipped why => cases h'; rfl
  | failed e => cases h'; rfl

theorem Fate.exists_tells (f : Fate) : ∃ o : Outcome, o.Tells f := by
  cases f with
  | rendered r => exact ⟨_, .rendered 0 r⟩
  | skipped why => exact ⟨_, .skipped why⟩
  | failed e => exact ⟨_, .failed e⟩

theorem Outcome.Tells.isRendered_iff {o : Outcome} {f : Fate} (h : o.Tells f) :
    f.isRendered = false ↔ ∀ id, o ≠ .rendered id := by
  cases h <;> simp [Fate.isRendered]

/-! ## A second cycle -/

namespace Session

variable {s : Setting} {S : Session} {task : Nat} {mid rest : List Event} {report : Report}

/-- The HTML of a page whose blocks and root element are what they were. -/
theorem IsSound.toHtml_after {first : Page} (h : S.IsSound s first) (es : List Event)
    (hblocks : (S.after es).page.blocks = S.page.blocks)
    (hroot : (S.after es).page.root = S.page.root) : (S.after es).page.toHtml = S.page.toHtml := by
  refine Page.toHtml_congr hroot (S.segments_after es) ?_
  have hnodes : List.Forall₂ (fun slot slot' => slot'.node = slot.node) S.page.slots
      (S.after es).page.slots := by
    have heq := List.forall₂_same.2 fun n (_ : n ∈ S.page.blocks) => Eq.refl n
    nth_rewrite 2 [← hblocks] at heq
    simp only [Page.blocks, List.forall₂_map_left_iff, List.forall₂_map_right_iff] at heq
    exact heq.imp fun slot slot' h => h.symm
  refine (forall₂_and (h.evolves es).slots hnodes).imp fun slot slot' hslot => ?_
  obtain ⟨hevolves, hnode⟩ := hslot
  exact Page.writeSlot_renumbered hevolves.preTag hevolves.codeAttrs (by rw [hnode])

/-- A cycle that was called takes its first step while no other one is running, is not given
up, and has the blocks of the page to itself. -/
structure FreeCycle (S : Session) (task : Nat) (mid rest : List Event) : Prop where
  call : S.tasks[task]? = some ⟨.cycle .start, false⟩
  idle : S.world.running = false
  others : ∀ e ∈ mid, e.isStepOf task = false
  keptMid : .giveUp task ∉ mid
  keptRest : .giveUp task ∉ rest
  undisturbed : Undisturbed task S (.proceed task 0 :: mid ++ .proceed task 0 :: rest)

/-- It looks at the page when it takes its second step. -/
theorem FreeCycle.called (h : FreeCycle S task mid rest) : CalledCycle S task mid rest := by
  refine ⟨h.call, h.others, ?_, h.undisturbed⟩
  obtain ⟨-, t, a, ht, htasks, -, hself⟩ :=
    proceed_start ⟨_, h.call, rfl, Nat.zero_lt_one, rfl⟩ h.idle
  cases h.call.symm.trans ht
  have hlt : task < S.tasks.length := (List.getElem?_eq_some_iff.1 h.call).1
  have hsurvey : (S.apply (.proceed task 0)).tasks[task]? = some ⟨.cycle .survey, false⟩ := by
    rw [Session.apply, htasks, hself rfl]
    exact List.getElem?_set_self hlt
  exact task_after h.others h.keptMid hsurvey

/-- A cycle that is called while none is running, and then has its way. -/
theorem FreeCycle.of_steps (htask : S.tasks.length = task) (hidle : S.world.running = false)
    (hrest : ∀ e ∈ rest, e.isStepOf task = true) :
    FreeCycle (S.apply (.call .cycle)) task [] rest := by
  subst htask
  refine ⟨List.getElem?_concat_length, hidle, List.forall_mem_nil _, nofun, fun hmem => ?_,
    CompletedCycle.undisturbed_of_steps ?_⟩
  · cases hrest _ hmem
  · simpa [Event.isStepOf] using hrest

/-- A cycle that has a result is completed. -/
theorem StartedCycle.completed (h : StartedCycle s S task mid rest) {result : ActivityResult}
    (hresult : (S.after (.proceed task 0 :: mid ++ .proceed task 0 :: rest)).result? task =
      some result) :
    ∃ report, CompletedCycle s S task mid rest report ∧ result = .report report := by
  obtain ⟨first, hunderway, -⟩ := h.underway
  obtain ⟨t, c, ht, hact, -⟩ := hunderway.progress
  have hreport := hresult
  rw [result?, ht, Option.bind_some, hact, Activity.result?, Option.map_eq_some_iff] at hreport
  obtain ⟨report, -, rfl⟩ := hreport
  exact ⟨report, ⟨h.reachable, h.unmarked, h.call, h.others, h.looks, h.undisturbed, hresult⟩, rfl⟩

namespace CompletedCycle

/-- No block has a mark when a cycle has ended. -/
theorem unmarked_after (h : CompletedCycle s S task mid rest report) :
    ∀ n ∈ (S.after (.proceed task 0 :: mid ++ .proceed task 0 :: rest)).page.blocks,
      n.hasClass Page.loadingClass = false := by
  intro n' hn'
  obtain ⟨n, hn, hcycled⟩ := exists_of_mem_right_of_forall₂ h.blocks.2 hn'
  cases hcycled with
  | kept why => exact h.unmarked _ hn
  | replaced candidate rendered new => exact Page.not_hasClass_rendered _ _

/-- The answers for blocks that were not rendered are those that tell their fates. -/
theorem answered_unrendered_iff (h : CompletedCycle s S task mid rest report) {theme : Text}
    (htheme : s.config.resolveTheme (S.after (.proceed task 0 :: mid)).page = theme)
    (id : NodeId) (o : Outcome) :
    (S.Answered task (.proceed task 0 :: mid ++ .proceed task 0 :: rest) id o ∧
      ∀ new, o ≠ .rendered new) ↔
    ∃ n ∈ s.picked S.page, (s.fate theme n).isRendered = false ∧ n.id = id ∧
      o.Tells (s.fate theme n) := by
  obtain ⟨hanswers, htells⟩ := h.answered
  rw [htheme] at htells
  constructor
  · rintro ⟨hanswered, hnot⟩
    obtain ⟨n, hn, hid, ho⟩ := htells id o hanswered
    exact ⟨n, hn, ho.isRendered_iff.2 hnot, hid, ho⟩
  · rintro ⟨n, hn, hfate, rfl, ho⟩
    obtain ⟨o', hanswered⟩ := hanswers n hn
    obtain ⟨n', hn', hid, ho'⟩ := htells _ _ hanswered
    cases h.eq_of_id_eq hn' hn hid
    cases ho'.eq ho hfate
    exact ⟨hanswered, ho.isRendered_iff.1 hfate⟩

/-- A second cycle changes nothing.  A cycle has ended in a session, and the blocks stay as it
left them.  Then a second cycle is called, takes its first step while none is running, is not
given up, has the blocks to itself, and resolves the same theme.  It never waits: until it
has ended one of its parts can go on, whatever else happens, and it ends after a number of
steps that its candidates bound.  Its candidates are those that the first cycle skipped or
could not render, in the same order.  When it has ended, it reports that it rendered none,
and counts the others as the first cycle did; its renders answered what those of the first
cycle had answered; every block is as it was, number, classes and content; and the page is
written as it was, if its root element is what it was. -/
theorem second_changes_nothing (h : CompletedCycle s S task mid rest report)
    (between : List Event) {task' : Nat} {mid' rest' : List Event} :
    let es := .proceed task 0 :: mid ++ .proceed task 0 :: rest
    let es' := .proceed task' 0 :: mid' ++ .proceed task' 0 :: rest'
    let S₁ := S.after es
    let S₂ := S₁.after between
    let S₃ := S₂.after es'
    S₂.page.blocks = S₁.page.blocks → FreeCycle S₂ task' mid' rest' →
    s.config.resolveTheme (S₂.after (.proceed task' 0 :: mid')).page =
      s.config.resolveTheme (S.after (.proceed task 0 :: mid)).page →
    (S₂.steps task' es' ≤ 4 * (s.config.candidates S₂.page).length + 5 ∧
      (S₃.result? task' = none → S₃.movableParts task' ≠ [])) ∧
    ((s.config.candidates S₂.page).Sublist (s.config.candidates S.page) ∧
      ∀ id, id ∈ s.config.candidates S₂.page ↔
        ∃ o, S.Answered task es id o ∧ ∀ new, o ≠ .rendered new) ∧
    ∀ result, S₃.result? task' = some result →
      (∃ t : Tally, report = .completed (t.rendered + t.skipped + t.failed) t ∧
        result = .report (.completed (t.skipped + t.failed) ⟨0, t.skipped, t.failed⟩)) ∧
      S₃.page.blocks = S₁.page.blocks ∧
      (S₃.page.root = S₁.page.root → S₃.page.toHtml = S₁.page.toHtml) ∧
      ∀ id o, S₂.Answered task' es' id o ↔
        S.Answered task es id o ∧ ∀ new, o ≠ .rendered new := by
  intro es es' S₁ S₂ S₃ hblocks hfree htheme
  obtain ⟨p, past, hfresh, hS⟩ := h.reachable
  have hsound₁ : S₁.IsSound s p := by
    have hsound := ((isSound_start (s := s) hfresh).after past).after es
    rwa [← hS] at hsound
  have hstarted : StartedCycle s S₂ task' mid' rest' := by
    refine ⟨hfree.called, ⟨p, past ++ (es ++ between), hfresh, ?_⟩, ?_⟩
    · rw [after_append, after_append, ← hS]
    · rw [hblocks]
      exact h.unmarked_after
  generalize htheme₁ : s.config.resolveTheme (S.after (.proceed task 0 :: mid)).page = theme
    at htheme
  obtain ⟨hreport, hcycled⟩ := h.blocks
  rw [htheme₁] at hreport hcycled
  have hpicked : s.picked S₂.page =
      (s.picked S.page).filter fun n => !(s.fate theme n).isRendered := by
    rw [Setting.picked, hblocks]
    exact Setting.filter_isCandidate_of_cycled hcycled
  have hmem : ∀ n, n ∈ s.picked S₂.page ↔
      n ∈ s.picked S.page ∧ (s.fate theme n).isRendered = false := by
    intro n
    rw [hpicked, List.mem_filter, Bool.not_eq_true']
  have hunrendered : ∀ id o, (S.Answered task es id o ∧ ∀ new, o ≠ .rendered new) ↔
      ∃ n ∈ s.picked S₂.page, n.id = id ∧ o.Tells (s.fate theme n) := by
    intro id o
    simp only [es, h.answered_unrendered_iff htheme₁, hmem, and_assoc]
  refine ⟨hstarted.never_waits hfree.keptRest fun n hn t ht hallows => ?_, ⟨?_, fun id => ?_⟩, ?_⟩
  · exact isSupplied_after (hS ▸ after_append _ _ _ ▸ ofSession_supplied s p _)
      (h.isSupplied ((hmem n).1 hn).1 ht hallows) between
  · rw [s.candidates_eq, s.candidates_eq, hpicked]
    exact List.filter_sublist.map _
  · rw [s.candidates_eq, List.mem_map]
    constructor
    · rintro ⟨n, hn, hid⟩
      obtain ⟨o, ho⟩ := Fate.exists_tells (s.fate theme n)
      exact ⟨o, (hunrendered id o).2 ⟨n, hn, hid, ho⟩⟩
    · rintro ⟨o, ho⟩
      obtain ⟨n, hn, hid, -⟩ := (hunrendered id o).1 ho
      exact ⟨n, hn, hid⟩
  · intro result hresult
    obtain ⟨report', h', rfl⟩ := hstarted.completed hresult
    obtain ⟨hreport', hcycled'⟩ := h'.blocks
    rw [htheme] at hreport' hcycled'
    have hsame : S₃.page.blocks = S₁.page.blocks := by
      have hleft : List.Forall₂ Eq S₂.page.blocks S₃.page.blocks := by
        refine forall₂_imp_of_mem hcycled' fun n hn n' hn' => (hn'.eq_self ?_).symm
        rw [hblocks] at hn
        obtain ⟨n₀, -, hn₀⟩ := exists_of_mem_right_of_forall₂ hcycled hn
        exact hn₀.left
      rw [List.forall₂_eq_eq_eq] at hleft
      exact hleft.symm.trans hblocks
    refine ⟨⟨Tally.ofFates ((s.picked S.page).map (s.fate theme)), ?_, ?_⟩, hsame, ?_, ?_⟩
    · rw [hreport, Setting.reportOf, Tally.total_ofFates, List.length_map]
    · have hfates : (s.picked S₂.page).map (s.fate theme) =
          ((s.picked S.page).map (s.fate theme)).filter fun f => !f.isRendered := by
        rw [hpicked, List.filter_map]
        rfl
      have htotal := Tally.total_ofFates ((s.picked S₂.page).map (s.fate theme))
      rw [hfates, Tally.ofFates_filter, ← hfates, List.length_map, Nat.zero_add] at htotal
      rw [hreport', Setting.reportOf, hfates, Tally.ofFates_filter, htotal]
    · intro hroot
      have hlater : S₁.after (between ++ es') = S₃ := after_append _ _ _
      have hhtml := hsound₁.toHtml_after (between ++ es')
      rw [hlater] at hhtml
      exact hhtml hsame hroot
    · intro id o
      rw [hunrendered]
      have hunrendered' := h'.answered_unrendered_iff htheme id o
      constructor
      · intro hanswered
        obtain ⟨n, hn, hid, ho⟩ := htheme ▸ h'.answered.2 id o hanswered
        exact ⟨n, hn, hid, ho⟩
      · rintro ⟨n, hn, hid, ho⟩
        exact (hunrendered'.2 ⟨n, hn, ((hmem n).1 hn).2, hid, ho⟩).1

/-- Of two blocks, one of Rust and one of Python, a second cycle picks the one of Python
again. -/
theorem second_changes_nothing_twoBlocks :
    let p := (Page.oneBlock.addBlock ["language-python".toList] "x = 1".toList).2
    let s := Setting.forRust .plain
    let S := (start s p).after [.call .cycle]
    let rest := .proceed 0 0 :: .proceed 0 1 :: List.replicate 7 (.proceed 0 0)
    let es := .proceed 0 0 :: [] ++ .proceed 0 0 :: rest
    let rest' := List.replicate 5 (.proceed 1 0)
    let es' := .proceed 1 0 :: [] ++ .proceed 1 0 :: rest'
    let S₁ := S.after es
    let S₂ := S₁.after [.call .cycle]
    let S₃ := S₂.after es'
    CompletedCycle s S 0 [] rest (.completed 2 ⟨1, 1, 0⟩) ∧ FreeCycle S₂ 1 [] rest' ∧
      S₃.result? 1 = some (.report (.completed 1 ⟨0, 1, 0⟩)) ∧ S₂.steps 1 es' ≤ 9 ∧
      S₃.page.blocks = S₁.page.blocks ∧ S₃.page.toHtml = S₁.page.toHtml ∧
      ∃ o, S.Answered 0 es 2 o ∧ S₂.Answered 1 es' 2 o := by
  intro p s S rest es rest' es' S₁ S₂ S₃
  have hfresh : p.IsFresh := (Page.isFresh_empty.pushBlock _ _ _ _).pushBlock _ _ _ _
  have h : CompletedCycle s S 0 [] rest (.completed 2 ⟨1, 1, 0⟩) :=
    of_steps ⟨p, [], hfresh, rfl⟩ (by decide +kernel) rfl rfl (by decide +kernel)
      (by decide +kernel)
  have hone : S₁.tasks.length = 1 := by decide +kernel
  have hfree : FreeCycle S₂ 1 [] rest' := .of_steps hone (by decide +kernel) (by decide +kernel)
  obtain ⟨⟨hsteps, -⟩, ⟨-, hcandidates⟩, hended⟩ :=
    second_changes_nothing h [.call .cycle] (by decide +kernel) hfree (by decide +kernel)
  have htwo : s.config.candidates S₂.page = [2] := by decide +kernel
  have hresult : S₃.result? 1 = some (.report (.completed 1 ⟨0, 1, 0⟩)) := by decide +kernel
  obtain ⟨-, hblocks, hhtml, hanswers⟩ := hended _ hresult
  rw [htwo] at hsteps
  obtain ⟨o, ho⟩ := (hcandidates 2).1 (by rw [htwo]; exact List.mem_singleton_self 2)
  exact ⟨h, hfree, hresult, hsteps, hblocks, hhtml (by decide +kernel), o, ho.1,
    (hanswers 2 o).2 ho⟩

end CompletedCycle

end Session

end PageHighlight
