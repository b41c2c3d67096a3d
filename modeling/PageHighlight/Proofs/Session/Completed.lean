/-
  Proofs/Session/Completed.lean --- a cycle that ran to its end made of the page what
  looking at each block once makes of it.

  WHAT THIS FILE IS FOR.  A cycle runs in steps, its renders in any order, and others
  do what they do in between: they ask for the same engine, wait, change the theme of
  the page, are given up.  As long as they leave the blocks alone (`Undisturbed`), none
  of this can be told from the page when the cycle has ended, nor from its report
  (`CompletedCycle.eq_reference`): every block that the cycle picked has its own fate,
  with the theme of the moment in which the cycle began, and nothing else changed.

  HOW.  `Underway` is `Cycle.Progress` in a session.  The cycle's own steps keep it, and
  everybody else's do because it speaks of the blocks only.
-/
import PageHighlight.Proofs.Session.Batches
import PageHighlight.Proofs.Session.Calls

set_option autoImplicit false

namespace PageHighlight

/-! ## The HTML between the blocks -/

/-- A render that is given up leaves the page as it is. -/
theorem Render.page_giveUp (s : Setting) (w : World) (r : Render) :
    (r.giveUp s w).page = w.page := by
  unfold giveUp
  split <;> rfl

/-- So does a cycle. -/
theorem Cycle.page_giveUp (s : Setting) (w : World) (c : Cycle) :
    (c.giveUp s w).page = w.page := by
  have renders : ∀ (rs : List Render) (w : World),
      (rs.foldl (fun w r => r.giveUp s w) w).page = w.page := by
    intro rs
    induction rs with
    | nil => exact fun w => rfl
    | cons r rs ih => exact fun w => (ih (r.giveUp s w)).trans (r.page_giveUp s w)
  rw [giveUp_eq]
  split
  · exact renders c.renders w
  · exact renders c.renders w

/-- Nothing that happens in a session changes the pieces of the page. -/
def Pact.segments (s : Setting) : Pact s where
  inv _ := True
  rely w w' := w'.page.segments = w.page.segments
  render _ _ := True
  cycle _ _ := True

namespace Pact

theorem kept_segments (s : Setting) : (Pact.segments s).Kept where
  trans h h' := h'.trans h
  render_mono _ _ := trivial
  cycle_mono _ _ := trivial
  alike h _ := ⟨trivial, h.segments⟩
  start _ := trivial
  render_step {w} {r} _ _ := ⟨⟨trivial, (r.acts s w).edited.sameFrame.2.2⟩, trivial⟩
  cycle_step {w} {c} part _ _ := ⟨⟨trivial, (c.edited_step s part w).sameFrame.2.2⟩, trivial⟩
  copying_step {w} c _ := ⟨trivial, (c.edited_step s w).sameFrame.2.2⟩
  restored {w} _ := ⟨trivial, w.edited_restored.sameFrame.2.2⟩
  arrived _ := ⟨trivial, rfl⟩

theorem keptWhenGivenUp_segments (s : Setting) : (Pact.segments s).KeptWhenGivenUp where
  render {w} {r} _ _ := ⟨trivial, congrArg Page.segments (r.page_giveUp s w)⟩
  cycle {w} {c} _ _ := ⟨trivial, congrArg Page.segments (c.page_giveUp s w)⟩

end Pact

/-- After every history a page has the pieces that it had. -/
theorem Session.segments_after (S : Session) (es : List Event) :
    (S.after es).page.segments = S.page.segments := by
  have hsession : (Pact.segments S.setting).OfSession S :=
    ⟨rfl, trivial, fun t _ => ⟨fun r _ => trivial, fun c _ => trivial⟩⟩
  refine ((Pact.kept_segments S.setting).after hsession es fun e _ => ?_).2
  cases e with
  | call c =>
    cases c with
    | render id theme => exact fun w hw => trivial
    | _ => trivial
  | giveUp task => exact Pact.keptWhenGivenUp_segments S.setting
  | _ => trivial

/-! ## Undisturbed cycles -/

/-- Whether an event is a step of the activity with a number. -/
def Event.isStepOf (task : Nat) : Event → Bool
  | .proceed t _ => t = task
  | _ => false

namespace Session

/-- In a history, nobody but one activity changes the blocks of the page. -/
def Undisturbed (task : Nat) (S : Session) (es : List Event) : Prop :=
  ∀ before e after, es = before ++ e :: after → e.isStepOf task = false →
    ((S.after before).apply e).page.blocks = (S.after before).page.blocks

/-- A cycle that was called in a session looked at the page after some other events, and
has the blocks of the page to itself. -/
structure CalledCycle (S : Session) (task : Nat) (mid rest : List Event) : Prop where
  call : S.tasks[task]? = some ⟨.cycle .start, false⟩
  others : ∀ e ∈ mid, e.isStepOf task = false
  looks : (S.after (.proceed task 0 :: mid)).tasks[task]? = some ⟨.cycle .survey, false⟩
  undisturbed : Undisturbed task S (.proceed task 0 :: mid ++ .proceed task 0 :: rest)

/-- So does a cycle in a session with a fresh page, in which no block was marked when it was
called. -/
structure StartedCycle (s : Setting) (S : Session) (task : Nat) (mid rest : List Event) : Prop
    extends CalledCycle S task mid rest where
  reachable : ∃ p past, p.IsFresh ∧ S = (start s p).after past
  unmarked : ∀ n ∈ S.page.blocks, n.hasClass Page.loadingClass = false

/-- A cycle that was called in a session, in which no block was marked already, looked
at the page after some other events, had the blocks of the page to itself, and has
ended. -/
structure CompletedCycle (s : Setting) (S : Session) (task : Nat) (mid rest : List Event)
    (report : Report) : Prop where
  reachable : ∃ p past, p.IsFresh ∧ S = (start s p).after past
  unmarked : ∀ n ∈ S.page.blocks, n.hasClass Page.loadingClass = false
  call : S.tasks[task]? = some ⟨.cycle .start, false⟩
  others : ∀ e ∈ mid, e.isStepOf task = false
  looks : (S.after (.proceed task 0 :: mid)).tasks[task]? = some ⟨.cycle .survey, false⟩
  undisturbed : Undisturbed task S (.proceed task 0 :: mid ++ .proceed task 0 :: rest)
  ended : (S.after (.proceed task 0 :: mid ++ .proceed task 0 :: rest)).result? task =
    some (.report report)

theorem Undisturbed.of_cons {task : Nat} {S : Session} {e : Event} {es : List Event}
    (h : Undisturbed task S (e :: es)) :
    (e.isStepOf task = false → (S.apply e).page.blocks = S.page.blocks) ∧
      Undisturbed task (S.apply e) es := by
  refine ⟨h [] e es rfl, ?_⟩
  rintro before e' after rfl
  exact h (e :: before) e' after rfl

theorem Undisturbed.of_append {task : Nat} {S : Session} {es es' : List Event}
    (h : Undisturbed task S (es ++ es')) :
    Undisturbed task S es ∧ Undisturbed task (S.after es) es' := by
  constructor
  · rintro before e after rfl
    exact h before e (after ++ es') (by rw [List.append_assoc, List.cons_append])
  · rintro before e after rfl
    rw [← after_append]
    exact h (es ++ before) e after (List.append_assoc _ _ _).symm

/-- Others leave the blocks alone. -/
theorem Undisturbed.blocks_after {task : Nat} {S : Session} {es : List Event}
    (h : Undisturbed task S es) (hes : ∀ e ∈ es, e.isStepOf task = false) :
    (S.after es).page.blocks = S.page.blocks := by
  induction es generalizing S with
  | nil => rfl
  | cons e es ih =>
    obtain ⟨hblocks, hrest⟩ := h.of_cons
    rw [after_cons, ih hrest fun e he => hes e (List.mem_cons_of_mem _ he),
      hblocks (hes e List.mem_cons_self)]

/-! ## A cycle under way -/

/-- A session with a cycle under way that began with a page. -/
structure Underway (s : Setting) (first p : Page) (task : Nat) (S : Session) : Prop where
  session : (Pact.faithful s first).OfSession S
  evolves : p.Evolves S.page
  progress : ∃ t c, S.tasks[task]? = some t ∧ t.activity = .cycle c ∧
    c.Progress s p S.page.blocks

variable {s : Setting} {first p : Page} {task : Nat} {S : Session}

/-- Events that are no steps of an activity leave it as far as it is. -/
theorem activity_apply {e : Event} (he : e.isStepOf task = false) {t : Task}
    (ht : S.tasks[task]? = some t) :
    ∃ t', (S.apply e).tasks[task]? = some t' ∧ t'.activity = t.activity := by
  have hlt : task < S.tasks.length := (List.getElem?_eq_some_iff.1 ht).1
  cases e with
  | call c => exact ⟨t, (List.getElem?_append_left hlt).trans ht, rfl⟩
  | proceed i part =>
    have hi : i ≠ task := by simpa [Event.isStepOf] using he
    refine ⟨t, ?_, rfl⟩
    rcases S.proceed_cases i part with heq | ⟨u, -, -, heq⟩
    · simp only [apply, heq, ht]
    · simp only [apply, heq, List.getElem?_set_ne hi, ht]
  | giveUp i =>
    rcases S.giveUp_cases i with heq | ⟨u, hu, -, heq⟩
    · exact ⟨t, by simp only [apply, heq, ht], rfl⟩
    · by_cases hi : i = task
      · subst hi
        cases ht.symm.trans hu
        refine ⟨{ t with givenUp := true }, ?_, rfl⟩
        simp only [apply, heq, List.getElem?_set_self hlt]
      · exact ⟨t, by simp only [apply, heq, List.getElem?_set_ne hi, ht], rfl⟩
  | _ => exact ⟨t, ht, rfl⟩

/-- A cycle stays under way with every event, if the others leave the blocks alone. -/
theorem Underway.apply (h : Underway s first p task S) (hp : p.IsNumbered)
    (hunmarked : ∀ n ∈ p.blocks, n.hasClass Page.loadingClass = false) (e : Event)
    (hblocks : e.isStepOf task = false → (S.apply e).page.blocks = S.page.blocks) :
    Underway s first p task (S.apply e) := by
  obtain ⟨hsession, hrely⟩ :=
    (Pact.kept_faithful s first).apply h.session (admits_faithful s first e)
  obtain ⟨t, c, ht, hact, hprogress⟩ := h.progress
  refine ⟨hsession, h.evolves.trans hrely, ?_⟩
  cases hstep : e.isStepOf task with
  | false =>
    obtain ⟨t', ht', hact'⟩ := activity_apply hstep ht
    rw [hblocks hstep]
    exact ⟨t', c, ht', hact'.trans hact, hprogress⟩
  | true =>
    cases e with
    | proceed i part =>
      have hi : i = task := by simpa [Event.isStepOf] using hstep
      subst hi
      have hset := h.session.setting
      simp only [Session.apply]
      rcases S.proceed_cases i part with he | ⟨u, hu, -, he⟩
      · rw [he]
        exact ⟨t, c, ht, hact, hprogress⟩
      · cases ht.symm.trans hu
        have hknows := (h.session.tasks t (List.mem_of_getElem? ht)).2 c
        rw [hact] at hknows
        have hnext := hprogress.step hp hunmarked h.evolves.allocated_le h.session.inv
          (hknows (List.mem_singleton_self c)) part
        have hlt : i < S.tasks.length := (List.getElem?_eq_some_iff.1 ht).1
        rw [he, hact, hset]
        exact ⟨_, _, List.getElem?_set_self hlt, rfl, hnext⟩
    | _ => cases hstep

theorem Underway.after (h : Underway s first p task S) (hp : p.IsNumbered)
    (hunmarked : ∀ n ∈ p.blocks, n.hasClass Page.loadingClass = false) (es : List Event)
    (hes : Undisturbed task S es) : Underway s first p task (S.after es) := by
  induction es generalizing S with
  | nil => exact h
  | cons e es ih =>
    obtain ⟨hblocks, hes⟩ := hes.of_cons
    exact ih (h.apply hp hunmarked e hblocks) hes

/-! ## Its beginning -/

/-- A cycle that looks at a page begins with it. -/
theorem progress_survey (s : Setting) (part : Nat) (w : World) :
    (Cycle.survey.step s part w).1 = w ∧
      Cycle.Progress s w.page (Cycle.survey.step s part w).2 w.page.blocks := by
  cases hids : s.config.candidates w.page with
  | nil =>
    have hpicked : s.picked w.page = [] := by
      simpa [Setting.candidates_eq] using hids
    have hrelease : Cycle.Progress s w.page (.release (s.picked w.page).length (Tally.ofFates
        ((s.picked w.page).map (s.fate (s.config.resolveTheme w.page))))) w.page.blocks := by
      refine .release (List.forall₂_same.2 fun n hn => .kept fun hc => ?_)
      have hmem : n ∈ s.picked w.page := List.mem_filter.2 ⟨hn, hc⟩
      rw [hpicked] at hmem
      cases hmem
    rw [hpicked] at hrelease
    simp only [Cycle.step, hids]
    exact ⟨trivial, hrelease⟩
  | cons id ids =>
    simp only [Cycle.step, hids]
    rw [← hids]
    exact ⟨trivial, .mark⟩

/-- A call that is about to start leaves the page alone, whatever it finds. -/
theorem page_proceed_start (h : S.CallAt task 0 .start) : (S.proceed task 0).page = S.page := by
  obtain ⟨k, ⟨n, hworld⟩, -⟩ := proceed_callAt h rfl
  have hstart : (Cycle.start.step S.setting k S.world).1.page = S.world.page := by
    rw [Cycle.step]
    split <;> rfl
  show (S.proceed task 0).world.page = S.world.page
  rw [hworld]
  exact hstart

/-- After it looked at the page, a cycle is under way. -/
theorem underway_survey (hsession : (Pact.faithful s first).OfSession S)
    (hlooks : S.tasks[task]? = some ⟨.cycle .survey, false⟩) :
    Underway s first S.page task (S.proceed task 0) := by
  have hcall : S.CallAt task 0 .survey := ⟨_, hlooks, rfl, Nat.zero_lt_one, rfl⟩
  obtain ⟨k, ⟨n, hworld⟩, t, a, ht, htasks, -, hself⟩ := proceed_callAt hcall rfl
  cases hlooks.symm.trans ht
  obtain ⟨hsame, hprogress⟩ := progress_survey S.setting k S.world
  have hpage : (S.proceed task 0).page = S.page := by
    show (S.proceed task 0).world.page = S.world.page
    rw [hworld, hsame]
    rfl
  have hlt : task < S.tasks.length := (List.getElem?_eq_some_iff.1 hlooks).1
  have hfaithful := ((Pact.kept_faithful s first).apply hsession
    (admits_faithful s first (.proceed task 0))).1
  refine ⟨hfaithful, hpage ▸ .refl S.page, ⟨a, false⟩, _, ?_, hself rfl, ?_⟩
  · rw [htasks]
    exact List.getElem?_set_self hlt
  · rw [hpage, ← hsession.setting]
    exact hprogress

/-! ## Its end -/

namespace StartedCycle

variable {mid rest : List Event}

/-- When the cycle looked at the page, the blocks were those of the beginning. -/
theorem blocks_looks (h : StartedCycle s S task mid rest) :
    (S.after (.proceed task 0 :: mid)).page.blocks = S.page.blocks := by
  have hstart : (S.proceed task 0).page = S.page :=
    page_proceed_start ⟨_, h.call, rfl, Nat.zero_lt_one, rfl⟩
  have hmid := h.undisturbed.of_cons.2.of_append.1
  exact (hmid.blocks_after h.others).trans (congrArg Page.blocks hstart)

/-- The cycle stays under way. -/
theorem underway (h : StartedCycle s S task mid rest) :
    ∃ first,
      Underway s first (S.after (.proceed task 0 :: mid)).page task
        (S.after (.proceed task 0 :: mid ++ .proceed task 0 :: rest)) ∧
      S.page.Evolves (S.after (.proceed task 0 :: mid)).page := by
  obtain ⟨p, past, hfresh, hS⟩ := h.reachable
  have hk := Pact.kept_faithful s p
  have hadmits := fun (es : List Event) e (_ : e ∈ es) => admits_faithful s p e
  have hsession : (Pact.faithful s p).OfSession S :=
    hS ▸ (hk.after (ofSession_start hfresh) past (hadmits past)).1
  obtain ⟨hlooks, hevolves⟩ := hk.after hsession (.proceed task 0 :: mid) (hadmits _)
  have hunmarked : ∀ n ∈ (S.after (.proceed task 0 :: mid)).page.blocks,
      n.hasClass Page.loadingClass = false := by
    rw [h.blocks_looks]
    exact h.unmarked
  have hrest := h.undisturbed.of_append.2.of_cons.2
  have hafter := (underway_survey hlooks h.looks).after hlooks.inv.numbered hunmarked rest hrest
  rw [after_append]
  exact ⟨p, hafter, hevolves⟩

end StartedCycle

namespace CompletedCycle

variable {mid rest : List Event} {report : Report}

theorem started (h : CompletedCycle s S task mid rest report) : StartedCycle s S task mid rest :=
  ⟨⟨h.call, h.others, h.looks, h.undisturbed⟩, h.reachable, h.unmarked⟩

theorem blocks_looks (h : CompletedCycle s S task mid rest report) :
    (S.after (.proceed task 0 :: mid)).page.blocks = S.page.blocks := h.started.blocks_looks

/-- The cycle has ended, with what it makes of the page block by block. -/
theorem blocks (h : CompletedCycle s S task mid rest report) :
    let theme := s.config.resolveTheme (S.after (.proceed task 0 :: mid)).page
    report = s.reportOf theme S.page ∧
      List.Forall₂ (Node.Cycled s theme S.page.allocated) S.page.blocks
        (S.after (.proceed task 0 :: mid ++ .proceed task 0 :: rest)).page.blocks := by
  obtain ⟨first, hunderway, hevolves⟩ := h.started.underway
  obtain ⟨t, c, ht, hact, hprogress⟩ := hunderway.progress
  have hreport : c.report? = some report := by
    have hended := h.ended
    rw [Session.result?, ht, Option.bind_some, hact] at hended
    simpa [Activity.result?] using hended
  have hpicked : s.picked (S.after (.proceed task 0 :: mid)).page = s.picked S.page :=
    congrArg (List.filter s.config.isCandidate) h.blocks_looks
  generalize (S.after (.proceed task 0 :: mid ++ .proceed task 0 :: rest)).page.blocks = blocks
    at hprogress ⊢
  cases hprogress with
  | done hblocks =>
    cases hreport
    rw [h.blocks_looks] at hblocks
    refine ⟨by rw [Setting.reportOf, hpicked, Setting.reportOf], ?_⟩
    exact hblocks.imp fun n n' hn => hn.mono hevolves.allocated_le
  | _ => cases hreport

theorem slots (h : CompletedCycle s S task mid rest report) :
    List.Forall₂ (Slot.Cycled s (s.config.resolveTheme (S.after (.proceed task 0 :: mid)).page)
      S.page.allocated) S.page.slots
      (S.after (.proceed task 0 :: mid ++ .proceed task 0 :: rest)).page.slots := by
  obtain ⟨first, hunderway, hevolves⟩ := h.started.underway
  have hslots := (hevolves.trans hunderway.evolves).slots
  have hblocks := h.blocks.2
  unfold Page.blocks at hblocks
  rw [List.forall₂_map_left_iff, List.forall₂_map_right_iff] at hblocks
  exact (forall₂_and hslots hblocks).imp fun slot slot' ⟨hevolves, hcycled⟩ =>
    ⟨hevolves.preTag, hevolves.codeAttrs, hcycled⟩

theorem segments (_ : CompletedCycle s S task mid rest report) (es : List Event) :
    (S.after es).page.segments = S.page.segments :=
  S.segments_after es

/-- A cycle that ran to its end is as good as looking at each block once.  For every
setting, also one with batches of no blocks, every page that a session may have come
to, and every order in which renders are done: each block that the cycle picks is
replaced by its rendering with the theme of the moment in which the cycle looked at the
page, or is left as it was; the other blocks and the HTML between blocks are left alone,
and so is the root element by every step of the cycle; the report counts every picked
block once, by its fate.  So another cycle on the same page and with the same theme
that differs in the size of its batches reports the same, and leaves the same HTML if
the root elements are the same. -/
theorem eq_reference (h : CompletedCycle s S task mid rest report) :
    let theme := s.config.resolveTheme (S.after (.proceed task 0 :: mid)).page
    let after := S.after (.proceed task 0 :: mid ++ .proceed task 0 :: rest)
    let tally := Tally.ofFates ((s.picked S.page).map (s.fate theme))
    List.Forall₂ (Slot.Cycled s theme S.page.allocated) S.page.slots after.page.slots ∧
    after.page.segments = S.page.segments ∧
    (∀ (T : Session) (part : Nat), T.page.SameFrame (T.proceed task part).page) ∧
    after.page.toHtml = (s.cycled theme { S.page with root := after.page.root }).toHtml ∧
    report = .completed (s.config.candidates S.page).length tally ∧
    tally.rendered + tally.skipped + tally.failed = (s.config.candidates S.page).length ∧
    ∀ {s' : Setting} {S' : Session} {task' : Nat} {mid' rest' : List Event} {report' : Report},
      let after' := S'.after (.proceed task' 0 :: mid' ++ .proceed task' 0 :: rest')
      CompletedCycle s' S' task' mid' rest' report' → s.SameButBatches s' → S'.page = S.page →
      s'.config.resolveTheme (S'.after (.proceed task' 0 :: mid')).page = theme →
      report' = report ∧
        (after'.page.root = after.page.root → after'.page.toHtml = after.page.toHtml) := by
  have hlength : (s.config.candidates S.page).length = (s.picked S.page).length := by
    rw [s.candidates_eq, List.length_map]
  have hhtml := Page.toHtml_cycled (h.segments _) h.slots
  refine ⟨h.slots, h.segments _, ?_, hhtml, ?_, ?_, ?_⟩
  · intro T part
    rcases T.proceed_cases task part with he | ⟨t, -, -, he⟩
    · rw [he]
      exact .refl T.page
    · rw [he]
      exact (t.activity.edited_step T.setting part T.world).sameFrame
  · rw [hlength]
    exact h.blocks.1
  · rw [hlength, Tally.total_ofFates, List.length_map]
  · intro s' S' task' mid' rest' report' after' h' hs hpage htheme
    have hhtml' := Page.toHtml_cycled (h'.segments _) h'.slots
    have hreport' := h'.blocks.1
    rw [hpage, htheme] at hhtml' hreport'
    refine ⟨?_, fun hroot => ?_⟩
    · rw [hreport', h.blocks.1, hs.reportOf]
    · rw [hhtml', hhtml, hs.cycled, hroot]

/-! ## A page that turns dark meanwhile -/

/-- Steps of the activity itself disturb nothing. -/
theorem undisturbed_of_steps {es : List Event}
    (h : ∀ e ∈ es, e.isStepOf task = true) : Undisturbed task S es := by
  rintro before e after rfl hstep
  rw [h e (List.mem_append_right _ List.mem_cons_self)] at hstep
  cases hstep

/-- A cycle that is called while none is running, and then has its way, is a completed one
when it has ended. -/
theorem of_steps {T : Session} {rest : List Event} {report : Report}
    (hreachable : ∃ p past, p.IsFresh ∧ T = (start s p).after past)
    (hunmarked : ∀ n ∈ T.page.blocks, n.hasClass Page.loadingClass = false)
    (htask : T.tasks.length = task) (hidle : T.world.running = false)
    (hrest : ∀ e ∈ rest, e.isStepOf task = true)
    (hended : ((T.apply (.call .cycle)).after
      (.proceed task 0 :: [] ++ .proceed task 0 :: rest)).result? task = some (.report report)) :
    CompletedCycle s (T.apply (.call .cycle)) task [] rest report := by
  subst htask
  obtain ⟨p, past, hp, hT⟩ := hreachable
  refine ⟨⟨p, past ++ [.call .cycle], hp, ?_⟩, hunmarked, List.getElem?_concat_length,
    List.forall_mem_nil _, tasks_after_call hidle, undisturbed_of_steps ?_, hended⟩
  · rw [after_snoc, ← hT]
  · simpa [Event.isStepOf] using hrest

/-- Changes of the root element leave the blocks alone. -/
theorem undisturbed_of_root {es : List Event} (c : Text) (on : Bool)
    (h : ∀ e ∈ es, e.isStepOf task = true ∨ e = .setRootClass c on) : Undisturbed task S es := by
  rintro before e after rfl hstep
  rcases h e (List.mem_append_right _ List.mem_cons_self) with he | rfl
  · rw [hstep] at he
    cases he
  · have halike := World.alike_changeRoot (RootElement.setClass c on) (S.after before).world
    exact congrArg (List.map (·.node)) halike.slots

/-- Two blocks, one of Rust and one of Python, are picked when the page is light.  A
cycle with both of them in one batch and one that takes them one by one are told that
the page is dark; they report the same and leave the same page. -/
theorem eq_reference_twoBlocks :
    let p := (Page.oneBlock.addBlock ["language-python".toList] "x = 1".toList).2
    let s := Setting.forRust .plain
    let S (s : Setting) := (start s p).after [.call .cycle]
    let dark : Event := .setRootClass "navy".toList true
    let rest := dark :: .proceed 0 0 :: .proceed 0 1 :: List.replicate 7 (.proceed 0 0)
    let rest' := dark :: List.replicate 10 (.proceed 0 0)
    let report := Report.completed 2 ⟨1, 1, 0⟩
    CompletedCycle s (S s) 0 [] rest report ∧
      CompletedCycle (s.withBatches 0) (S (s.withBatches 0)) 0 [] rest' report ∧
      ((S (s.withBatches 0)).after (.proceed 0 0 :: .proceed 0 0 :: rest')).page.toHtml =
        ((S s).after (.proceed 0 0 :: .proceed 0 0 :: rest)).page.toHtml := by
  intro p s S dark rest rest' report
  have hfresh : p.IsFresh := (Page.isFresh_empty.pushBlock _ _ _ _).pushBlock _ _ _ _
  have h : CompletedCycle s (S s) 0 [] rest report :=
    ⟨⟨p, _, hfresh, rfl⟩, by decide +kernel, rfl, List.forall_mem_nil _, rfl,
      undisturbed_of_root "navy".toList true (by simp [rest, dark, Event.isStepOf]),
      by decide +kernel⟩
  have h' : CompletedCycle (s.withBatches 0) (S (s.withBatches 0)) 0 [] rest' report :=
    ⟨⟨p, _, hfresh, rfl⟩, by decide +kernel, rfl, List.forall_mem_nil _, rfl,
      undisturbed_of_root "navy".toList true (by simp [rest', dark, Event.isStepOf]),
      by decide +kernel⟩
  have hsame : s.SameButBatches (s.withBatches 0) := ⟨rfl, rfl⟩
  obtain ⟨-, -, -, -, -, -, hbatches⟩ := eq_reference h
  exact ⟨h, h', (hbatches h' hsame rfl rfl).2 (by decide +kernel)⟩

end CompletedCycle

end Session

end PageHighlight
