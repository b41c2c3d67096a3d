/-
  Proofs/Session/Answered.lean --- what the renders of a cycle answer, and what the engine
  cache knows by then.

  WHAT THIS FILE IS FOR.  The report of a cycle only counts; what came of each candidate is
  what its render answered (`Session.Answered`).  A cycle that has ended was answered for
  each of its candidates, and each answer tells the fate of the block
  (`CompletedCycle.answered`).  A render that answered anything but that its block is gone
  or not allowed was served by the engine cache, which has known the engine ever since, or
  that there is none (`CompletedCycle.isSupplied`).
-/
import PageHighlight.Proofs.Session.Completed
import PageHighlight.Proofs.Session.InFlight
import PageHighlight.Proofs.Session.Untouched

set_option autoImplicit false

namespace PageHighlight

/-! ## An engine that is known -/

namespace EngineCache

variable {key : EngineKey} {c : EngineCache}

theorem Keeps.isSome_handle {c' : EngineCache} (h : c.Keeps c')
    (hc : (c.cell key).handle.isSome = true) : (c'.cell key).handle.isSome = true := by
  rwa [(h key).1]

/-- A request that goes on loses no engine, and is answered only if the engine is known. -/
theorem isSome_handle_goOn (l : Loader) (gateOpen : Bool) (config : Config) {r : Request}
    (hr : ∀ h, r = .answered h → (c.cell key).handle.isSome = true) :
    ((c.cell key).handle.isSome = true →
      ((c.goOn l gateOpen config key r).1.cell key).handle.isSome = true) ∧
    ∀ h, (c.goOn l gateOpen config key r).2 = .answered h →
      ((c.goOn l gateOpen config key r).1.cell key).handle.isSome = true := by
  cases r with
  | queued ticket =>
    obtain ⟨hkeeps, hanswer⟩ := keeps_goOn_queued l gateOpen key ticket c config
    exact ⟨hkeeps.isSome_handle,
      fun h hh => hkeeps.isSome_handle (Option.isSome_iff_exists.2 ⟨h, hanswer h hh⟩)⟩
  | building ticket => simp [cell_goOn_building]
  | answered h => exact ⟨id, fun _ _ => hr h rfl⟩

end EngineCache

/-- The engine cache knows the engine of the setting, or that there is none. -/
def World.IsSupplied (s : Setting) (w : World) : Prop :=
  (w.engines.cell s.key).handle.isSome = true

namespace Render

/-- The engine cache has answered a render. -/
def IsServed (r : Render) : Prop :=
  match r.stage with
  | .waiting _ (.answered _) | .answered _ _ => True
  | .done (.rendered _) | .done (.failed _) | .done (.skipped .engineUnavailable) => True
  | _ => False

/-- A step of a render loses no engine, and a render is served only if the engine is
known. -/
theorem isSupplied_step {s : Setting} {w : World} {r : Render}
    (h : r.IsServed → w.IsSupplied s) :
    (w.IsSupplied s → (r.step s w).1.IsSupplied s) ∧
      ((r.step s w).2.IsServed → (r.step s w).1.IsSupplied s) := by
  obtain ⟨id, theme, stage⟩ := r
  have request : ∀ {w' : World} {o : SourceBlock} (q : Request),
      (∀ h, q = .answered h → w'.IsSupplied s) →
      IsServed ⟨id, theme, afterRequest o q⟩ → w'.IsSupplied s := by
    intro w' o q hq hserved
    cases q with
    | answered h => exact hq h rfl
    | _ => cases hserved
  cases stage with
  | start =>
    simp only [step]
    split
    · exact ⟨fun hw => hw, fun hserved => False.elim hserved⟩
    · split <;> exact ⟨fun hw => hw, fun hserved => False.elim hserved⟩
  | asking o =>
    obtain ⟨hkeeps, hanswer⟩ :=
      EngineCache.keeps_ask s.loader w.gateOpen s.key w.nextTicket w.engines
    exact ⟨hkeeps.isSome_handle, request _ fun h hh =>
      hkeeps.isSome_handle (Option.isSome_iff_exists.2 ⟨h, hanswer h hh⟩)⟩
  | waiting o q =>
    have hq : ∀ handle, q = .answered handle → (w.engines.cell s.key).handle.isSome = true := by
      rintro handle rfl
      exact h trivial
    obtain ⟨hkeeps, hanswer⟩ := EngineCache.isSome_handle_goOn s.loader w.gateOpen s.config hq
    exact ⟨hkeeps, request _ hanswer⟩
  | answered o handle =>
    have hw : w.IsSupplied s := h trivial
    cases handle with
    | none => exact ⟨fun _ => hw, fun _ => hw⟩
    | some engine =>
      simp only [step]
      split
      · exact ⟨fun _ => hw, fun _ => hw⟩
      · split <;> exact ⟨fun _ => hw, fun _ => hw⟩
  | done o => exact ⟨fun hw => hw, h⟩

theorem isSupplied_giveUp {s : Setting} {w : World} (r : Render) (hw : w.IsSupplied s) :
    (r.giveUp s w).IsSupplied s := by
  unfold giveUp
  split
  · next request _ => exact (EngineCache.keeps_giveUp s.key w.engines request).isSome_handle hw
  · exact hw

end Render

namespace Cycle

/-- So it is with a step of a cycle. -/
theorem isSupplied_step {s : Setting} {w : World} {c : Cycle}
    (h : ∀ r ∈ c.renders, r.IsServed → w.IsSupplied s) (part : Nat) :
    (w.IsSupplied s → (c.step s part w).1.IsSupplied s) ∧
      ∀ r ∈ (c.step s part w).2.renders, r.IsServed → (c.step s part w).1.IsSupplied s := by
  have next : ∀ (b : Batches) (w' : World), ∀ r ∈ b.next.renders, r.IsServed → w'.IsSupplied s := by
    intro b w' r hr hserved
    obtain ⟨ids, rest, -, -, he⟩ := renders_next b hr
    rw [he] at hserved
    cases hserved
  cases c with
  | start =>
    simp only [step]
    split <;> exact ⟨fun hw => hw, List.forall_mem_nil _⟩
  | survey =>
    simp only [step]
    split <;> exact ⟨fun hw => hw, List.forall_mem_nil _⟩
  | mark theme ids => exact ⟨fun hw => hw, next _ _⟩
  | batch b =>
    simp only [step]
    split
    · exact ⟨fun hw => hw, next b w⟩
    · split
      · exact ⟨fun hw => hw, h⟩
      · next r hr =>
        obtain ⟨hkeeps, hserved⟩ := Render.isSupplied_step (h r (List.mem_of_getElem? hr))
        refine ⟨hkeeps, fun r' hr' => ?_⟩
        rcases List.mem_or_eq_of_mem_set hr' with hold | rfl
        · exact fun hs => hkeeps (h r' hold hs)
        · exact hserved
  | _ => exact ⟨fun hw => hw, List.forall_mem_nil _⟩

theorem isSupplied_giveUp {s : Setting} {w : World} (c : Cycle) (hw : w.IsSupplied s) :
    (c.giveUp s w).IsSupplied s := by
  have renders : ∀ (rs : List Render) (w : World), w.IsSupplied s →
      (rs.foldl (fun w r => r.giveUp s w) w).IsSupplied s := by
    intro rs
    induction rs with
    | nil => exact fun w hw => hw
    | cons r rs ih => exact fun w hw => ih _ (r.isSupplied_giveUp hw)
  rw [giveUp_eq]
  split <;> exact renders c.renders w hw

end Cycle

/-- No engine that is known gets lost, and renders that were served know that it is. -/
def Pact.supplied (s : Setting) : Pact s where
  inv _ := True
  rely w w' := w.IsSupplied s → w'.IsSupplied s
  render w r := r.IsServed → w.IsSupplied s
  cycle w c := ∀ r ∈ c.renders, r.IsServed → w.IsSupplied s

namespace Pact

theorem kept_supplied (s : Setting) : (Pact.supplied s).Kept where
  trans h h' := fun hw => h' (h hw)
  render_mono h hr := fun hserved => h (hr hserved)
  cycle_mono h hc r hr := fun hserved => h (hc r hr hserved)
  alike h _ := by
    refine ⟨trivial, fun hw => ?_⟩
    unfold World.IsSupplied
    rwa [h.engines]
  start _ r hr := by cases hr
  render_step _ hr := ⟨⟨trivial, (Render.isSupplied_step hr).1⟩, (Render.isSupplied_step hr).2⟩
  cycle_step part _ hc :=
    have hstep := Cycle.isSupplied_step hc part
    ⟨⟨trivial, hstep.1⟩, hstep.2⟩
  copying_step {w} c _ := by
    refine ⟨trivial, fun hw => ?_⟩
    unfold World.IsSupplied
    rwa [(c.engines_step s w).1]
  restored _ := ⟨trivial, fun hw => hw⟩
  arrived {w} _ := ⟨trivial, (EngineCache.keeps_arrive s.key w.engines).isSome_handle⟩

theorem admits_supplied (s : Setting) (e : Event) : (Pact.supplied s).Admits e := by
  cases e with
  | call c =>
    cases c with
    | render id theme => exact fun w hw hserved => nomatch hserved
    | _ => trivial
  | giveUp task =>
    exact ⟨fun _ _ => ⟨trivial, Render.isSupplied_giveUp _⟩,
      fun _ _ => ⟨trivial, Cycle.isSupplied_giveUp _⟩⟩
  | _ => trivial

end Pact

/-! ## What is still to be answered -/

namespace Cycle

theorem ids_next (b : Batches) : b.next.ids = b.rest.flatten := by
  unfold Batches.next
  cases b.rest with
  | nil => rfl
  | cons ids rest => simp [Cycle.ids, Render.of, Function.comp_def]

/-- A block that a cycle was to render is still to be rendered after a step, or its render
has answered before. -/
theorem mem_ids_step (s : Setting) (part : Nat) (w : World) {c : Cycle} {id : NodeId}
    (h : id ∈ c.ids) :
    id ∈ (c.step s part w).2.ids ∨
      ∃ b r o, c = .batch b ∧ r ∈ b.current ∧ r.answer? = some (id, o) := by
  cases c with
  | mark theme ids =>
    refine .inl ?_
    show id ∈ (begin s theme ids).ids
    rw [begin, ids_next, flatten_chunks]
    exact h
  | batch b =>
    simp only [step]
    split
    · next hsettled =>
      rcases List.mem_append.1 h with hcurrent | hrest
      · obtain ⟨r, hr, rfl⟩ := List.mem_map.1 hcurrent
        obtain ⟨o, ho⟩ := Option.isSome_iff_exists.1 (List.all_eq_true.1 hsettled r hr)
        exact .inr ⟨b, r, o, rfl, hr, by rw [Render.answer?, ho]; rfl⟩
      · refine .inl ?_
        rwa [ids_next]
    · split
      · exact .inl h
      · next r hr =>
        refine .inl ?_
        rwa [ids, Render.map_id_set_step hr s w]
  | _ => cases h

end Cycle

namespace Session

/-- In a history, a render of the cycle that is the activity with a number has answered this
of a block. -/
def Answered (S : Session) (task : Nat) (es : List Event) (id : NodeId) (o : Outcome) : Prop :=
  ∃ past t b r, past <+: es ∧ (S.after past).tasks[task]? = some t ∧
    t.activity = .cycle (.batch b) ∧ r ∈ b.current ∧ r.answer? = some (id, o)

variable {s : Setting} {S : Session} {task : Nat} {mid rest es es' : List Event}

theorem ofSession_supplied (s : Setting) (p : Page) (es : List Event) :
    (Pact.supplied s).OfSession ((start s p).after es) :=
  ((Pact.kept_supplied s).after ⟨rfl, trivial, fun t ht => by cases ht⟩ es
    fun e _ => Pact.admits_supplied s e).1

/-- An engine that is known stays known. -/
theorem isSupplied_after (hS : (Pact.supplied s).OfSession S) (hw : S.world.IsSupplied s)
    (es : List Event) : (S.after es).world.IsSupplied s :=
  ((Pact.kept_supplied s).after hS es fun e _ => Pact.admits_supplied s e).2 hw

theorem Answered.mono {id : NodeId} {o : Outcome} (h : S.Answered task es id o)
    (hes : es <+: es') : S.Answered task es' id o := by
  obtain ⟨past, t, b, r, hpast, hanswered⟩ := h
  exact ⟨past, t, b, r, hpast.trans hes, hanswered⟩

/-- An event leaves an activity that is a cycle as far as it is, or is a step of it. -/
theorem cycle_apply (e : Event) {t : Task} {c : Cycle} (ht : S.tasks[task]? = some t)
    (hact : t.activity = .cycle c) :
    ∃ t', (S.apply e).tasks[task]? = some t' ∧
      (t'.activity = .cycle c ∨
        ∃ part, t'.activity = .cycle (c.step S.setting part S.world).2) := by
  cases hstep : e.isStepOf task with
  | false =>
    obtain ⟨t', ht', hact'⟩ := activity_apply hstep ht
    exact ⟨t', ht', .inl (hact'.trans hact)⟩
  | true =>
    cases e with
    | proceed i part =>
      obtain rfl : i = task := by simpa [Event.isStepOf] using hstep
      simp only [Session.apply]
      rcases S.proceed_cases i part with he | ⟨u, hu, -, he⟩
      · rw [he]
        exact ⟨t, ht, .inl hact⟩
      · cases ht.symm.trans hu
        have hlt : i < S.tasks.length := (List.getElem?_eq_some_iff.1 ht).1
        rw [he]
        exact ⟨_, List.getElem?_set_self hlt, .inr ⟨part, by rw [hact]; rfl⟩⟩
    | _ => cases hstep

theorem activity_after (hes : ∀ e ∈ es, e.isStepOf task = false) {t : Task}
    (ht : S.tasks[task]? = some t) :
    ∃ t', (S.after es).tasks[task]? = some t' ∧ t'.activity = t.activity := by
  induction es generalizing S t with
  | nil => exact ⟨t, ht, rfl⟩
  | cons e es ih =>
    obtain ⟨t', ht', hact'⟩ := activity_apply (hes e List.mem_cons_self) ht
    obtain ⟨t'', ht'', hact''⟩ := ih (fun e he => hes e (List.mem_cons_of_mem _ he)) ht'
    exact ⟨t'', ht'', hact''.trans hact'⟩

/-- After it looked at the page, a cycle has all candidates before it. -/
theorem ids_survey (s : Setting) (part : Nat) (w : World) :
    (Cycle.survey.step s part w).2.ids = s.config.candidates w.page := by
  simp only [Cycle.step]
  split
  · next h => exact h.symm
  · rfl

namespace StartedCycle

/-- Every candidate of a cycle is still to be rendered, or its render has answered. -/
theorem mem_ids_or_answered (h : StartedCycle s S task mid rest) :
    let es := .proceed task 0 :: mid ++ .proceed task 0 :: rest
    ∃ t c, (S.after es).tasks[task]? = some t ∧ t.activity = .cycle c ∧
      ∀ id ∈ s.config.candidates (S.after (.proceed task 0 :: mid)).page,
        id ∈ c.ids ∨ ∃ o, S.Answered task es id o := by
  intro es
  have hset : S.setting = s := by
    obtain ⟨p, past, -, rfl⟩ := h.reachable
    exact setting_after _ _
  have hlooks := h.looks
  simp only [es]
  clear h es
  induction rest using List.reverseRecOn with
  | nil =>
    rw [after_append]
    generalize hL : S.after (.proceed task 0 :: mid) = L at hlooks
    have hcall : L.CallAt task 0 .survey := ⟨_, hlooks, rfl, Nat.zero_lt_one, rfl⟩
    obtain ⟨k, -, t, a, ht, htasks, -, hself⟩ := proceed_callAt hcall rfl
    cases hlooks.symm.trans ht
    have hlt : task < L.tasks.length := (List.getElem?_eq_some_iff.1 hlooks).1
    refine ⟨⟨a, false⟩, _, ?_, hself rfl, fun id hid => .inl ?_⟩
    · rw [after_cons, after_nil, Session.apply, htasks]
      exact List.getElem?_set_self hlt
    · have hsetL : L.setting = s := by rw [← hL, setting_after, hset]
      rwa [ids_survey, hsetL]
  | append_singleton rest e ih =>
    obtain ⟨t, c, ht, hact, hids⟩ := ih
    have hes : (.proceed task 0 :: mid ++ .proceed task 0 :: (rest ++ [e]) : List Event) =
        (.proceed task 0 :: mid ++ .proceed task 0 :: rest) ++ [e] := by simp
    rw [hes, after_snoc]
    generalize hpast : (.proceed task 0 :: mid ++ .proceed task 0 :: rest : List Event) = past
      at ht hids
    have hprefix : past <+: past ++ [e] := List.prefix_append _ _
    obtain ⟨t', ht', hact' | ⟨part, hact'⟩⟩ := cycle_apply e ht hact
    · exact ⟨t', c, ht', hact', fun id hid =>
        (hids id hid).imp_right (Exists.imp fun _ ho => ho.mono hprefix)⟩
    · refine ⟨t', _, ht', hact', fun id hid => ?_⟩
      rcases hids id hid with hmem | ⟨o, ho⟩
      · refine (Cycle.mem_ids_step _ part _ hmem).imp_right ?_
        rintro ⟨b, r, o, rfl, hr, ho⟩
        exact ⟨o, past, t, b, r, hprefix, ht, hact, hr, ho⟩
      · exact .inr ⟨o, ho.mono hprefix⟩

/-- A cycle that has renders has looked at the page. -/
theorem exists_of_batch (h : StartedCycle s S task mid rest) {past : List Event}
    (hpast : past <+: .proceed task 0 :: mid ++ .proceed task 0 :: rest) {t : Task} {b : Batches}
    (ht : (S.after past).tasks[task]? = some t) (hact : t.activity = .cycle (.batch b)) :
    ∃ done, done <+: rest ∧ past = .proceed task 0 :: mid ++ .proceed task 0 :: done := by
  have hlooked : .proceed task 0 :: mid <+: .proceed task 0 :: mid ++ .proceed task 0 :: rest :=
    List.prefix_append _ _
  rcases List.prefix_or_prefix_of_prefix hpast hlooked with hearly | ⟨done, rfl⟩
  · -- until then it is about to start or about to look
    exfalso
    cases past with
    | nil =>
      cases h.call.symm.trans ht
      cases hact
    | cons e past =>
      obtain ⟨rfl, later, hmid⟩ := List.cons_prefix_cons.1 hearly
      have hothers : ∀ e ∈ later, e.isStepOf task = false := fun e he =>
        h.others e (hmid ▸ List.mem_append_right _ he)
      obtain ⟨t', ht', hact'⟩ := activity_after hothers ht
      rw [← after_append, List.cons_append, hmid, h.looks] at ht'
      cases ht'
      rw [hact] at hact'
      cases hact'
  · rw [List.prefix_append_right_inj] at hpast
    cases done with
    | nil =>
      rw [List.append_nil, h.looks] at ht
      cases ht
      cases hact
    | cons e done =>
      obtain ⟨rfl, hdone⟩ := List.cons_prefix_cons.1 hpast
      exact ⟨done, hdone, rfl⟩

theorem of_prefix (h : StartedCycle s S task mid rest) {done : List Event} (hdone : done <+: rest) :
    StartedCycle s S task mid done := by
  obtain ⟨later, rfl⟩ := hdone
  have hundisturbed := h.undisturbed
  rw [← List.cons_append, ← List.append_assoc] at hundisturbed
  exact ⟨⟨h.call, h.others, h.looks, hundisturbed.of_append.1⟩, h.reachable, h.unmarked⟩

theorem picked_looks (h : StartedCycle s S task mid rest) :
    s.picked (S.after (.proceed task 0 :: mid)).page = s.picked S.page :=
  congrArg (List.filter s.config.isCandidate) h.blocks_looks

/-- What the renders of a cycle answer tells the fates of the blocks that it picked. -/
theorem tells (h : StartedCycle s S task mid rest) {id : NodeId} {o : Outcome}
    (hanswered : S.Answered task (.proceed task 0 :: mid ++ .proceed task 0 :: rest) id o) :
    ∃ n ∈ s.picked S.page, n.id = id ∧
      o.Tells (s.fate (s.config.resolveTheme (S.after (.proceed task 0 :: mid)).page) n) := by
  obtain ⟨past, t, b, r, hpast, ht, hact, hr, ho⟩ := hanswered
  obtain ⟨done, hdone, rfl⟩ := h.exists_of_batch hpast ht hact
  obtain ⟨first, hunderway, -⟩ := (h.of_prefix hdone).underway
  obtain ⟨t', c, ht', hact', hprogress⟩ := hunderway.progress
  cases ht.symm.trans ht'
  cases hact.symm.trans hact'
  cases hprogress with
  | @batch _ past now later _ hprogress =>
    obtain ⟨n, hn, htracks⟩ := exists_of_mem_right_of_forall₂ hprogress.current hr
    rw [Render.answer?, Option.map_eq_some_iff] at ho
    obtain ⟨o', ho', heq⟩ := ho
    cases heq
    have hpicked : n ∈ s.picked S.page := by
      rw [← h.picked_looks, hprogress.split]
      exact List.mem_append_right _ (List.mem_append_left _ hn)
    refine ⟨n, hpicked, htracks.sameId.symm, ?_⟩
    rw [← hprogress.theme]
    exact htracks.outcome o ho'

end StartedCycle

namespace CompletedCycle

variable {report : Report}

/-- When a cycle has ended, there is an answer for each block that it picked, and the
answers tell the fates of these blocks. -/
theorem answered (h : CompletedCycle s S task mid rest report) :
    let es := .proceed task 0 :: mid ++ .proceed task 0 :: rest
    let theme := s.config.resolveTheme (S.after (.proceed task 0 :: mid)).page
    (∀ n ∈ s.picked S.page, ∃ o, S.Answered task es n.id o) ∧
    ∀ id o, S.Answered task es id o → ∃ n ∈ s.picked S.page, n.id = id ∧
      o.Tells (s.fate theme n) := by
  intro es theme
  refine ⟨fun n hn => ?_, fun id o hanswered => h.started.tells hanswered⟩
  obtain ⟨t, c, ht, hact, hids⟩ := h.started.mem_ids_or_answered
  have hcandidate : n.id ∈ s.config.candidates (S.after (.proceed task 0 :: mid)).page := by
    rw [s.candidates_eq, h.started.picked_looks]
    exact List.mem_map_of_mem hn
  refine (hids n.id hcandidate).resolve_left fun hmem => ?_
  -- a cycle with something to do has not ended
  have hended := h.ended
  rw [Session.result?, ht, Option.bind_some, hact] at hended
  cases c with
  | done report => cases hmem
  | _ => cases hended

/-- Numbers tell the blocks that a cycle picks apart. -/
theorem eq_of_id_eq (h : CompletedCycle s S task mid rest report) {n n' : Node}
    (hn : n ∈ s.picked S.page) (hn' : n' ∈ s.picked S.page) (hid : n.id = n'.id) : n = n' := by
  obtain ⟨p, past, hfresh, hS⟩ := h.reachable
  have hnumbered : S.page.IsNumbered := hS ▸ (faithful_after hfresh past).numbered
  exact hnumbered.eq_of_id_eq (List.mem_filter.1 hn).1 (List.mem_filter.1 hn').1 hid

/-- If a cycle picked a block whose language is allowed, the engine cache knows in the end
whether there is an engine. -/
theorem isSupplied (h : CompletedCycle s S task mid rest report) {n : Node} {t : Text}
    (hn : n ∈ s.picked S.page) (ht : n.content = .source t)
    (hallowed : s.config.allows (Page.sourceBlockOf n.classes t).language = true) :
    (S.after (.proceed task 0 :: mid ++ .proceed task 0 :: rest)).world.IsSupplied s := by
  obtain ⟨hall, htells⟩ := h.answered
  obtain ⟨o, hanswered⟩ := hall n hn
  obtain ⟨n', hn', hid, htells⟩ := htells _ _ hanswered
  cases h.eq_of_id_eq hn' hn hid
  obtain ⟨past, u, b, r, ⟨later, hpast⟩, hu, hact, hr, ho⟩ := hanswered
  rw [Render.answer?, Option.map_eq_some_iff] at ho
  obtain ⟨o', ho', heq⟩ := ho
  obtain ⟨-, rfl⟩ := Prod.mk.inj heq
  -- the render was served, for its block is there and allowed
  have hserved : r.IsServed := by
    obtain ⟨id, theme, stage⟩ := r
    cases stage with
    | done o =>
      cases ho'
      simp only [Setting.fate, ht, if_pos hallowed] at htells
      split at htells
      · cases htells
        trivial
      · split at htells <;> cases htells <;> trivial
    | _ => cases ho'
  obtain ⟨p, before, hfresh, hS⟩ := h.reachable
  have hsession : (Pact.supplied s).OfSession (S.after past) := by
    rw [hS, ← after_append]
    exact ofSession_supplied s p _
  have hthen : (S.after past).world.IsSupplied s := by
    refine (hsession.tasks u (List.mem_of_getElem? hu)).2 (.batch b) ?_ r hr hserved
    rw [hact]
    exact List.mem_singleton_self _
  rw [← hpast, after_append]
  exact isSupplied_after hsession hthen later

end CompletedCycle

end Session

end PageHighlight
