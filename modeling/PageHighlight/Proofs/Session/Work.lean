/-
  Proofs/Session/Work.lean --- how much a cycle has still to do, if it never waits.

  WHAT THIS FILE IS FOR.  A cycle waits for nothing but the engine.  If the engine cache
  knows the engine, or if nobody asks for it since no block is allowed, then a cycle that
  has looked at the page can always go on until it has ended
  (`StartedCycle.never_waits`), and it ends after a number of steps that the candidates
  bound, whatever is done in between.

  THE MEASURE.  `Cycle.work` counts the steps before a cycle: three for each render, one
  for each batch, and those that mark and unmark.  Every step takes at least one off.
-/
import PageHighlight.Proofs.Session.Answered

set_option autoImplicit false

namespace PageHighlight

/-! ## Renders -/

namespace Render

/-- How many steps a render has before it, if it does not wait. -/
def work (r : Render) : Nat :=
  match r.stage with
  | .start => 3
  | .asking _ | .waiting _ _ => 2
  | .answered _ _ => 1
  | .done _ => 0

/-- A render waits for the engine. -/
def Waits (r : Render) : Prop :=
  match r.stage with
  | .waiting _ _ => True
  | _ => False

/-- A render that asks for an engine that is known goes on without a wait. -/
theorem work_step {s : Setting} {w : World} {r : Render} (hwaits : ¬r.Waits)
    (hsupplied : ∀ o, r.stage = .asking o → w.IsSupplied s) (hundone : r.outcome? = none) :
    (r.step s w).2.work < r.work ∧ ¬(r.step s w).2.Waits := by
  obtain ⟨id, theme, stage⟩ := r
  cases stage with
  | start =>
    simp only [step]
    split
    · exact ⟨Nat.zero_lt_succ 2, not_false⟩
    · split
      · exact ⟨Nat.lt_succ_self 2, not_false⟩
      · exact ⟨Nat.zero_lt_succ 2, not_false⟩
  | asking o =>
    obtain ⟨h, hh⟩ := Option.isSome_iff_exists.1 (hsupplied o rfl)
    have hask : w.ticket.2.engines.ask s.loader w.ticket.2.gateOpen s.key w.ticket.1 =
        (w.engines, .answered h) := by
      show w.engines.ask s.loader w.gateOpen s.key w.nextTicket = _
      simp only [EngineCache.ask, hh]
    simp only [step, hask]
    exact ⟨Nat.lt_succ_self 1, not_false⟩
  | waiting o request => exact absurd trivial hwaits
  | answered o handle =>
    cases handle with
    | none => exact ⟨Nat.zero_lt_one, not_false⟩
    | some engine =>
      simp only [step]
      split
      · exact ⟨Nat.zero_lt_one, not_false⟩
      · split <;> exact ⟨Nat.zero_lt_one, not_false⟩
  | done o => cases hundone

end Render

/-! ## Cycles -/

theorem length_chunks_le {α : Type} (n : Nat) (xs : List α) : (chunks n xs).length ≤ xs.length := by
  fun_induction chunks n xs with
  | case1 => exact Nat.le_refl _
  | case2 x rest ih =>
    rw [List.length_cons, List.length_cons]
    rw [List.length_drop] at ih
    omega

namespace Cycle

/-- The steps for batches that have not begun: three for each block, and one to go on to the
next batch. -/
def workOf (batches : List (List NodeId)) : Nat :=
  (batches.map fun ids => 3 * ids.length + 1).sum

/-- How many steps a cycle has before it at most that has looked at the page, if none of its
renders waits. -/
def work : Cycle → Nat
  | mark _ ids => 4 * ids.length + 3
  | batch b => (b.current.map Render.work).sum + 1 + workOf b.rest + 2
  | unmark _ _ => 2
  | release _ _ => 1
  | start | survey | done _ => 0

theorem workOf_chunks_le (n : Nat) (ids : List NodeId) :
    workOf (chunks n ids) ≤ 4 * ids.length := by
  have hsum : ∀ batches : List (List NodeId),
      workOf batches = 3 * batches.flatten.length + batches.length := by
    intro batches
    induction batches with
    | nil => rfl
    | cons ids batches ih =>
      rw [workOf] at ih ⊢
      rw [List.map_cons, List.sum_cons, ih, List.flatten_cons, List.length_append,
        List.length_cons]
      omega
  have hlength := length_chunks_le n ids
  rw [hsum, flatten_chunks]
  omega

theorem work_next (b : Batches) : b.next.work = workOf b.rest + 2 := by
  unfold Batches.next
  cases b.rest with
  | nil => rfl
  | cons ids rest =>
    have hwork : ((ids.map fun id => Render.of id b.theme).map Render.work).sum =
        3 * ids.length := by
      induction ids with
      | nil => rfl
      | cons id ids ih =>
        rw [List.map_cons, List.map_cons, List.sum_cons, ih, List.length_cons]
        show 3 + 3 * ids.length = _
        omega
    simp only [work, hwork, workOf, List.map_cons, List.sum_cons]

/-- The renders of a batch that begins do not wait. -/
theorem not_waits_next (b : Batches) : ∀ r ∈ b.next.renders, ¬r.Waits := by
  intro r hr
  obtain ⟨ids, rest, -, -, he⟩ := renders_next b hr
  rw [he]
  exact id

theorem sum_set_lt {rs : List Render} {i : Nat} {r r' : Render} (hr : rs[i]? = some r)
    (hlt : r'.work < r.work) :
    ((rs.set i r').map Render.work).sum < (rs.map Render.work).sum := by
  induction rs generalizing i with
  | nil => cases hr
  | cons x rs ih =>
    cases i with
    | zero =>
      cases hr
      simp only [List.set_cons_zero, List.map_cons, List.sum_cons]
      omega
    | succ i =>
      have hrest := ih hr
      simp only [List.set_cons_succ, List.map_cons, List.sum_cons]
      omega

/-- A part of a cycle that can go on takes one step off the work, and no render waits. -/
theorem work_step {s : Setting} {w : World} {c : Cycle} {part : Nat} {readiness : Readiness}
    (hpart : c.parts[part]? = some readiness) (hcan : w.canGoOn s readiness = true)
    (hstart : c ≠ .start) (hsurvey : c ≠ .survey) (hwaits : ∀ r ∈ c.renders, ¬r.Waits)
    (hsupplied : ∀ r ∈ c.renders, ∀ o, r.stage = .asking o → w.IsSupplied s) :
    (c.step s part w).2.work < c.work ∧ ∀ r ∈ (c.step s part w).2.renders, ¬r.Waits := by
  cases c with
  | start => exact absurd rfl hstart
  | survey => exact absurd rfl hsurvey
  | mark theme ids =>
    have hchunks := workOf_chunks_le s.config.batchSize ids
    refine ⟨?_, not_waits_next _⟩
    show (begin s theme ids).work < 4 * ids.length + 3
    rw [begin, work_next]
    exact Nat.lt_succ_of_le (Nat.add_le_add_right hchunks 2)
  | batch b =>
    simp only [step]
    split
    · refine ⟨?_, not_waits_next b⟩
      rw [work_next, work]
      omega
    · next hsettled =>
      have hready : (b.current.map (·.readiness))[part]? = some readiness := by
        rwa [parts, if_neg hsettled] at hpart
      rw [List.getElem?_map, Option.map_eq_some_iff] at hready
      obtain ⟨r, hr, rfl⟩ := hready
      have hmem : r ∈ b.current := List.mem_of_getElem? hr
      have hundone : r.outcome? = none := by
        obtain ⟨id, theme, stage⟩ := r
        cases stage with
        | done o => cases hcan
        | _ => rfl
      obtain ⟨hlt, hnot⟩ := Render.work_step (hwaits r hmem) (hsupplied r hmem) hundone
      simp only [hr]
      refine ⟨?_, fun r' hr' => ?_⟩
      · have hsum := sum_set_lt hr hlt
        simp only [work]
        omega
      · rcases List.mem_or_eq_of_mem_set hr' with hold | rfl
        · exact hwaits r' hold
        · exact hnot
  | unmark ids tally => exact ⟨Nat.lt_succ_self 1, List.forall_mem_nil _⟩
  | release n tally => exact ⟨Nat.zero_lt_one, List.forall_mem_nil _⟩
  | done report =>
    cases part with
    | zero =>
      cases hpart
      cases hcan
    | succ part => cases hpart

/-- The work of a cycle that has looked at the page. -/
theorem work_survey (s : Setting) (part : Nat) (w : World) :
    (survey.step s part w).2.work ≤ 4 * (s.config.candidates w.page).length + 3 := by
  simp only [step]
  split
  · exact Nat.le_add_left 1 _
  · exact Nat.le_refl _

/-- A cycle without waits that has not ended has a part that can go on. -/
theorem exists_canGoOn (s : Setting) (w : World) {c : Cycle} (hundone : c.report? = none)
    (hwaits : ∀ r ∈ c.renders, ¬r.Waits) :
    ∃ (part : Nat) (readiness : Readiness),
      c.parts[part]? = some readiness ∧ w.canGoOn s readiness = true := by
  cases c with
  | batch b =>
    cases hsettled : b.isSettled with
    | true => exact ⟨0, .ready, by rw [parts, if_pos hsettled]; rfl, rfl⟩
    | false =>
      obtain ⟨r, hr, hopen⟩ := List.all_eq_false.1 hsettled
      obtain ⟨part, hpart⟩ := List.mem_iff_getElem?.1 hr
      refine ⟨part, r.readiness, ?_, ?_⟩
      · rw [parts, hsettled, if_neg Bool.false_ne_true, List.getElem?_map, hpart]
        rfl
      · have hnot := hwaits r hr
        obtain ⟨id, theme, stage⟩ := r
        cases stage with
        | waiting o request => exact absurd trivial hnot
        | done o => exact absurd rfl hopen
        | _ => rfl
  | done report => cases hundone
  | _ => exact ⟨0, .ready, rfl, rfl⟩

end Cycle

/-! ## Steps of a history -/

namespace Session

/-- Whether an event is a step that a part of the activity with a number can take. -/
def takesStep (task : Nat) (S : Session) : Event → Bool
  | .proceed t part => t = task && (S.movableParts task).any (·.1 = part)
  | _ => false

/-- How many steps an activity takes in a history. -/
def steps (task : Nat) : Session → List Event → Nat
  | _, [] => 0
  | S, e :: es => (S.takesStep task e).toNat + steps task (S.apply e) es

variable {s : Setting} {S : Session} {task : Nat} {mid rest es : List Event}

theorem steps_append (es es' : List Event) :
    S.steps task (es ++ es') = S.steps task es + (S.after es).steps task es' := by
  induction es generalizing S with
  | nil => simp [steps]
  | cons e es ih => rw [List.cons_append, steps, ih, steps, after_cons, Nat.add_assoc]

/-- Somebody else's event is no step of an activity. -/
theorem takesStep_of_others {e : Event} (he : e.isStepOf task = false) :
    S.takesStep task e = false := by
  cases e with
  | proceed t part =>
    have hne : (t = task : Bool) = false := he
    rw [takesStep, hne, Bool.false_and]
  | _ => rfl

theorem steps_of_others (hes : ∀ e ∈ es, e.isStepOf task = false) : S.steps task es = 0 := by
  induction es generalizing S with
  | nil => rfl
  | cons e es ih =>
    rw [steps, takesStep_of_others (hes e List.mem_cons_self),
      ih fun e he => hes e (List.mem_cons_of_mem _ he)]
    rfl

/-- The parts of an activity that can go on. -/
theorem any_movableParts_iff {t : Task} (ht : S.tasks[task]? = some t) {part : Nat} :
    (S.movableParts task).any (·.1 = part) = true ↔ t.isLive = true ∧
      ∃ readiness, t.activity.parts[part]? = some readiness ∧
        S.world.canGoOn S.setting readiness = true := by
  have hparts : S.movableParts task = movable S.world S.setting t := by
    rw [movableParts, ht]
  rw [hparts, movable]
  split
  · next hlive =>
    simp only [List.any_eq_true, List.mem_filterMap, Prod.exists, decide_eq_true_eq]
    constructor
    · rintro ⟨i, ticket, ⟨r, j, hmem, hsome⟩, rfl⟩
      split at hsome
      · next hcan =>
        cases hsome
        exact ⟨hlive, r, List.mem_zipIdx_iff_getElem?.1 hmem, hcan⟩
      · cases hsome
    · rintro ⟨-, r, hr, hcan⟩
      exact ⟨part, _, ⟨r, part, List.mem_zipIdx_iff_getElem?.2 hr, if_pos hcan⟩, rfl⟩
  · next hdead => simp [hdead]

/-- An activity that is not given up stays as it is while others take steps. -/
theorem task_apply_of_others {e : Event} (he : e.isStepOf task = false) (hkept : e ≠ .giveUp task)
    {t : Task} (ht : S.tasks[task]? = some t) : (S.apply e).tasks[task]? = some t := by
  cases e with
  | call c =>
    have hlt : task < S.tasks.length := (List.getElem?_eq_some_iff.1 ht).1
    exact (List.getElem?_append_left hlt).trans ht
  | proceed i part =>
    have hi : i ≠ task := by simpa [Event.isStepOf] using he
    rcases S.proceed_cases i part with heq | ⟨u, -, -, heq⟩
    · simp only [apply, heq, ht]
    · simp only [apply, heq, List.getElem?_set_ne hi, ht]
  | giveUp i =>
    have hi : i ≠ task := fun h => hkept (h ▸ rfl)
    rcases S.giveUp_cases i with heq | ⟨u, -, -, heq⟩
    · simp only [apply, heq, ht]
    · simp only [apply, heq, List.getElem?_set_ne hi, ht]
  | _ => exact ht

theorem task_after (hes : ∀ e ∈ es, e.isStepOf task = false) (hkept : .giveUp task ∉ es)
    {t : Task} (ht : S.tasks[task]? = some t) : (S.after es).tasks[task]? = some t := by
  induction es generalizing S with
  | nil => exact ht
  | cons e es ih =>
    have hne : e ≠ .giveUp task := fun he => hkept (he ▸ List.mem_cons_self)
    exact ih (fun e he => hes e (List.mem_cons_of_mem _ he))
      (fun hmem => hkept (List.mem_cons_of_mem _ hmem))
      (task_apply_of_others (hes e List.mem_cons_self) hne ht)

/-- A step that an activity can take, and one that it cannot. -/
theorem proceed_eq {t : Task} (ht : S.tasks[task]? = some t) (part : Nat) :
    S.proceed task part =
      if (S.movableParts task).any (·.1 = part) then
        { S with
          world := (t.activity.step S.setting part S.world).1
          tasks := S.tasks.set task
            { t with activity := (t.activity.step S.setting part S.world).2 } }
      else S := by
  simp only [proceed, movableParts, ht]

end Session

/-! ## Cycles that never wait -/

/-- A render that asks for the engine has a block whose language is allowed. -/
theorem Batches.Progress.allows_of_asking {s : Setting} {first p : Page} {w : World} {b : Batches}
    {past now later : List Node} (h : b.Progress s p past now later w.page.blocks)
    (hw : w.Faithful s first) {r : Render} (hr : r ∈ b.current) (hknows : r.Knows s w.page)
    {o : SourceBlock} (ho : r.stage = .asking o) :
    ∃ n ∈ s.picked p, ∃ t, n.content = .source t ∧
      s.config.allows (Page.sourceBlockOf n.classes t).language = true := by
  obtain ⟨n, hn, htracks⟩ := exists_of_mem_right_of_forall₂ h.current hr
  have hundone : r.outcome? = none := by rw [Render.outcome?, ho]
  have hpicked : n ∈ s.picked p := by
    rw [h.split]
    exact List.mem_append_right _ (List.mem_append_left _ hn)
  have hcandidate : n.id ∈ s.config.candidates p := List.mem_map_of_mem hpicked
  have hpending : b.IsPending n.id := .inr ⟨r, hr, htracks.sameId, hundone⟩
  have hmarked : n.withClass Page.loadingClass ∈ w.page.blocks := by
    obtain ⟨n', hn', hreached⟩ :=
      exists_of_mem_left_of_forall₂ h.blocks (List.mem_filter.1 hpicked).1
    rwa [hreached.eq_of_pending hcandidate hpending] at hn'
  obtain ⟨slot, hslot, hnode⟩ := List.mem_map.1 hmarked
  obtain ⟨t, ht⟩ := Setting.source_of_mem_picked hpicked
  have howns : w.page.Owns r.id o := by
    rw [Render.Knows, ho] at hknows
    exact hknows
  have hslotid : slot.node.id = r.id := by rw [hnode, Node.id_withClass, htracks.sameId]
  obtain rfl := hw.original ht hslot hnode (howns.2 slot hslot hslotid)
  exact ⟨n, hpicked, t, ht, htracks.allowed _ (.inl ho)⟩

namespace Session

namespace StartedCycle

variable {s : Setting} {S : Session} {task : Nat} {mid rest : List Event}

theorem setting_eq (h : StartedCycle s S task mid rest) : S.setting = s := by
  obtain ⟨p, past, -, rfl⟩ := h.reachable
  exact setting_after _ _

/-- If the engine is known whenever a block is allowed, no render that asks for it has to
wait. -/
theorem isSupplied_of_asking (h : StartedCycle s S task mid rest)
    (hsupplied : ∀ n ∈ s.picked S.page, ∀ t, n.content = .source t →
      s.config.allows (Page.sourceBlockOf n.classes t).language = true → S.world.IsSupplied s)
    {t : Task} {c : Cycle}
    (ht : (S.after (.proceed task 0 :: mid ++ .proceed task 0 :: rest)).tasks[task]? = some t)
    (hact : t.activity = .cycle c) {r : Render} (hr : r ∈ c.renders) {o : SourceBlock}
    (ho : r.stage = .asking o) :
    (S.after (.proceed task 0 :: mid ++ .proceed task 0 :: rest)).world.IsSupplied s := by
  obtain ⟨first, hunderway, -⟩ := h.underway
  obtain ⟨t', c', ht', hact', hprogress⟩ := hunderway.progress
  cases ht.symm.trans ht'
  cases hact.symm.trans hact'
  have hknows := (hunderway.session.tasks t (List.mem_of_getElem? ht)).2 c
  rw [hact] at hknows
  have hallowed : ∃ n ∈ s.picked S.page, ∃ t, n.content = .source t ∧
      s.config.allows (Page.sourceBlockOf n.classes t).language = true := by
    rw [← h.picked_looks]
    cases c with
    | batch b =>
      cases hprogress with
      | batch hprogress =>
        exact hprogress.allows_of_asking hunderway.session.inv hr
          (hknows (List.mem_singleton_self _) r hr) ho
    | _ => cases hr
  obtain ⟨n, hn, u, hu, hallows⟩ := hallowed
  obtain ⟨p, before, hfresh, hS⟩ := h.reachable
  have hsession : (Pact.supplied s).OfSession S := hS ▸ ofSession_supplied s p before
  exact isSupplied_after hsession (hsupplied n hn u hu hallows) _

/-- A cycle that is not given up never waits if the engine is known whenever a block is
allowed, and the steps that it has taken and those that it has before it are bounded by the
number of candidates. -/
theorem steps_add_work_le (h : StartedCycle s S task mid rest) (hkept : .giveUp task ∉ rest)
    (hsupplied : ∀ n ∈ s.picked S.page, ∀ t, n.content = .source t →
      s.config.allows (Page.sourceBlockOf n.classes t).language = true → S.world.IsSupplied s) :
    let es := .proceed task 0 :: mid ++ .proceed task 0 :: rest
    ∃ t c, (S.after es).tasks[task]? = some t ∧ t.givenUp = false ∧ t.activity = .cycle c ∧
      (∀ r ∈ c.renders, ¬r.Waits) ∧
      S.steps task es + c.work ≤ 4 * (s.config.candidates S.page).length + 5 := by
  intro es
  simp only [es]
  clear es
  induction rest using List.reverseRecOn with
  | nil =>
    have hlooks := h.looks
    have hcandidates : s.config.candidates (S.after (.proceed task 0 :: mid)).page =
        s.config.candidates S.page := by
      rw [s.candidates_eq, h.picked_looks, ← s.candidates_eq]
    have hset : (S.after (.proceed task 0 :: mid)).setting = s := by
      rw [setting_after, h.setting_eq]
    have hbefore : S.steps task (.proceed task 0 :: mid) ≤ 1 := by
      rw [steps, steps_of_others h.others, Nat.add_zero]
      exact Bool.toNat_le _
    rw [after_append, steps_append]
    generalize S.after (.proceed task 0 :: mid) = L at hlooks hcandidates hset
    obtain ⟨k, -, t, a, ht, htasks, -, hself⟩ :=
      proceed_callAt ⟨_, hlooks, rfl, Nat.zero_lt_one, rfl⟩ rfl
    cases hlooks.symm.trans ht
    have hlt : task < L.tasks.length := (List.getElem?_eq_some_iff.1 hlooks).1
    refine ⟨⟨a, false⟩, _, ?_, rfl, hself rfl, ?_, ?_⟩
    · rw [after_cons, after_nil, Session.apply, htasks]
      exact List.getElem?_set_self hlt
    · rw [(Cycle.stands_survey _ _ _).2]
      exact List.forall_mem_nil _
    · have hstep : L.steps task [.proceed task 0] ≤ 1 := by
        rw [steps, steps, Nat.add_zero]
        exact Bool.toNat_le _
      have hwork : (Cycle.survey.step L.setting k L.world).2.work ≤
          4 * (s.config.candidates S.page).length + 3 := by
        rw [← hcandidates, ← hset]
        exact Cycle.work_survey L.setting k L.world
      omega
  | append_singleton rest e ih =>
    have hrest := h.of_prefix (List.prefix_append rest [e])
    obtain ⟨t, c, ht, hlive, hact, hwaits, hwork⟩ :=
      ih hrest fun hmem => hkept (List.mem_append_left _ hmem)
    have hasking := fun r (hr : r ∈ c.renders) o (ho : r.stage = .asking o) =>
      hrest.isSupplied_of_asking hsupplied ht hact hr ho
    have hset : (S.after (.proceed task 0 :: mid ++ .proceed task 0 :: rest)).setting = s := by
      rw [setting_after, h.setting_eq]
    have hprogress : c ≠ .start ∧ c ≠ .survey := by
      obtain ⟨first, hunderway, -⟩ := hrest.underway
      obtain ⟨t', c', ht', hact', hprogress⟩ := hunderway.progress
      cases ht.symm.trans ht'
      cases hact.symm.trans hact'
      cases c with
      | start => cases hprogress
      | survey => cases hprogress
      | _ => constructor <;> (intro he; cases he)
    have hne : e ≠ .giveUp task := fun he => hkept (he ▸ List.mem_append_right _ List.mem_cons_self)
    have hes : (.proceed task 0 :: mid ++ .proceed task 0 :: (rest ++ [e]) : List Event) =
        (.proceed task 0 :: mid ++ .proceed task 0 :: rest) ++ [e] := by simp
    rw [hes, after_snoc, steps_append, steps, steps, Nat.add_zero]
    generalize S.after (.proceed task 0 :: mid ++ .proceed task 0 :: rest) = T at ht hasking hset ⊢
    cases hstep : e.isStepOf task with
    | false =>
      refine ⟨t, c, task_apply_of_others hstep hne ht, hlive, hact, hwaits, ?_⟩
      rw [takesStep_of_others hstep]
      exact hwork
    | true =>
      cases e with
      | proceed i part =>
        obtain rfl : i = task := by simpa [Event.isStepOf] using hstep
        simp only [Session.apply, proceed_eq ht, takesStep, decide_true, Bool.true_and]
        cases hmovable : (T.movableParts i).any (·.1 = part) with
        | false => exact ⟨t, c, ht, hlive, hact, hwaits, hwork⟩
        | true =>
          obtain ⟨-, readiness, hpart, hcan⟩ := (any_movableParts_iff ht).1 hmovable
          rw [hact] at hpart
          rw [hset] at hcan
          obtain ⟨hlt, hwaits'⟩ := Cycle.work_step hpart hcan hprogress.1 hprogress.2 hwaits hasking
          have hi : i < T.tasks.length := (List.getElem?_eq_some_iff.1 ht).1
          refine ⟨_, _, List.getElem?_set_self hi, hlive, by rw [hact, hset]; rfl, hwaits', ?_⟩
          rw [Bool.toNat_true]
          omega
      | _ => cases hstep

/-- So it can go on until it has ended. -/
theorem never_waits (h : StartedCycle s S task mid rest) (hkept : .giveUp task ∉ rest)
    (hsupplied : ∀ n ∈ s.picked S.page, ∀ t, n.content = .source t →
      s.config.allows (Page.sourceBlockOf n.classes t).language = true → S.world.IsSupplied s) :
    let es := .proceed task 0 :: mid ++ .proceed task 0 :: rest
    S.steps task es ≤ 4 * (s.config.candidates S.page).length + 5 ∧
      ((S.after es).result? task = none → (S.after es).movableParts task ≠ []) := by
  intro es
  obtain ⟨t, c, ht, hlive, hact, hwaits, hwork⟩ := h.steps_add_work_le hkept hsupplied
  refine ⟨Nat.le_of_add_right_le hwork, fun hresult hnone => ?_⟩
  have hopen : c.report? = none := by
    rw [result?, ht, Option.bind_some, hact] at hresult
    simpa [Activity.result?] using hresult
  obtain ⟨part, readiness, hpart, hcan⟩ :=
    Cycle.exists_canGoOn (S.after es).setting (S.after es).world hopen hwaits
  have hmovable : ((S.after es).movableParts task).any (·.1 = part) = true := by
    refine (any_movableParts_iff ht).2 ⟨?_, readiness, by rw [hact]; exact hpart, hcan⟩
    rw [Task.isLive, hlive, hact, Activity.result?, hopen]
    rfl
  rw [hnone] at hmovable
  cases hmovable

end StartedCycle

end Session

end PageHighlight
