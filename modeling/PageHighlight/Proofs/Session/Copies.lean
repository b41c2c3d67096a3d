/-
  Proofs/Session/Copies.lean --- copies of one block that overlap.

  WHAT THIS FILE IS FOR.  A call that copies a block makes its control read that it was
  copied, and that it is idle again when the time of the call is over, whatever other calls
  did to the control meanwhile.  `Session.switches` is the log of both over a history, and
  `CopiesLogged` ties a session to its log: a control reads what the last switch of its
  block made it read, and every switch to idle is the end of a call that is logged before.
  `copied_iff_not_reverted` draws the conclusions.

  WHAT FOLLOWS.  A control does not read that it was copied for the whole time after the
  last copy: an earlier call that ends within this time makes it idle.
-/
import PageHighlight.Proofs.Session.CopySteps

set_option autoImplicit false

namespace PageHighlight

/-! ## Logs -/

namespace CopySwitch

/-- It is the end of the call that made the other one, at least so long after it. -/
structure Reverts (duration : Nat) (y z : CopySwitch) : Prop where
  call : y.call = z.call
  id : y.id = z.id
  idle : y.state = .idle
  copied : z.state = .copied
  time : z.time + duration ≤ y.time

instance (duration : Nat) (y z : CopySwitch) : Decidable (y.Reverts duration z) :=
  decidable_of_iff
    (y.call = z.call ∧ y.id = z.id ∧ y.state = .idle ∧ z.state = .copied ∧
      z.time + duration ≤ y.time)
    ⟨fun ⟨h₁, h₂, h₃, h₄, h₅⟩ => ⟨h₁, h₂, h₃, h₄, h₅⟩,
      fun h => ⟨h.call, h.id, h.idle, h.copied, h.time⟩⟩

/-- What the control of a block reads after some switches: what the last one of this block
made it read. -/
def reading (id : NodeId) (log : List CopySwitch) : CopyState :=
  ((log.reverse.find? (·.id = id)).map (·.state)).getD .idle

variable {id : NodeId} {log : List CopySwitch} {y : CopySwitch}

theorem reading_snoc_of_eq (log : List CopySwitch) (h : y.id = id) :
    reading id (log ++ [y]) = y.state := by
  simp [reading, h]

theorem reading_snoc_of_ne (log : List CopySwitch) (h : y.id ≠ id) :
    reading id (log ++ [y]) = reading id log := by
  simp [reading, h]

theorem reading_of_forall_ne (h : ∀ y ∈ log, y.id ≠ id) : reading id log = .idle := by
  have hnone : log.reverse.find? (·.id = id) = none := by
    rw [List.find?_eq_none]
    intro y hy
    simpa using h y (List.mem_reverse.1 hy)
  rw [reading, hnone]
  rfl

/-- After its last switch to copied a control reads copied as long as there is no other
switch. -/
theorem reading_eq_copied_iff {earlier since : List CopySwitch} {x : CopySwitch}
    (hid : x.id = id) (hcopied : x.state = .copied)
    (hlast : ∀ y ∈ since, y.id = id → y.state ≠ .copied) :
    reading id (earlier ++ x :: since) = .copied ↔ ∀ y ∈ since, y.id ≠ id := by
  have hreverse : (earlier ++ x :: since).reverse = since.reverse ++ x :: earlier.reverse := by
    simp
  rw [reading, hreverse, List.find?_append]
  cases hfind : since.reverse.find? (·.id = id) with
  | none =>
    have hnone : ∀ y ∈ since, y.id ≠ id := by
      intro y hy
      simpa using List.find?_eq_none.1 hfind y (List.mem_reverse.2 hy)
    refine iff_of_true ?_ hnone
    simp [hid, hcopied]
  | some y =>
    have hy : y ∈ since := List.mem_reverse.1 (List.mem_of_find?_eq_some hfind)
    have hyid : y.id = id := by simpa using List.find?_some hfind
    refine iff_of_false ?_ fun hne => hne y hy hyid
    simpa using hlast y hy hyid

end CopySwitch

namespace Session

/-- What calls that copy a block made the controls read over a history, in order. -/
def switches (S : Session) : List Happening → List CopySwitch
  | [] => []
  | x :: xs => (S.switch? x).toList ++ (S.undergo x).switches xs

theorem switches_snoc (S : Session) (xs : List Happening) (x : Happening) :
    S.switches (xs ++ [x]) = S.switches xs ++ ((S.undergoAll xs).switch? x).toList := by
  induction xs generalizing S with
  | nil => simp [switches]
  | cons y ys ih => simp [switches, ih]

end Session

/-! ## The log of a session -/

/-- A session whose copies left this log. -/
structure Session.CopiesLogged (s : Setting) (S : Session) (log : List CopySwitch) : Prop where
  /-- the number of a block that is being copied was given -/
  underWay : ∀ {k : Nat} {c : Copying} {g : Bool}, S.tasks[k]? = some ⟨.copying c, g⟩ →
    c.IsUnderWay → c.id ≤ S.page.allocated
  /-- a call that waits for its time to be over is logged -/
  showing : ∀ {k : Nat} {c : Copying} {g : Bool} {ticket deadline : Nat},
    S.tasks[k]? = some ⟨.copying c, g⟩ → c.stage = .showing ticket deadline →
      ∃ time, time + s.config.timings.copyRevert = deadline ∧ ⟨k, c.id, .copied, time⟩ ∈ log
  /-- what is logged is over, and was done to a block whose number was given -/
  logged : ∀ y ∈ log, y.id ≤ S.page.allocated ∧ y.time ≤ S.world.now
  /-- a switch to idle is the end of a call that was logged before -/
  reverted : ∀ {before : List CopySwitch} {y : CopySwitch}, before ++ [y] <+: log →
    y.state = .idle → ∃ z ∈ before, y.Reverts s.config.timings.copyRevert z
  /-- the last switch of its block is what a control reads -/
  reads : ∀ {id : NodeId} {state : CopyState}, S.page.ControlReads id state →
    state = CopySwitch.reading id log
  /-- a control reads that it was copied only while a call waits for its time to be over -/
  pending : ∀ {id : NodeId}, S.page.ControlReads id .copied →
    ∃ (k : Nat) (c : Copying) (g : Bool) (ticket deadline : Nat),
      S.tasks[k]? = some ⟨.copying c, g⟩ ∧ c.id = id ∧ c.stage = .showing ticket deadline

namespace Session.CopiesLogged

variable {s : Setting} {first p : Page} {S : Session} {log : List CopySwitch}

theorem start (hp : p.IsFresh) : CopiesLogged s (Session.start s p) [] := by
  have hnone : ∀ id state, ¬p.ControlReads id state := by
    rintro id state ⟨slot, hslot, -, r, hr, -⟩
    obtain ⟨t, ht⟩ := hp.pristine slot hslot
    rw [ht] at hr
    cases hr
  refine ⟨?_, ?_, List.forall_mem_nil _, ?_, fun h => absurd h (hnone _ _),
    fun h => absurd h (hnone _ _)⟩
  · intro k c g hk
    cases hk
  · intro k c g ticket deadline hk
    cases hk
  · intro before y hprefix
    exact absurd (List.prefix_nil.1 hprefix) (by simp)

/-- What is no step of a copy keeps the log. -/
theorem spares (h : CopiesLogged s S log) {S' : Session} (hS : S.SparesCopies S')
    (hallocated : S.page.allocated ≤ S'.page.allocated) (hnow : S.world.now ≤ S'.world.now) :
    CopiesLogged s S' log := by
  obtain ⟨htasks, es, hes, hslots⟩ := hS
  have hreads : ∀ {id state}, S'.page.ControlReads id state →
      S.page.ControlReads id state ∨ (S.page.allocated < id ∧ state = .idle) := by
    intro id state hreads
    rw [Page.controlReads_iff_of_slots_eq hslots] at hreads
    exact Page.controlReads_of_applyAll hes hreads
  constructor
  · intro k c g hk hway
    rcases htasks.known hk with ⟨g', hk'⟩ | hstart
    · exact Nat.le_trans (h.underWay hk' hway) hallocated
    · rw [Copying.IsUnderWay, hstart] at hway
      exact hway.elim
  · intro k c g ticket deadline hk hstage
    rcases htasks.known hk with ⟨g', hk'⟩ | hstart
    · exact h.showing hk' hstage
    · rw [hstage] at hstart
      cases hstart
  · intro y hy
    obtain ⟨hid, htime⟩ := h.logged y hy
    exact ⟨Nat.le_trans hid hallocated, Nat.le_trans htime hnow⟩
  · exact h.reverted
  · intro id state hstate
    rcases hreads hstate with hbefore | ⟨hnew, rfl⟩
    · exact h.reads hbefore
    · refine (CopySwitch.reading_of_forall_ne fun y hy hyid => ?_).symm
      exact absurd (h.logged y hy).1 (Nat.not_le.2 (hyid ▸ hnew))
  · intro id hcopied
    rcases hreads hcopied with hbefore | ⟨-, hidle⟩
    · obtain ⟨k, c, g, ticket, deadline, hk, hid, hstage⟩ := h.pending hbefore
      obtain ⟨g', hk'⟩ := htasks.kept hk
      exact ⟨k, c, g', ticket, deadline, hk', hid, hstage⟩
    · cases hidle

/-! ### A step of a copy -/

section Step

variable {task : Nat} {c : Copying}

/-- The copies after a step of one of them. -/
theorem tasks_stepCopy (ht : S.tasks[task]? = some ⟨.copying c, false⟩) {k : Nat} {c' : Copying}
    {g : Bool} (hk : (S.stepCopy task c).tasks[k]? = some ⟨.copying c', g⟩) :
    (k = task ∧ c' = (c.step S.setting S.world).2) ∨ S.tasks[k]? = some ⟨.copying c', g⟩ := by
  have hlt : task < S.tasks.length := (List.getElem?_eq_some_iff.1 ht).1
  by_cases hne : task = k
  · subst hne
    rw [stepCopy, List.getElem?_set_self hlt] at hk
    cases hk
    exact .inl ⟨rfl, rfl⟩
  · rw [stepCopy, List.getElem?_set_ne hne] at hk
    exact .inr hk

theorem allocated_stepCopy (S : Session) (task : Nat) (c : Copying) :
    (S.stepCopy task c).page.allocated = S.page.allocated := by
  rcases c.page_step S.setting S.world with h | ⟨state, h⟩
  · exact congrArg Page.allocated h
  · exact (congrArg Page.allocated h).trans (Page.allocated_apply (.setCopyState c.id state) S.page)

theorem now_stepCopy (S : Session) (task : Nat) (c : Copying) :
    (S.stepCopy task c).world.now = S.world.now := c.now_step S.setting S.world

theorem page_stepCopy_of_none (hdue : c.isDue S.world.now = true) (hnone : c.switch? = none) :
    (S.stepCopy task c).page = S.page := by
  have hstep := Copying.page_step_of_isDue (s := S.setting) hdue
  rw [hnone] at hstep
  exact hstep

theorem page_stepCopy_of_some (hdue : c.isDue S.world.now = true) {state : CopyState}
    (hsome : c.switch? = some state) :
    (S.stepCopy task c).page = (Page.Edit.setCopyState c.id state).apply S.page := by
  have hstep := Copying.page_step_of_isDue (s := S.setting) hdue
  rw [hsome] at hstep
  exact hstep

/-- A block that is being copied after the step has a number that was given. -/
theorem underWay_stepCopy (h : CopiesLogged s S log) (hS : S.IsSound s first)
    (ht : S.tasks[task]? = some ⟨.copying c, false⟩) {k : Nat} {c' : Copying} {g : Bool}
    (hk : (S.stepCopy task c).tasks[k]? = some ⟨.copying c', g⟩) (hway : c'.IsUnderWay) :
    c'.id ≤ (S.stepCopy task c).page.allocated := by
  rw [allocated_stepCopy]
  rcases tasks_stepCopy ht hk with ⟨rfl, rfl⟩ | hk'
  · rw [Copying.id_step]
    rcases hway.before with hbefore | ⟨state, hreads⟩
    · exact h.underWay ht hbefore
    · exact hS.numbered.le_of_controlReads hreads
  · exact h.underWay hk' hway

/-- A step that switches nothing keeps the log. -/
theorem quietStep (h : CopiesLogged s S log) (hS : S.IsSound s first)
    (ht : S.tasks[task]? = some ⟨.copying c, false⟩) (hdue : c.isDue S.world.now = true)
    (hnone : c.switch? = none) : CopiesLogged s (S.stepCopy task c) log := by
  have hpage : (S.stepCopy task c).page = S.page := page_stepCopy_of_none hdue hnone
  refine ⟨h.underWay_stepCopy hS ht, ?_, ?_, h.reverted, ?_, ?_⟩
  · intro k c' g ticket deadline hk hstage
    rcases tasks_stepCopy ht hk with ⟨rfl, rfl⟩ | hk'
    · rw [Copying.switch?, (Copying.stage_before hdue hstage).1] at hnone
      cases hnone
    · exact h.showing hk' hstage
  · rw [hpage, now_stepCopy]
    exact h.logged
  · rw [hpage]
    exact h.reads
  · rw [hpage]
    intro id hcopied
    obtain ⟨k, c', g, ticket, deadline, hk, hid, hstage⟩ := h.pending hcopied
    refine ⟨k, c', g, ticket, deadline, ?_, hid, hstage⟩
    by_cases hne : task = k
    · subst hne
      cases ht.symm.trans hk
      rw [Copying.switch?, hstage] at hnone
      cases hnone
    · rw [stepCopy, List.getElem?_set_ne hne, hk]

/-- A step that switches something is logged. -/
theorem switchStep (h : CopiesLogged s S log) (hS : S.IsSound s first)
    (ht : S.tasks[task]? = some ⟨.copying c, false⟩) (hdue : c.isDue S.world.now = true)
    {state : CopyState} (hsome : c.switch? = some state) :
    CopiesLogged s (S.stepCopy task c) (log ++ [⟨task, c.id, state, S.world.now⟩]) := by
  have hset : S.setting = s := hS.faithful.setting
  have hpage : (S.stepCopy task c).page = (Page.Edit.setCopyState c.id state).apply S.page :=
    page_stepCopy_of_some hdue hsome
  have hlt : task < S.tasks.length := (List.getElem?_eq_some_iff.1 ht).1
  refine ⟨h.underWay_stepCopy hS ht, ?_, ?_, ?_, ?_, ?_⟩
  · intro k c' g ticket deadline hk hstage
    rcases tasks_stepCopy ht hk with ⟨rfl, rfl⟩ | hk'
    · obtain ⟨hmarking, rfl⟩ := Copying.stage_before hdue hstage
      rw [Copying.switch?, hmarking] at hsome
      cases hsome
      exact ⟨S.world.now, by rw [hset], by simp [Copying.id_step]⟩
    · obtain ⟨time, htime, hmem⟩ := h.showing hk' hstage
      exact ⟨time, htime, List.mem_append_left _ hmem⟩
  · rw [allocated_stepCopy, now_stepCopy]
    intro y hy
    rcases List.mem_append.1 hy with hy | hy
    · exact h.logged y hy
    · rw [List.mem_singleton.1 hy]
      refine ⟨h.underWay ht ?_, Nat.le_refl _⟩
      unfold Copying.switch? at hsome
      unfold Copying.IsUnderWay
      split at hsome
      · next hstage => rw [hstage]; trivial
      · next hstage => rw [hstage]; trivial
      · cases hsome
  · intro before y hprefix hidle
    rcases List.prefix_concat_iff.1 hprefix with heq | hprefix
    · obtain ⟨rfl, hlast⟩ := List.append_inj' heq rfl
      cases hlast
      cases hidle
      -- the step that makes the control idle is the one that the deadline was set for
      unfold Copying.switch? at hsome
      split at hsome
      · cases hsome
      · next ticket deadline hstage =>
        obtain ⟨time, htime, hmem⟩ := h.showing ht hstage
        refine ⟨_, hmem, rfl, rfl, rfl, rfl, ?_⟩
        rw [htime]
        simpa [Copying.isDue, hstage] using hdue
      · cases hsome
    · exact h.reverted hprefix hidle
  · rw [hpage]
    intro id state' hreads
    rcases hS.numbered.controlReads_setCopyState hreads with ⟨rfl, rfl, -⟩ | ⟨hne, hbefore⟩
    · exact (CopySwitch.reading_snoc_of_eq (y := ⟨task, c.id, state', S.world.now⟩) log rfl).symm
    · rw [CopySwitch.reading_snoc_of_ne log (Ne.symm hne)]
      exact h.reads hbefore
  · rw [hpage]
    intro id hcopied
    rcases hS.numbered.controlReads_setCopyState hcopied with ⟨rfl, rfl, -⟩ | ⟨hne, hbefore⟩
    · obtain ⟨cid, faults, stage⟩ := c
      cases stage with
      | marking => exact ⟨task, _, false, _, _, List.getElem?_set_self hlt, rfl, rfl⟩
      | _ => cases hsome
    · obtain ⟨k, c', g, ticket, deadline, hk, hid, hstage⟩ := h.pending hbefore
      refine ⟨k, c', g, ticket, deadline, ?_, hid, hstage⟩
      have hother : task ≠ k := by
        rintro rfl
        cases ht.symm.trans hk
        exact hne hid.symm
      rw [stepCopy, List.getElem?_set_ne hother, hk]

end Step

/-! ### Histories -/

/-- Every happening adds to the log what it switched. -/
theorem undergo (h : CopiesLogged s S log) (hS : S.IsSound s first) (x : Happening) :
    CopiesLogged s (S.undergo x) (log ++ (S.switch? x).toList) := by
  rcases S.undergo_cases x with ⟨task, c, rfl, ht, hdue, hundergo⟩ | ⟨hnone, hspares⟩
  · rw [hundergo, switch?_of_isDue ht hdue]
    cases hswitch : c.switch? with
    | none =>
      rw [Option.map_none, Option.toList_none, List.append_nil]
      exact h.quietStep hS ht hdue hswitch
    | some state => exact h.switchStep hS ht hdue hswitch
  · rw [hnone, Option.toList_none, List.append_nil]
    exact h.spares hspares (hS.evolves_undergo x).allocated_le (S.now_le_undergo x)

/-- After every history of a session with a fresh page the copies left their log. -/
theorem undergoAll (hp : p.IsFresh) (xs : List Happening) :
    CopiesLogged s ((Session.start s p).undergoAll xs) ((Session.start s p).switches xs) := by
  induction xs using List.reverseRecOn with
  | nil => exact start hp
  | append_singleton xs x ih =>
    rw [undergoAll_snoc, switches_snoc]
    exact ih.undergo ((isSound_start hp).undergoAll xs) x

end Session.CopiesLogged

/-! ## What a call changes -/

/-- A slot whose control reads this, if its block is rendered like that. -/
def Slot.withCopyState (slot : Slot) (r : RenderedBlock) (state : CopyState) : Slot :=
  { slot with node := { slot.node with
      content := .rendered { r with copy := { r.copy with state := state } } } }

namespace Session

variable {s : Setting} {first p : Page} {S : Session} {task : Nat} {c : Copying} {g : Bool}

/-- A step of a call that copies a block changes at most what the control of the block reads. -/
theorem slot_proceed_copying (ht : S.tasks[task]? = some ⟨.copying c, g⟩) (part : Nat) {i : Nat}
    {slot : Slot} (hslot : S.page.slots[i]? = some slot) :
    (S.proceed task part).page.slots[i]? = some slot ∨
      ∃ r state, slot.node.id = c.id ∧ slot.node.content = .rendered r ∧
        (S.proceed task part).page.slots[i]? = some (slot.withCopyState r state) := by
  rcases undergo_of_copying ht part with ⟨rfl, rfl, hdue, hundergo⟩ | ⟨hundergo, -⟩
  · have hproceed : S.proceed task 0 = S.stepCopy task c := hundergo
    rw [hproceed]
    cases hswitch : c.switch? with
    | none =>
      rw [CopiesLogged.page_stepCopy_of_none hdue hswitch]
      exact .inl hslot
    | some state =>
      rw [CopiesLogged.page_stepCopy_of_some hdue hswitch]
      have hmoves := Page.forall₂_move_apply (.setCopyState c.id state) S.page
      obtain ⟨hi, -⟩ := List.getElem?_eq_some_iff.1 hslot
      obtain ⟨slot', hslot'⟩ : ∃ slot',
          ((Page.Edit.setCopyState c.id state).apply S.page).slots[i]? = some slot' :=
        ⟨_, List.getElem?_eq_getElem (hmoves.length_eq ▸ hi)⟩
      obtain ⟨a, ha, hmove⟩ := forall₂_getElem? hmoves hslot'
      cases ha.symm.trans hslot
      rw [hslot']
      generalize c.id = id at hmove ⊢
      cases hmove with
      | keep => exact .inl rfl
      | @setCopyState _ r state rendered => exact .inr ⟨r, state, rfl, rendered, rfl⟩
  · have hproceed : S.proceed task part = S := hundergo
    rw [hproceed]
    exact .inl hslot

/-- The blocks evolve with every history of happenings. -/
theorem IsSound.evolves_undergoAll (hS : S.IsSound s first) (xs : List Happening) :
    S.page.Evolves (S.undergoAll xs).page := by
  induction xs generalizing S with
  | nil => exact .refl S.page
  | cons x xs ih => exact (hS.evolves_undergo x).trans (ih (hS.undergo x))

/-- A rendered block was where it is, and rendered, at every earlier moment at which its number
was given. -/
theorem IsSound.rendered_before (hS : S.IsSound s first) (xs : List Happening) {i : Nat}
    {slot : Slot} (hslot : (S.undergoAll xs).page.slots[i]? = some slot)
    (hrendered : slot.node.isRendered = true) (hgiven : slot.node.id ≤ S.page.allocated) :
    ∃ slot₀, S.page.slots[i]? = some slot₀ ∧ slot₀.node.id = slot.node.id ∧
      slot₀.node.isRendered = true := by
  obtain ⟨slot₀, hslot₀, hevolves⟩ := forall₂_getElem? (hS.evolves_undergoAll xs).slots hslot
  rcases hevolves.identity with ⟨hid, hr⟩ | hnew
  · exact ⟨slot₀, hslot₀, hid.symm, hr hrendered⟩
  · exact absurd hgiven (Nat.not_le.2 hnew)

/-! ## Copies that overlap -/

/-- Every call that copies the block with this number has ended. -/
def HasCopied (S : Session) (id : NodeId) : Prop :=
  ∀ (task : Nat) (c : Copying) (g : Bool), S.tasks[task]? = some ⟨.copying c, g⟩ → c.id = id →
    (S.result? task).isSome = true

/-- What the control of a block reads, whatever calls copied it, and in whatever order they
took their steps.  It reads what the log says.  While less time passed since it was last
switched to copied than it is to read so, it does read so if and only if no call that had
switched it before has ended since.  When every call has ended it is idle.  And a call changes
nothing but what the control of this very block reads, which is rendered and was in its place
ever since its number was given. -/
theorem copied_iff_not_reverted (hp : p.IsFresh) (xs : List Happening) (id : NodeId) :
    let S := (start s p).undergoAll xs
    let log := (start s p).switches xs
    let duration := s.config.timings.copyRevert
    (∀ state, S.page.ControlReads id state →
      state = CopySwitch.reading id log ∧
      (∀ earlier x since, log = earlier ++ x :: since → x.id = id → x.state = .copied →
        (∀ y ∈ since, y.id = id → y.state ≠ .copied) → S.world.now < x.time + duration →
          (state = .copied ↔ ∀ y ∈ since, y.id = id → ∀ z ∈ earlier, ¬y.Reverts duration z)) ∧
      (S.HasCopied id → state = .idle)) ∧
    ∀ (task part : Nat) (c : Copying) (g : Bool), S.tasks[task]? = some ⟨.copying c, g⟩ →
      c.id = id → ∀ (i : Nat) (slot : Slot), S.page.slots[i]? = some slot →
        (S.proceed task part).page.slots[i]? = some slot ∨
        ∃ r state, slot.node.id = id ∧ slot.node.content = .rendered r ∧
          (S.proceed task part).page.slots[i]? = some (slot.withCopyState r state) ∧
          ∀ past since, xs = past ++ since →
            id ≤ ((start s p).undergoAll past).page.allocated →
            ∃ slot₀, ((start s p).undergoAll past).page.slots[i]? = some slot₀ ∧
              slot₀.node.id = id ∧ slot₀.node.isRendered = true := by
  intro S log duration
  have hlogged : CopiesLogged s S log := CopiesLogged.undergoAll hp xs
  refine ⟨fun state hreads => ⟨hlogged.reads hreads, ?_, ?_⟩, ?_⟩
  · intro earlier x since hlog hid hcopied hlast htime
    rw [hlogged.reads hreads, hlog, CopySwitch.reading_eq_copied_iff hid hcopied hlast]
    constructor
    · intro hnone y hy hyid
      exact absurd hyid (hnone y hy)
    · intro hkept y hy hyid
      have hidle : y.state = .idle := by
        cases hstate : y.state with
        | idle => rfl
        | copied => exact absurd hstate (hlast y hy hyid)
      obtain ⟨mid, rest, hsince⟩ := List.append_of_mem hy
      have hbegins : (earlier ++ x :: mid) ++ [y] <+: log := ⟨rest, by rw [hlog, hsince]; simp⟩
      obtain ⟨z, hz, hreverts⟩ := hlogged.reverted hbegins hidle
      rcases List.mem_append.1 hz with hz | hz
      · exact hkept y hy hyid z hz hreverts
      · rcases List.mem_cons.1 hz with rfl | hz
        · have hpast := (hlogged.logged y (hbegins.subset (by simp))).2
          exact absurd (Nat.le_trans hreverts.time hpast) (Nat.not_le.2 htime)
        · have hz' : z ∈ since := hsince ▸ List.mem_append_left _ hz
          exact hlast z hz' (hreverts.id.symm.trans hyid) hreverts.copied
  · intro hended
    cases state with
    | idle => rfl
    | copied =>
      obtain ⟨k, c, g, ticket, deadline, hk, hid, hstage⟩ := hlogged.pending hreads
      have hresult := hended k c g hk hid
      simp [result?, hk, Activity.result?, hstage] at hresult
  · rintro task part c g ht rfl i slot hslot
    rcases slot_proceed_copying ht part hslot with hkept | ⟨r, state, hid, hr, hslot'⟩
    · exact .inl hkept
    · refine .inr ⟨r, state, hid, hr, hslot', ?_⟩
      rintro past since rfl hgiven
      have hsound : ((start s p).undergoAll past).IsSound s p := (isSound_start hp).undergoAll past
      have hafter : (((start s p).undergoAll past).undergoAll since).page.slots[i]? = some slot := by
        rw [← undergoAll_append]
        exact hslot
      rw [← hid] at hgiven ⊢
      exact hsound.rendered_before since hafter (Node.isRendered_iff.2 ⟨r, hr⟩) hgiven

/-- A block is rendered and copied three times: at once, a second later, and one and a half
seconds after that.  Of the second call neither way of writing to the clipboard works. -/
def threeCopies : List Event :=
  oneCycle ++
    .call (.copying 2 ⟨false, false⟩) :: List.replicate 3 (.proceed 1 0) ++
    .passTo 1000 :: .call (.copying 2 ⟨true, true⟩) :: List.replicate 3 (.proceed 2 0) ++
    .passTo 2000 :: .proceed 1 0 ::
    .passTo 2500 :: .call (.copying 2 ⟨true, false⟩) :: List.replicate 3 (.proceed 3 0) ++
    [.passTo 3000, .proceed 2 0, .passTo 3500]

/-- The log of three copies that overlap, and the end of each of the first two. -/
theorem switches_threeCopies :
    (start (.forRust .plain) .oneBlock).switches (threeCopies.map .event) =
      [⟨1, 2, .copied, 0⟩, ⟨2, 2, .copied, 1000⟩, ⟨1, 2, .idle, 2000⟩, ⟨3, 2, .copied, 2500⟩,
        ⟨2, 2, .idle, 3000⟩] := by
  decide +kernel

/-- One second after the last switch to copied, of the two for which the control is to read so,
it is idle: the second call has ended since. -/
theorem copied_iff_not_reverted_threeCopies :
    let S := (start (.forRust .plain) .oneBlock).undergoAll (threeCopies.map .event)
    Page.oneBlock.IsFresh ∧ S.page.ControlReads 2 .idle ∧ S.world.now < 2500 + 2000 ∧
      ∃ y ∈ [(⟨2, 2, .idle, 3000⟩ : CopySwitch)], ∃ z ∈ [(⟨1, 2, .copied, 0⟩ : CopySwitch),
        ⟨2, 2, .copied, 1000⟩, ⟨1, 2, .idle, 2000⟩], y.Reverts 2000 z := by
  intro S
  have hfresh : Page.oneBlock.IsFresh := Page.isFresh_empty.pushBlock _ _ _ _
  have hreads : S.page.ControlReads 2 .idle := by decide +kernel
  have hnow : S.world.now < 2500 + 2000 := by decide +kernel
  refine ⟨hfresh, hreads, hnow, ?_⟩
  obtain ⟨hblock, -⟩ :=
    copied_iff_not_reverted (s := .forRust .plain) hfresh (threeCopies.map .event) 2
  obtain ⟨-, hwindow, -⟩ := hblock .idle hreads
  have hiff := hwindow [⟨1, 2, .copied, 0⟩, ⟨2, 2, .copied, 1000⟩, ⟨1, 2, .idle, 2000⟩]
    ⟨3, 2, .copied, 2500⟩ [⟨2, 2, .idle, 3000⟩] switches_threeCopies rfl rfl (by decide) hnow
  by_contra hnone
  have hcopied : CopyState.idle = .copied :=
    hiff.2 fun y hy _ z hz hreverts => hnone ⟨y, hy, z, hz, hreverts⟩
  cases hcopied

/-- A control is idle although less time passed since a call made it read copied, when it was
idle before, than it is to read so. -/
theorem not_copied_threeCopies :
    ¬∀ (s : Setting) (p : Page) (xs : List Happening) (id : NodeId) (state : CopyState),
      p.IsFresh → ((start s p).undergoAll xs).page.ControlReads id state →
      ∀ earlier x since, (start s p).switches xs = earlier ++ x :: since → x.id = id →
        x.state = .copied → CopySwitch.reading id earlier = .idle →
        (∀ y ∈ since, y.id = id → y.state ≠ .copied) →
        ((start s p).undergoAll xs).world.now < x.time + s.config.timings.copyRevert →
        state = .copied := by
  intro h
  have hfresh : Page.oneBlock.IsFresh := Page.isFresh_empty.pushBlock _ _ _ _
  have hcopied := h (.forRust .plain) .oneBlock (threeCopies.map .event) 2 .idle hfresh
    (by decide +kernel)
    [⟨1, 2, .copied, 0⟩, ⟨2, 2, .copied, 1000⟩, ⟨1, 2, .idle, 2000⟩] ⟨3, 2, .copied, 2500⟩
    [⟨2, 2, .idle, 3000⟩] switches_threeCopies rfl rfl (by decide) (by decide)
    (by decide +kernel)
  cases hcopied

end Session

end PageHighlight
