/-
  Proofs/Session/CopySteps.lean --- what one happening does to the copies of a session.

  WHAT THIS FILE IS FOR.  A call that copies a block takes four steps: it looks for the
  block, writes to the clipboard, makes the control read that the block was copied, and
  makes it idle when its time is over.  `undergo_cases` says that a happening is such a
  step, or spares the copies: then the calls are as far as they were, and no control reads
  anything else but the idle one of a block that was put in.
-/
import PageHighlight.Proofs.Page.CopyStates
import PageHighlight.Proofs.Session.Time
import PageHighlight.Proofs.Session.Turns

set_option autoImplicit false

namespace PageHighlight

/-- A call made the control of its block read something. -/
structure CopySwitch where
  /-- The number of the call among the activities. -/
  call : Nat
  /-- The number of the block. -/
  id : NodeId
  /-- What the control reads from then on. -/
  state : CopyState
  /-- When this was. -/
  time : Nat
  deriving DecidableEq, Repr

/-! ## One call -/

namespace Copying

/-- Whether it takes a step at this time, if it is let. -/
def isDue (now : Nat) (c : Copying) : Bool :=
  match c.stage with
  | .showing _ deadline => deadline ≤ now
  | .done _ => false
  | _ => true

/-- What this step makes the control of the block read. -/
def switch? (c : Copying) : Option CopyState :=
  match c.stage with
  | .marking => some .copied
  | .showing _ _ => some .idle
  | _ => none

/-- It has found its block, and has not ended. -/
def IsUnderWay (c : Copying) : Prop :=
  match c.stage with
  | .start | .done _ => False
  | _ => True

variable {s : Setting} {w : World}

theorem canGoOn_readiness (s : Setting) (w : World) (c : Copying) :
    w.canGoOn s c.readiness = c.isDue w.now := by
  obtain ⟨id, faults, stage⟩ := c
  cases stage <;> rfl

theorem id_step (s : Setting) (w : World) (c : Copying) : (c.step s w).2.id = c.id := by
  unfold step
  split
  · split <;> rfl
  all_goals rfl

/-- What a step that is due does to the page. -/
theorem page_step_of_isDue {c : Copying} (h : c.isDue w.now = true) :
    (c.step s w).1.page =
      match c.switch? with
      | some state => (Page.Edit.setCopyState c.id state).apply w.page
      | none => w.page := by
  obtain ⟨id, faults, stage⟩ := c
  cases stage with
  | start =>
    simp only [step, switch?]
    split <;> rfl
  | done fault => cases h
  | _ => rfl

/-- A call is under way after a step only if it was before, or its block is rendered. -/
theorem IsUnderWay.before {c : Copying} (h : (c.step s w).2.IsUnderWay) :
    c.IsUnderWay ∨ ∃ state, w.page.ControlReads c.id state := by
  obtain ⟨id, faults, stage⟩ := c
  cases stage with
  | start =>
    cases ht : w.page.copyText? id with
    | none =>
      simp only [step, ht] at h
      exact h.elim
    | some t =>
      obtain ⟨n, hn, hr⟩ := Option.bind_eq_some_iff.1 ht
      obtain ⟨r, hr, -⟩ := Option.map_eq_some_iff.1 hr
      obtain ⟨slot, hslot, rfl⟩ := Option.map_eq_some_iff.1 hn
      obtain ⟨hmem, hid⟩ := Page.slot?_eq_some_mem hslot
      exact .inr ⟨r.copy.state, slot, hmem, hid, r, Node.rendered?_eq_some.1 hr, rfl⟩
  | done fault => exact h.elim
  | _ => exact .inl trivial

/-- A control shows that it was copied because the last step of the call made it so. -/
theorem stage_before {c : Copying} (hdue : c.isDue w.now = true) {ticket deadline : Nat}
    (h : (c.step s w).2.stage = .showing ticket deadline) :
    c.stage = .marking ∧ deadline = w.now + s.config.timings.copyRevert := by
  obtain ⟨id, faults, stage⟩ := c
  cases stage with
  | start =>
    simp only [step] at h
    split at h <;> cases h
  | writing t => cases h
  | marking =>
    cases h
    exact ⟨rfl, rfl⟩
  | showing ticket' deadline' => cases h
  | done fault => cases hdue

end Copying

/-! ## Other activities -/

theorem Setting.state_of_render? {s : Setting} {engine : Engine} {o : SourceBlock} {theme : Text}
    {r : RenderedBlock} (h : s.render? engine o theme = .ok r) : r.copy.state = .idle := by
  simp only [render?] at h
  split at h
  · cases h
  · cases h
    rfl

/-- What a render does to the page spares the controls. -/
theorem Render.sparesControls_step (s : Setting) (w : World) (r : Render) :
    ∃ es : List Page.Edit, (∀ e ∈ es, e.SparesControls) ∧
      (r.step s w).1.page = Page.Edit.applyAll es w.page := by
  by_cases hwill : ∃ o block, r.WillPut s o block
  · obtain ⟨o, block, hwill⟩ := hwill
    refine ⟨[.replace r.id block], fun e he => ?_, hwill.step.1⟩
    obtain ⟨engine, -, hblock⟩ := hwill
    rw [List.mem_singleton.1 he]
    exact Setting.state_of_render? hblock
  · cases hdone : r.outcome? with
    | none =>
      obtain ⟨⟨es, hes, hpage⟩, -⟩ := Render.step_of_not_willPut (s := s) (w := w)
        (fun o block h => hwill ⟨o, block, h⟩) hdone
      refine ⟨es, fun e he => ?_, hpage⟩
      rw [hes e he]
      trivial
    | some outcome =>
      rw [step_of_outcome? hdone]
      exact ⟨[], List.forall_mem_nil _, rfl⟩

namespace Activity

/-- Whatever is no copy spares the controls. -/
theorem sparesControls_step (s : Setting) (part : Nat) (w : World) {a : Activity}
    (ha : ∀ c, a ≠ .copying c) : ∃ es : List Page.Edit, (∀ e ∈ es, e.SparesControls) ∧
      (a.step s part w).1.page = Page.Edit.applyAll es w.page := by
  have same : ∀ w' : World, w'.page = w.page → ∃ es : List Page.Edit,
      (∀ e ∈ es, e.SparesControls) ∧ w'.page = Page.Edit.applyAll es w.page :=
    fun w' hw' => ⟨[], List.forall_mem_nil _, hw'⟩
  have hstep := stepped s part w a
  generalize (a.step s part w).1 = w' at hstep ⊢
  generalize (a.step s part w).2 = a' at hstep
  cases hstep with
  | quiet world old noRender => exact same _ world.page
  | begins world before after old new noRender => exact same _ world.page
  | render r is => exact r.sparesControls_step s w
  | cycle c part' world replaced noRender =>
    rcases c.page_step_cases s part' w with ⟨es, hpage, hes⟩ | ⟨r, -, hworld⟩
    · refine ⟨es, fun e he => ?_, world.page.trans hpage⟩
      obtain ⟨ids, -, id, -, rfl | rfl⟩ := hes e he <;> trivial
    · obtain ⟨es, hes, hpage⟩ := r.sparesControls_step s w
      refine ⟨es, hes, ?_⟩
      rw [world.page, hworld, hpage]
  | restores is world old new noRender =>
    refine ⟨_, fun e he => ?_, world.page.trans w.page_restored⟩
    obtain ⟨id, -, rfl⟩ := List.mem_map.1 he
    trivial
  | takes observer ticket is new noRender => exact same _ rfl
  | copies c is => exact absurd is (ha c)

theorem ne_copying_step (s : Setting) (part : Nat) (w : World) {a : Activity}
    (ha : ∀ c, a ≠ .copying c) (c : Copying) : (a.step s part w).2 ≠ .copying c := by
  cases a with
  | copying c' => exact absurd rfl (ha c')
  | _ => exact Activity.noConfusion

end Activity

/-! ## Happenings -/

/-- The copies among some activities are those among the ones before, but for such as have not
begun. -/
structure Task.SameCopies (ts ts' : List Task) : Prop where
  kept : ∀ {k : Nat} {c : Copying} {g : Bool}, ts[k]? = some ⟨.copying c, g⟩ →
    ∃ g', ts'[k]? = some ⟨.copying c, g'⟩
  known : ∀ {k : Nat} {c : Copying} {g' : Bool}, ts'[k]? = some ⟨.copying c, g'⟩ →
    (∃ g, ts[k]? = some ⟨.copying c, g⟩) ∨ c.stage = .start

namespace Task.SameCopies

theorem refl (ts : List Task) : SameCopies ts ts := ⟨fun h => ⟨_, h⟩, fun h => .inl ⟨_, h⟩⟩

theorem concat (ts : List Task) {a : Activity} (ha : ∀ c, a = .copying c → c.stage = .start) :
    SameCopies ts (ts ++ [⟨a, false⟩]) := by
  constructor
  · intro k c g hk
    have hlt : k < ts.length := (List.getElem?_eq_some_iff.1 hk).1
    exact ⟨g, by rw [List.getElem?_append_left hlt, hk]⟩
  · intro k c g hk
    rcases Nat.lt_trichotomy k ts.length with hlt | rfl | hgt
    · rw [List.getElem?_append_left hlt] at hk
      exact .inl ⟨g, hk⟩
    · rw [List.getElem?_concat_length, Option.some.injEq] at hk
      exact .inr (ha c (congrArg Task.activity hk))
    · rw [List.getElem?_eq_none (by rw [List.length_append]; exact hgt)] at hk
      cases hk

theorem set {ts : List Task} {j : Nat} {t t' : Task} (ht : ts[j]? = some t)
    (h : t'.activity = t.activity ∨
      (∀ c, t.activity ≠ .copying c) ∧ ∀ c, t'.activity ≠ .copying c) :
    SameCopies ts (ts.set j t') := by
  have hlt : j < ts.length := (List.getElem?_eq_some_iff.1 ht).1
  constructor
  · intro k c g hk
    by_cases hj : j = k
    · subst hj
      cases ht.symm.trans hk
      obtain ⟨a', g'⟩ := t'
      rcases h with rfl | h
      · exact ⟨g', List.getElem?_set_self hlt⟩
      · exact absurd rfl (h.1 c)
    · exact ⟨g, by rw [List.getElem?_set_ne hj, hk]⟩
  · intro k c g hk
    by_cases hj : j = k
    · subst hj
      rw [List.getElem?_set_self hlt] at hk
      cases hk
      obtain ⟨a, g'⟩ := t
      rcases h with rfl | h
      · exact .inl ⟨g', ht⟩
      · exact absurd rfl (h.2 c)
    · rw [List.getElem?_set_ne hj] at hk
      exact .inl ⟨g, hk⟩

end Task.SameCopies

namespace Session

/-- The session after a call that copies a block took a step. -/
def stepCopy (S : Session) (task : Nat) (c : Copying) : Session :=
  { S with
    world := (c.step S.setting S.world).1
    tasks := S.tasks.set task ⟨.copying (c.step S.setting S.world).2, false⟩ }

/-- What a happening makes a control read, if it is a step of a call that copies a block. -/
def switch? (S : Session) : Happening → Option CopySwitch
  | .event (.proceed task 0) =>
    match S.tasks[task]? with
    | some ⟨.copying c, false⟩ =>
      if c.isDue S.world.now then
        c.switch?.map fun state => ⟨task, c.id, state, S.world.now⟩
      else none
    | _ => none
  | _ => none

/-- A session after something that was no step of a call that copies a block. -/
structure SparesCopies (S S' : Session) : Prop where
  tasks : Task.SameCopies S.tasks S'.tasks
  page : ∃ es : List Page.Edit, (∀ e ∈ es, e.SparesControls) ∧
    S'.page.slots = (Page.Edit.applyAll es S.page).slots

variable {s : Setting} {first p : Page} {S : Session} {task part : Nat} {c : Copying} {g : Bool}

/-- A call that copies a block takes a step if it is not given up and it is due. -/
theorem proceed_copying (ht : S.tasks[task]? = some ⟨.copying c, g⟩) (part : Nat) :
    S.proceed task part =
      if g = false ∧ part = 0 ∧ c.isDue S.world.now = true then S.stepCopy task c else S := by
  have hmovable : (movable S.world S.setting ⟨.copying c, g⟩).any (·.1 = part) = true ↔
      g = false ∧ part = 0 ∧ c.isDue S.world.now = true := by
    have hready := c.canGoOn_readiness S.setting S.world
    have hresult : c.isDue S.world.now = true → (Activity.copying c).result? = none := by
      obtain ⟨id, faults, stage⟩ := c
      cases stage with
      | done fault => exact fun h => by cases h
      | _ => exact fun _ => rfl
    cases hdue : c.isDue S.world.now with
    | false => simp [movable, Activity.parts, hready, hdue]
    | true =>
      have hnone := hresult hdue
      have hpart : 0 = part ↔ part = 0 := eq_comm
      cases g <;> simp [movable, Task.isLive, Activity.parts, hready, hdue, hnone, hpart]
  unfold proceed
  simp only [ht]
  by_cases h : g = false ∧ part = 0 ∧ c.isDue S.world.now = true
  · rw [if_pos (hmovable.2 h), if_pos h]
    obtain ⟨rfl, -, -⟩ := h
    rfl
  · rw [if_neg (mt hmovable.1 h), if_neg h]

theorem undergo_of_copying (ht : S.tasks[task]? = some ⟨.copying c, g⟩) (part : Nat) :
    (g = false ∧ part = 0 ∧ c.isDue S.world.now = true ∧
      S.undergo (.event (.proceed task part)) = S.stepCopy task c) ∨
    (S.undergo (.event (.proceed task part)) = S ∧
      S.switch? (.event (.proceed task part)) = none) := by
  have hproceed : S.undergo (.event (.proceed task part)) = S.proceed task part := rfl
  rw [hproceed, proceed_copying ht]
  split
  · next h => exact .inl ⟨h.1, h.2.1, h.2.2, rfl⟩
  · next h =>
    refine .inr ⟨rfl, ?_⟩
    cases part with
    | succ n => rfl
    | zero =>
      cases g with
      | true => simp only [switch?, ht]
      | false =>
        have hdue : ¬c.isDue S.world.now = true := fun hdue => h ⟨rfl, rfl, hdue⟩
        simp only [switch?, ht, if_neg hdue]

theorem switch?_of_isDue (ht : S.tasks[task]? = some ⟨.copying c, false⟩)
    (hdue : c.isDue S.world.now = true) :
    S.switch? (.event (.proceed task 0)) =
      c.switch?.map fun state => ⟨task, c.id, state, S.world.now⟩ := by
  simp only [switch?, ht, if_pos hdue]

theorem switch?_of_ne_copying {t : Task} (ht : S.tasks[task]? = some t)
    (hne : ∀ c, t.activity ≠ .copying c) (part : Nat) :
    S.switch? (.event (.proceed task part)) = none := by
  cases part with
  | succ n => rfl
  | zero =>
    obtain ⟨a, g⟩ := t
    simp only [switch?, ht]
    split
    · next c h =>
      cases h
      exact absurd rfl (hne c)
    · rfl

theorem SparesCopies.of_slots_eq {S' : Session} (htasks : Task.SameCopies S.tasks S'.tasks)
    (hslots : S'.page.slots = S.page.slots) : S.SparesCopies S' :=
  ⟨htasks, [], List.forall_mem_nil _, hslots⟩

/-- A happening is a step of a call that copies a block, or spares the copies. -/
theorem undergo_cases (S : Session) (x : Happening) :
    (∃ task c, x = .event (.proceed task 0) ∧ S.tasks[task]? = some ⟨.copying c, false⟩ ∧
      c.isDue S.world.now = true ∧ S.undergo x = S.stepCopy task c) ∨
    (S.switch? x = none ∧ S.SparesCopies (S.undergo x)) := by
  have same : ∀ x : Happening, (S.undergo x).tasks = S.tasks →
      (S.undergo x).page.slots = S.page.slots → S.SparesCopies (S.undergo x) := by
    intro x htasks hslots
    refine .of_slots_eq ?_ hslots
    rw [htasks]
    exact .refl S.tasks
  cases x with
  | restore id =>
    refine .inr ⟨rfl, .refl S.tasks, [.restore id], fun e he => ?_, rfl⟩
    rw [List.mem_singleton.1 he]
    trivial
  | event e =>
    cases e with
    | proceed task part =>
      by_cases hcopying : ∃ c g, S.tasks[task]? = some ⟨.copying c, g⟩
      · obtain ⟨c, g, ht⟩ := hcopying
        rcases undergo_of_copying ht part with ⟨rfl, rfl, hdue, he⟩ | ⟨he, hnone⟩
        · exact .inl ⟨task, c, rfl, ht, hdue, he⟩
        · refine .inr ⟨hnone, same _ ?_ ?_⟩
          · rw [he]
          · rw [he]
      · refine .inr ?_
        rcases S.proceed_cases task part with he | ⟨t, ht, -, he⟩
        · refine ⟨?_, same _ (congrArg tasks he) (congrArg (·.page.slots) he)⟩
          cases ht : S.tasks[task]? with
          | none =>
            cases part with
            | zero => simp only [switch?, ht]
            | succ n => rfl
          | some t =>
            refine switch?_of_ne_copying ht (fun c hc => hcopying ⟨c, t.givenUp, ?_⟩) part
            rw [ht, ← hc]
        · have hne : ∀ c, t.activity ≠ .copying c :=
            fun c hc => hcopying ⟨c, t.givenUp, by rw [ht, ← hc]⟩
          refine ⟨switch?_of_ne_copying ht hne part, ?_⟩
          obtain ⟨es, hes, hpage⟩ := t.activity.sparesControls_step S.setting part S.world hne
          have hundergo : S.undergo (.event (.proceed task part)) = _ := he
          rw [hundergo]
          refine ⟨.set ht (.inr ⟨hne, t.activity.ne_copying_step S.setting part S.world hne⟩), es,
            hes, congrArg Page.slots hpage⟩
    | call c =>
      refine .inr ⟨rfl, .of_slots_eq (.concat S.tasks fun c' hc' => ?_)
        (World.alike_make c S.world).slots⟩
      cases c with
      | copying id faults =>
        cases hc'
        rfl
      | _ => cases hc'
    | giveUp task =>
      refine .inr ⟨rfl, ?_⟩
      rcases S.giveUp_cases task with he | ⟨t, ht, -, he⟩
      · exact same _ (congrArg tasks he) (congrArg (·.page.slots) he)
      · have hundergo : S.undergo (.event (.giveUp task)) = _ := he
        rw [hundergo]
        exact .of_slots_eq (.set ht (.inl rfl))
          (congrArg Page.slots (t.activity.page_giveUp S.setting S.world))
    | restoreAll =>
      refine .inr ⟨rfl, .refl S.tasks, _, fun e he => ?_, congrArg Page.slots S.world.page_restored⟩
      obtain ⟨id, -, rfl⟩ := List.mem_map.1 he
      trivial
    | setRootClass c on =>
      exact .inr ⟨rfl, same _ rfl
        (World.alike_changeRoot (RootElement.setClass c on) S.world).slots⟩
    | setRootAttr name value =>
      exact .inr ⟨rfl, same _ rfl
        (World.alike_changeRoot (RootElement.setAttr name value) S.world).slots⟩
    | setPrefersDark dark =>
      exact .inr ⟨rfl, same _ rfl (World.alike_setPrefersDark dark S.world).slots⟩
    | setReady state => exact .inr ⟨rfl, same _ rfl (World.alike_setReady state S.world).slots⟩
    | arrive => exact .inr ⟨rfl, same _ rfl rfl⟩
    | openGate => exact .inr ⟨rfl, same _ rfl rfl⟩
    | passTo now => exact .inr ⟨rfl, same _ rfl rfl⟩

end Session

end PageHighlight
