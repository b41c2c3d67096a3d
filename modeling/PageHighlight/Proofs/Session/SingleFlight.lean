/-
  Proofs/Session/SingleFlight.lean --- only one cycle is at work at a time.

  WHAT THIS FILE IS FOR.  Cycles are begun by themselves, by triggers and by
  reactions, and all of them take the same flag.  `IsSingleFlight` says that the flag
  counts the cycles at work: one if it is set, none if it is not.  Every event keeps
  it (`singleFlight_after`), also one that gives an activity up, so that whoever finds
  the flag unset is alone.

  COUNTING.  A step changes the number of cycles at work of its activity by as much as
  it changes the flag (`activeCycles_step`), and nobody else's.  Sums instead of
  differences keep the natural numbers out of the way.
-/
import PageHighlight.Proofs.Session.Edits
import PageHighlight.Proofs.Session.History

set_option autoImplicit false

namespace PageHighlight

/-! ## Cycles at work -/

/-- How many cycles of an activity are at work. -/
def Activity.activeCycles (a : Activity) : Nat := a.cycles.countP (·.isActive)

/-- How many cycles of an activity are at work, unless it was given up. -/
def Task.activeCycles (t : Task) : Nat := if t.givenUp then 0 else t.activity.activeCycles

/-- How many cycles of a session are at work. -/
def Session.activeCycles (s : Session) : Nat :=
  s.tasks.foldr (fun t n => t.activeCycles + n) 0

/-- The flag counts the cycles at work. -/
def Session.IsSingleFlight (s : Session) : Prop := s.activeCycles = s.world.running.toNat

/-! ## Steps -/

namespace Render

theorem running_giveUp (s : Setting) (w : World) (r : Render) :
    (r.giveUp s w).running = w.running := by
  unfold giveUp
  split <;> rfl

theorem running_giveUps (s : Setting) (rs : List Render) (w : World) :
    (rs.foldl (fun w r => r.giveUp s w) w).running = w.running := by
  induction rs generalizing w with
  | nil => rfl
  | cons r rs ih => rw [List.foldl_cons, ih, running_giveUp]

end Render

namespace Cycle

theorem isActive_next (b : Batches) : b.next.isActive = true := by
  unfold Batches.next
  split <;> rfl

/-- A cycle is at work when it sets the flag, and until it unsets it. -/
theorem isActive_step (s : Setting) (part : Nat) (w : World) (c : Cycle)
    (hc : c.isActive = true → w.running = true) :
    (c.step s part w).2.isActive.toNat + w.running.toNat =
      c.isActive.toNat + (c.step s part w).1.running.toNat := by
  cases c with
  | start =>
    cases hr : w.running with
    | true => simp [step, hr, isActive]
    | false => simp [step, hr, isActive]
  | survey =>
    simp only [step]
    split <;> rfl
  | mark theme ids =>
    have hactive : (begin s theme ids).isActive = true := isActive_next _
    show (begin s theme ids).isActive.toNat + w.running.toNat = 1 + w.running.toNat
    rw [hactive]
    rfl
  | batch b =>
    simp only [step]
    split
    · rw [isActive_next]
      rfl
    · split
      · rfl
      · rw [(Render.acts _ _ _).running]
        rfl
  | unmark ids tally => rfl
  | release n tally =>
    have hr : w.running = true := hc rfl
    simp [step, isActive, hr]
  | done report => rfl

theorem not_isActive_of_report? {c : Cycle} (h : c.report?.isSome = true) :
    c.isActive = false := by
  cases c with
  | done report => rfl
  | _ => cases h

/-- Giving a cycle up unsets the flag if it was at work. -/
theorem running_giveUp (s : Setting) (w : World) (c : Cycle) :
    (c.giveUp s w).running = (w.running && !c.isActive) := by
  rw [giveUp_eq]
  cases hc : c.isActive with
  | true => simp
  | false => simp [Render.running_giveUps]

/-- What became of a list of cycles changes the count as it changes the cycle. -/
theorem countP_replaced {cs cs' : List Cycle} {c c' : Cycle} (h : Replaced cs c c' cs') :
    cs'.countP (·.isActive) + c.isActive.toNat = cs.countP (·.isActive) + c'.isActive.toNat := by
  have hcons : ∀ (c : Cycle) (l : List Cycle),
      (c :: l).countP (·.isActive) = l.countP (·.isActive) + c.isActive.toNat := by
    intro c l
    rw [List.countP_cons]
    cases c.isActive <;> rfl
  obtain ⟨before, after, rfl, rfl | ⟨hreport, rfl⟩⟩ := h
  · simp only [List.countP_append, hcons]
    omega
  · rw [not_isActive_of_report? hreport]
    simp only [List.countP_append, hcons, Bool.toNat_false]
    omega

end Cycle

namespace World

theorem Ticketed.running {w w' : World} (h : w.Ticketed w') : w'.running = w.running := by
  obtain ⟨n, rfl⟩ := h
  rfl

end World

namespace Activity

/-- A step changes the cycles at work of its activity as it changes the flag. -/
theorem activeCycles_step (s : Setting) (part : Nat) (w : World) (a : Activity)
    (ha : 0 < a.activeCycles → w.running = true) :
    (a.step s part w).2.activeCycles + w.running.toNat =
      a.activeCycles + (a.step s part w).1.running.toNat := by
  have hstep := stepped s part w a
  generalize (a.step s part w).1 = w' at hstep ⊢
  generalize (a.step s part w).2 = a' at hstep ⊢
  unfold activeCycles at ha ⊢
  cases hstep with
  | quiet world same noRender => rw [same, world.running]
  | begins world before after old new noRender =>
    rw [old, new, world.running]
    simp [List.countP_append, Cycle.isActive]
  | render r is =>
    subst is
    rw [(Render.acts _ _ _).running]
    rfl
  | cycle c part' world replaced noRender =>
    have hc : c.isActive = true → w.running = true := by
      intro hactive
      exact ha (List.countP_pos_iff.2 ⟨c, replaced.mem_before, hactive⟩)
    have hcount := Cycle.countP_replaced replaced
    have hcycle := Cycle.isActive_step s part' w c hc
    rw [world.running]
    omega
  | restores is world old new noRender =>
    rw [old, new, world.running]
    rfl
  | takes observer ticket is new noRender =>
    subst is
    rw [new]
    rfl
  | copies c is =>
    subst is
    rw [(Copying.engines_step s w c).2]
    rfl

theorem running_giveUps (s : Setting) (ts : List Trigger) (w : World) :
    (ts.foldl (Trigger.giveUp s) w).running =
      (w.running && !(ts.flatMap Trigger.cycles).any (·.isActive)) := by
  induction ts generalizing w with
  | nil => simp
  | cons t ts ih =>
    have ht : (t.giveUp s w).running = (w.running && !t.cycles.any (·.isActive)) := by
      cases t with
      | cycling c => simp [Trigger.giveUp, Trigger.cycles, Cycle.running_giveUp]
      | _ => simp [Trigger.giveUp, Trigger.cycles]
    rw [List.foldl_cons, ih, ht, List.flatMap_cons, List.any_append, Bool.not_or, Bool.and_assoc]

/-- Giving an activity up unsets the flag if one of its cycles was at work. -/
theorem running_giveUp (s : Setting) (w : World) (a : Activity) :
    (a.giveUp s w).running = (w.running && !a.cycles.any (·.isActive)) := by
  have reaction : ∀ r : Reaction,
      (r.giveUp s w).running = (w.running && !r.cycles.any (·.isActive)) := by
    intro r
    cases r with
    | cycling c => simp [Reaction.giveUp, Reaction.cycles, Cycle.running_giveUp]
    | _ => simp [Reaction.giveUp, Reaction.cycles]
  cases a with
  | render r => simp [giveUp, cycles, Render.running_giveUp]
  | cycle c => simp [giveUp, cycles, Cycle.running_giveUp]
  | reaction r => exact reaction r
  | reactor r =>
    cases r with
    | listening i ticket => simp [giveUp, cycles, Reactor.giveUp, Reactor.cycles]
    | reacting i r => exact reaction r
  | triggers t =>
    cases t with
    | start => simp [giveUp, cycles, Triggers.giveUp, Triggers.cycles]
    | waiting ts => exact running_giveUps s ts w
  | _ => simp [giveUp, cycles]

end Activity

/-! ## Events and histories -/

namespace Session

/-- Replacing an element changes what is counted as it changes the element. -/
theorem foldr_add_set {α : Type} (f : α → Nat) {l : List α} {i : Nat} {a : α}
    (h : l[i]? = some a) (b : α) :
    (l.set i b).foldr (fun x n => f x + n) 0 + f a = l.foldr (fun x n => f x + n) 0 + f b := by
  induction l generalizing i with
  | nil => cases h
  | cons c l ih =>
    cases i with
    | zero =>
      cases h
      simp only [List.set_cons_zero, List.foldr_cons]
      omega
    | succ i =>
      have hrest := ih h
      simp only [List.set_cons_succ, List.foldr_cons]
      omega

theorem le_foldr_add {α : Type} (f : α → Nat) {l : List α} {a : α} (h : a ∈ l) :
    f a ≤ l.foldr (fun x n => f x + n) 0 := by
  induction l with
  | nil => cases h
  | cons c l ih =>
    rw [List.foldr_cons]
    rcases List.mem_cons.1 h with rfl | h
    · omega
    · have hrest := ih h
      omega

theorem activeCycles_set {S : Session} {task : Nat} {t : Task} (h : S.tasks[task]? = some t)
    (t' : Task) (w : World) :
    activeCycles { S with world := w, tasks := S.tasks.set task t' } + t.activeCycles =
      S.activeCycles + t'.activeCycles :=
  foldr_add_set Task.activeCycles h t'

theorem activeCycles_le {S : Session} {t : Task} (h : t ∈ S.tasks) :
    t.activeCycles ≤ S.activeCycles :=
  le_foldr_add Task.activeCycles h

/-- An activity with a cycle at work is the only one, and the flag is set. -/
theorem IsSingleFlight.running_of_pos {S : Session} (h : S.IsSingleFlight) {t : Task}
    (ht : t ∈ S.tasks) (hpos : 0 < t.activeCycles) :
    S.world.running = true ∧ t.activeCycles = 1 := by
  have hle := activeCycles_le ht
  unfold IsSingleFlight at h
  cases hr : S.world.running with
  | false =>
    rw [hr, Bool.toNat_false] at h
    omega
  | true =>
    rw [hr, Bool.toNat_true] at h
    exact ⟨rfl, by omega⟩

/-- Where the flag is not set, no cycle is at work. -/
theorem IsSingleFlight.not_isActive {S : Session} (h : S.IsSingleFlight)
    (hr : S.world.running = false) {t : Task} (ht : t ∈ S.tasks) (hlive : t.givenUp = false)
    {c : Cycle} (hc : c ∈ t.activity.cycles) : c.isActive = false := by
  cases hactive : c.isActive with
  | false => rfl
  | true =>
    have hpos : 0 < t.activeCycles := by
      unfold Task.activeCycles
      rw [hlive]
      exact List.countP_pos_iff.2 ⟨c, hc, hactive⟩
    rw [(h.running_of_pos ht hpos).1] at hr
    cases hr

theorem singleFlight_proceed {S : Session} (h : S.IsSingleFlight) (task part : Nat) :
    (S.proceed task part).IsSingleFlight := by
  rcases S.proceed_cases task part with he | ⟨t, ht, hlive, he⟩
  · rw [he]
    exact h
  · have hmem : t ∈ S.tasks := List.mem_of_getElem? ht
    have hactive : t.activeCycles = t.activity.activeCycles := by
      rw [Task.activeCycles, hlive]
      rfl
    have hstep := Activity.activeCycles_step S.setting part S.world t.activity fun hpos =>
      (h.running_of_pos hmem (hactive ▸ hpos)).1
    have hset := activeCycles_set ht
      { t with activity := (t.activity.step S.setting part S.world).2 }
      (t.activity.step S.setting part S.world).1
    have hactive' : Task.activeCycles
        { t with activity := (t.activity.step S.setting part S.world).2 } =
          (t.activity.step S.setting part S.world).2.activeCycles := by
      rw [Task.activeCycles, hlive]
      rfl
    rw [he]
    unfold IsSingleFlight at h ⊢
    rw [hactive, hactive'] at hset
    show activeCycles _ = (t.activity.step S.setting part S.world).1.running.toNat
    omega

theorem singleFlight_giveUp {S : Session} (h : S.IsSingleFlight) (task : Nat) :
    (S.giveUp task).IsSingleFlight := by
  rcases S.giveUp_cases task with he | ⟨t, ht, hlive, he⟩
  · rw [he]
    exact h
  · have hmem : t ∈ S.tasks := List.mem_of_getElem? ht
    have hset := activeCycles_set ht { t with givenUp := true }
      (t.activity.giveUp S.setting S.world)
    have hgone : Task.activeCycles { t with givenUp := true } = 0 := rfl
    have hrunning := Activity.running_giveUp S.setting S.world t.activity
    have hactive : t.activeCycles = t.activity.cycles.countP (·.isActive) := by
      rw [Task.activeCycles, hlive]
      rfl
    rw [he]
    unfold IsSingleFlight
    show activeCycles _ = (t.activity.giveUp S.setting S.world).running.toNat
    rw [hrunning]
    cases hany : t.activity.cycles.any (·.isActive) with
    | false =>
      have hnone : t.activeCycles = 0 := by
        rw [hactive, List.countP_eq_zero]
        intro c hc
        exact List.any_eq_false.1 hany c hc
      unfold IsSingleFlight at h
      simp only [Bool.not_false, Bool.and_true]
      omega
    | true =>
      obtain ⟨c, hc, hcactive⟩ := List.any_eq_true.1 hany
      have hpos : 0 < t.activeCycles := by
        rw [hactive]
        exact List.countP_pos_iff.2 ⟨c, hc, hcactive⟩
      obtain ⟨hr, hone⟩ := h.running_of_pos hmem hpos
      unfold IsSingleFlight at h
      rw [hr, Bool.toNat_true] at h
      simp only [Bool.not_true, Bool.and_false, Bool.toNat_false]
      omega

theorem activeCycles_make (c : Call) (w : World) : (c.make w).1.activeCycles = 0 := by
  cases c <;> rfl

/-- Every event keeps the flag the count of the cycles at work. -/
theorem singleFlight_apply {S : Session} (h : S.IsSingleFlight) (e : Event) :
    (S.apply e).IsSingleFlight := by
  cases e with
  | call c =>
    have hrunning : (c.make S.world).2.running = S.world.running := by
      cases c <;> rfl
    have hnew : Task.activeCycles ⟨(c.make S.world).1, false⟩ = 0 := activeCycles_make c S.world
    unfold IsSingleFlight activeCycles at h ⊢
    show (S.tasks ++ [Task.mk (c.make S.world).1 false]).foldr
      (fun t n => t.activeCycles + n) 0 = (c.make S.world).2.running.toNat
    rw [hrunning, List.foldr_append, List.foldr_cons, List.foldr_nil, hnew]
    exact h
  | proceed task part => exact singleFlight_proceed h task part
  | giveUp task => exact singleFlight_giveUp h task
  | _ => exact h

theorem singleFlight_start (setting : Setting) (p : Page) : (start setting p).IsSingleFlight := rfl

/-- After every history of a session at most one cycle is at work, and the flag tells
whether one is. -/
theorem singleFlight_after {S : Session} (h : S.IsSingleFlight) (es : List Event) :
    (S.after es).IsSingleFlight := by
  induction es generalizing S with
  | nil => exact h
  | cons e es ih => exact ih (singleFlight_apply h e)

end Session

end PageHighlight
