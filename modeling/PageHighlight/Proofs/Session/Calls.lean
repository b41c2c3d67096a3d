/-
  Proofs/Session/Calls.lean --- what a call of a cycle finds, and what it leaves behind.

  WHAT THIS FILE IS FOR.  A cycle is called by itself, by a reaction or by a trigger,
  and any number of calls may overlap.  A call that finds another one at work returns
  at once and has changed nothing (`proceed_start_of_running`); one that finds none is
  at work itself (`proceed_start`); and however the call at work ends, the next one
  finds none (`running_of_ended`).

  CALLERS.  `Activity.callAt` is the call that a part of an activity belongs to.  What
  the caller does with a call that has ended is its own affair: a reaction waits, a
  trigger is done.  `Session.Turned` therefore says that the call has its next stage,
  or was left out because it has ended.
-/
import PageHighlight.Proofs.Session.SingleFlight

set_option autoImplicit false

namespace PageHighlight

/-! ## The call that a part belongs to -/

/-- The call of a reaction. -/
def Reaction.call? : Reaction → Option Cycle
  | .cycling c => some c
  | _ => none

/-- The call of a trigger. -/
def Trigger.call? : Trigger → Option Cycle
  | .cycling c => some c
  | _ => none

/-- The call that the part at an index belongs to, if the parts of triggers are
counted through. -/
def Triggers.callAt : (part : Nat) → List Trigger → Option Cycle
  | _, [] => none
  | part, t :: ts =>
    if part < t.parts.length then t.call? else callAt (part - t.parts.length) ts

/-- The call that the part at an index belongs to. -/
def Activity.callAt (part : Nat) : Activity → Option Cycle
  | cycle c => some c
  | reaction r | reactor (.reacting _ r) => r.call?
  | triggers (.waiting ts) => Triggers.callAt part ts
  | _ => none

/-- A part of an activity that was not given up belongs to a call. -/
def Session.CallAt (S : Session) (task part : Nat) (c : Cycle) : Prop :=
  ∃ t, S.tasks[task]? = some t ∧ t.givenUp = false ∧ part < t.activity.parts.length ∧
    t.activity.callAt part = some c

/-- A call of an activity went from one stage to another, and no other activity did
anything.  An activity that is the call itself has the new stage. -/
def Session.Turned (S S' : Session) (task : Nat) (c c' : Cycle) : Prop :=
  ∃ t a, S.tasks[task]? = some t ∧ S'.tasks = S.tasks.set task { t with activity := a } ∧
    Cycle.Replaced t.activity.cycles c c' a.cycles ∧
    (t.activity = .cycle c → a = .cycle c')

/-! ## A step of a part is a step of its call -/

namespace Trigger

theorem eq_of_call? {t : Trigger} {c : Cycle} (h : t.call? = some c) : t = .cycling c := by
  cases t with
  | cycling c' =>
    cases h
    rfl
  | _ => cases h

end Trigger

namespace Triggers

theorem step_of_callAt (s : Setting) (w : World) {part : Nat} {ts : List Trigger} {c : Cycle}
    (h : callAt part ts = some c) :
    ∃ k, (stepAt s part w ts).1 = (c.step s k w).1 ∧
      Cycle.Replaced (ts.flatMap Trigger.cycles) c (c.step s k w).2
        ((stepAt s part w ts).2.flatMap Trigger.cycles) := by
  induction ts generalizing part with
  | nil => cases h
  | cons t ts ih =>
    by_cases hp : part < t.parts.length
    · rw [callAt, if_pos hp] at h
      cases Trigger.eq_of_call? h
      have hstep : stepAt s part w (.cycling c :: ts) =
          ((c.step s part w).1, (Trigger.step s part w (.cycling c)).2 :: ts) := by
        rw [stepAt, if_pos hp]
        rfl
      refine ⟨part, by rw [hstep], [], ts.flatMap Trigger.cycles, rfl, ?_⟩
      rw [hstep]
      cases hr : (c.step s part w).2.report?.isSome with
      | false => exact .inl (by simp [Trigger.step, hr, Trigger.cycles])
      | true => exact .inr ⟨rfl, by simp [Trigger.step, hr, Trigger.cycles]⟩
    · rw [callAt, if_neg hp] at h
      obtain ⟨k, hworld, before, after, hold, hnew⟩ := ih h
      have hstep : stepAt s part w (t :: ts) =
          ((stepAt s (part - t.parts.length) w ts).1,
            t :: (stepAt s (part - t.parts.length) w ts).2) := by
        rw [stepAt, if_neg hp]
      refine ⟨k, by rw [hstep, hworld], t.cycles ++ before, after, ?_, ?_⟩
      · rw [List.flatMap_cons, hold, List.append_assoc]
      · rw [hstep]
        rcases hnew with hnew | ⟨hr, hnew⟩
        · exact .inl (by rw [List.flatMap_cons, hnew, List.append_assoc])
        · exact .inr ⟨hr, by rw [List.flatMap_cons, hnew, List.append_assoc]⟩

theorem parts_of_callAt {part : Nat} {ts : List Trigger} {c : Cycle}
    (h : callAt part ts = some c) (hc : c.parts = [.ready]) :
    (ts.flatMap Trigger.parts)[part]? = some .ready ∧ Trigger.cycling c ∈ ts := by
  induction ts generalizing part with
  | nil => cases h
  | cons t ts ih =>
    rw [List.flatMap_cons]
    by_cases hp : part < t.parts.length
    · rw [callAt, if_pos hp] at h
      cases Trigger.eq_of_call? h
      have hzero : part = 0 := by
        simpa [Trigger.parts, hc] using hp
      rw [Trigger.parts, hc, hzero]
      exact ⟨rfl, List.mem_cons_self⟩
    · rw [callAt, if_neg hp] at h
      obtain ⟨hready, hmem⟩ := ih h
      refine ⟨?_, List.mem_cons_of_mem t hmem⟩
      rw [List.getElem?_append_right (Nat.le_of_not_lt hp)]
      exact hready

end Triggers

namespace Reaction

theorem eq_of_call? {r : Reaction} {c : Cycle} (h : r.call? = some c) : r = .cycling c := by
  cases r with
  | cycling c' =>
    cases h
    rfl
  | _ => cases h

theorem step_of_call? (s : Setting) (part : Nat) (w : World) {r : Reaction} {c : Cycle}
    (h : r.call? = some c) :
    (c.step s part w).1.Ticketed (r.step s part w).1 ∧
      Cycle.Replaced r.cycles c (c.step s part w).2 (r.step s part w).2.cycles := by
  cases eq_of_call? h
  obtain ⟨hw, hc⟩ := afterCycle_cases (c.step s part w).1 (c.step s part w).2
  exact ⟨hw, [], [], rfl, hc⟩

end Reaction

namespace Activity

/-- A step of a part is a step of the call that it belongs to. -/
theorem step_of_callAt (s : Setting) (w : World) {part : Nat} {a : Activity} {c : Cycle}
    (h : a.callAt part = some c) :
    ∃ k, (c.step s k w).1.Ticketed (a.step s part w).1 ∧
      Cycle.Replaced a.cycles c (c.step s k w).2 (a.step s part w).2.cycles ∧
      (a = .cycle c → (a.step s part w).2 = .cycle (c.step s k w).2) := by
  cases a with
  | cycle c' =>
    cases h
    exact ⟨part, .refl _, ⟨[], [], rfl, .inl rfl⟩, fun _ => rfl⟩
  | reaction r =>
    obtain ⟨hw, hc⟩ := Reaction.step_of_call? s part w h
    exact ⟨part, hw, hc, fun he => nomatch he⟩
  | reactor r =>
    cases r with
    | listening i ticket => cases h
    | reacting i r =>
      obtain ⟨hw, hc⟩ := Reaction.step_of_call? s part w h
      obtain ⟨ht, hr⟩ := Reactor.afterReaction_cases i (r.step s part w).1 (r.step s part w).2
      rw [← hr] at hc
      exact ⟨part, hw.trans ht, hc, fun he => nomatch he⟩
  | triggers t =>
    cases t with
    | start => cases h
    | waiting ts =>
      obtain ⟨k, hworld, hc⟩ := Triggers.step_of_callAt s w h
      refine ⟨k, ?_, hc, fun he => nomatch he⟩
      rw [← hworld]
      exact .refl _
  | _ => cases h

/-- A call that is not rendering is one part, which can go on, and its activity has
not ended. -/
theorem parts_of_callAt {part : Nat} {a : Activity} {c : Cycle} (hlt : part < a.parts.length)
    (h : a.callAt part = some c) (hc : c.parts = [.ready]) :
    a.parts[part]? = some .ready ∧ a.result?.isNone = true := by
  have hreport : c.report? = none := by
    cases c with
    | done report => cases hc
    | _ => rfl
  have single : ∀ l : List Readiness, l = [.ready] → part < l.length → l[part]? = some .ready := by
    rintro _ rfl hlt
    obtain rfl : part = 0 := by simpa using hlt
    rfl
  cases a with
  | cycle c' =>
    cases h
    exact ⟨single _ hc hlt, by rw [result?, hreport]; rfl⟩
  | reaction r =>
    cases Reaction.eq_of_call? h
    exact ⟨single _ hc hlt, rfl⟩
  | reactor r =>
    cases r with
    | listening i ticket => cases h
    | reacting i r =>
      cases Reaction.eq_of_call? h
      exact ⟨single _ hc hlt, rfl⟩
  | triggers t =>
    cases t with
    | start => cases h
    | waiting ts =>
      obtain ⟨hready, hmem⟩ := Triggers.parts_of_callAt h hc
      have hdone : ts.all Trigger.isDone = false :=
        List.all_eq_false.2 ⟨_, hmem, by simp [Trigger.isDone]⟩
      exact ⟨hready, by simp [result?, Triggers.isDone, hdone]⟩
  | _ => cases h

/-- An activity that has ended has no cycle at work. -/
theorem activeCycles_of_result? {a : Activity} (h : a.result?.isSome = true) :
    a.activeCycles = 0 := by
  have reaction : ∀ r : Reaction, r.report?.isSome = true → r.cycles = [] := by
    intro r hr
    cases r with
    | done report => rfl
    | _ => cases hr
  unfold activeCycles
  cases a with
  | cycle c =>
    rw [result?, Option.isSome_map] at h
    simp [cycles, Cycle.not_isActive_of_report? h]
  | reaction r =>
    rw [result?, Option.isSome_map] at h
    rw [cycles, reaction r h]
    rfl
  | reactor r => cases h
  | triggers t =>
    cases t with
    | start => cases h
    | waiting ts =>
      have hdone : ts.all Trigger.isDone = true := by
        cases hall : ts.all Trigger.isDone with
        | true => rfl
        | false => simp [result?, Triggers.isDone, hall] at h
      have hnone : ts.flatMap Trigger.cycles = [] := by
        rw [List.flatMap_eq_nil_iff]
        intro t ht
        have htdone := List.all_eq_true.1 hdone t ht
        cases t with
        | done => rfl
        | _ => cases htdone
      rw [cycles, Triggers.cycles, hnone]
      rfl
  | _ => rfl

end Activity

/-! ## Calls of a session -/

namespace Session

variable {S : Session} {task part : Nat}

/-- A call that is not rendering takes its next step when its turn comes. -/
theorem proceed_callAt {c : Cycle} (h : S.CallAt task part c) (hc : c.parts = [.ready]) :
    ∃ k, (c.step S.setting k S.world).1.Ticketed (S.proceed task part).world ∧
      S.Turned (S.proceed task part) task c (c.step S.setting k S.world).2 := by
  obtain ⟨t, ht, hlive, hlt, hcall⟩ := h
  obtain ⟨hready, hresult⟩ := Activity.parts_of_callAt hlt hcall hc
  have hmovable : (movable S.world S.setting t).any (·.1 = part) = true := by
    have hpart : (Readiness.ready, part) ∈ t.activity.parts.zipIdx :=
      List.mem_zipIdx_iff_getElem?.2 hready
    rw [movable, if_pos (by rw [Task.isLive, hlive, hresult]; rfl), List.any_eq_true]
    exact ⟨(part, 0), List.mem_filterMap.2 ⟨_, hpart, rfl⟩, by simp⟩
  have hproceed : S.proceed task part =
      { S with
        world := (t.activity.step S.setting part S.world).1
        tasks := S.tasks.set task
          { t with activity := (t.activity.step S.setting part S.world).2 } } := by
    simp only [proceed, ht, hmovable, if_true]
  obtain ⟨k, hworld, hreplaced, hself⟩ := Activity.step_of_callAt S.setting S.world hcall
  rw [hproceed]
  exact ⟨k, hworld, t, _, ht, rfl, hreplaced, hself⟩

/-- A call that finds another one at work is skipped: it changes nothing but that
somebody may wait from now on. -/
theorem proceed_start_of_running (h : S.CallAt task part .start) (hr : S.world.running = true) :
    S.world.Ticketed (S.proceed task part).world ∧
      S.Turned (S.proceed task part) task .start (.done .skipped) := by
  obtain ⟨k, hworld, hturned⟩ := proceed_callAt h rfl
  have hstep : Cycle.step S.setting k S.world .start = (S.world, .done .skipped) := by
    rw [Cycle.step, if_pos hr]
  rw [hstep] at hworld hturned
  exact ⟨hworld, hturned⟩

/-- A call that finds none at work is at work from now on. -/
theorem proceed_start (h : S.CallAt task part .start) (hr : S.world.running = false) :
    World.Ticketed { S.world with running := true } (S.proceed task part).world ∧
      S.Turned (S.proceed task part) task .start .survey := by
  obtain ⟨k, hworld, hturned⟩ := proceed_callAt h rfl
  have hstep : Cycle.step S.setting k S.world .start =
      ({ S.world with running := true }, .survey) := by
    rw [Cycle.step, if_neg (by rw [hr]; exact Bool.false_ne_true)]
  rw [hstep] at hworld hturned
  exact ⟨hworld, hturned⟩

/-- A cycle that is called while none is at work is about to look at the page after its first
step. -/
theorem tasks_after_call (hr : S.world.running = false) :
    ((S.apply (.call .cycle)).proceed S.tasks.length 0).tasks[S.tasks.length]? =
      some ⟨.cycle .survey, false⟩ := by
  have hcall : (S.apply (.call .cycle)).tasks[S.tasks.length]? = some ⟨.cycle .start, false⟩ :=
    List.getElem?_concat_length
  have hat : (S.apply (.call .cycle)).CallAt S.tasks.length 0 .start :=
    ⟨_, hcall, rfl, Nat.zero_lt_one, rfl⟩
  obtain ⟨-, t, a, ht, htasks, -, hself⟩ := proceed_start hat hr
  cases hcall.symm.trans ht
  rw [htasks, hself rfl]
  exact List.getElem?_set_self (List.getElem?_eq_some_iff.1 hcall).1

/-! ### The end of a call -/

/-- An event does something to one activity at most, or begins one. -/
theorem tasks_apply (S : Session) (e : Event) :
    (∃ new, (S.apply e).tasks = S.tasks ++ new) ∨
      ∃ i t t', S.tasks[i]? = some t ∧ (S.apply e).tasks = S.tasks.set i t' := by
  have same : (S.apply e).tasks = S.tasks →
      ∃ new, (S.apply e).tasks = S.tasks ++ new := fun h => ⟨[], by rw [h, List.append_nil]⟩
  cases e with
  | call c => exact .inl ⟨_, rfl⟩
  | proceed task part =>
    rcases S.proceed_cases task part with he | ⟨t, ht, -, he⟩
    · exact .inl (same (congrArg tasks he))
    · exact .inr ⟨task, t, _, ht, congrArg tasks he⟩
  | giveUp task =>
    rcases S.giveUp_cases task with he | ⟨t, ht, -, he⟩
    · exact .inl (same (congrArg tasks he))
    · exact .inr ⟨task, t, _, ht, congrArg tasks he⟩
  | _ => exact .inl (same rfl)

/-- However the call at work ends, the flag is not set any more. -/
theorem IsSingleFlight.running_of_ended (h : S.IsSingleFlight) {e : Event} {t t' : Task}
    (ht : S.tasks[task]? = some t) (ht' : (S.apply e).tasks[task]? = some t')
    (hpos : 0 < t.activeCycles) (hended : t'.activeCycles = 0) :
    (S.apply e).world.running = false := by
  obtain ⟨hr, hone⟩ := h.running_of_pos (List.mem_of_getElem? ht) hpos
  have hlt : task < S.tasks.length := (List.getElem?_eq_some_iff.1 ht).1
  have hafter := singleFlight_apply h e
  unfold IsSingleFlight at h hafter
  rw [hr, Bool.toNat_true] at h
  rcases S.tasks_apply e with ⟨new, he⟩ | ⟨i, u, u', hu, he⟩
  · rw [he, List.getElem?_append_left hlt, ht] at ht'
    cases ht'
    omega
  · rw [he] at ht'
    by_cases hi : i = task
    · subst hi
      rw [List.getElem?_set_self hlt] at ht'
      cases ht'
      cases ht.symm.trans hu
      have hset := activeCycles_set ht t' (S.apply e).world
      have heq : activeCycles { S with
          world := (S.apply e).world, tasks := S.tasks.set i t' } = (S.apply e).activeCycles := by
        unfold activeCycles
        rw [he]
      cases hrunning : (S.apply e).world.running with
      | false => rfl
      | true =>
        rw [hrunning, Bool.toNat_true] at hafter
        omega
    · rw [List.getElem?_set_ne hi, ht] at ht'
      cases ht'
      omega

/-- Giving up an activity whose call is at work ends the call. -/
theorem activeCycles_giveUp {t : Task} (ht : S.tasks[task]? = some t)
    (hpos : 0 < t.activeCycles) :
    (S.giveUp task).tasks[task]? = some { t with givenUp := true } := by
  have hlive : t.givenUp = false := by
    cases hg : t.givenUp with
    | false => rfl
    | true => simp [Task.activeCycles, hg] at hpos
  have hresult : t.activity.result?.isNone = true := by
    cases hr : t.activity.result?.isSome with
    | false => rw [← Option.not_isSome, hr]; rfl
    | true =>
      rw [Task.activeCycles, hlive, Activity.activeCycles_of_result? hr] at hpos
      cases hpos
  have hlt : task < S.tasks.length := (List.getElem?_eq_some_iff.1 ht).1
  have hisLive : t.isLive = true := by rw [Task.isLive, hlive, hresult]; rfl
  simp only [giveUp, ht, hisLive, if_true]
  exact List.getElem?_set_self hlt

/-- Cycles fly alone.  After every history of every session, however the activities
that call cycles overlap and whichever of them were given up on the way: at most one
call is at work, and the flag tells whether one is; a call that finds it set is skipped
and leaves the page, the flag, the engines and all else as they are, but for the
numbers of waits; a call that finds it unset is at work; and however the call at work
ends, by going through or by being given up, the flag is unset, so that the next call
is not skipped. -/
theorem cycles_fly_alone (setting : Setting) (p : Page) (es : List Event) :
    let S := (start setting p).after es
    S.activeCycles ≤ 1 ∧ (S.world.running = true ↔ S.activeCycles = 1) ∧
    (∀ task part, S.CallAt task part .start → S.world.running = true →
      S.world.Ticketed (S.proceed task part).world ∧
        S.Turned (S.proceed task part) task .start (.done .skipped)) ∧
    (∀ task part, S.CallAt task part .start → S.world.running = false →
      (S.proceed task part).world.running = true ∧
        S.Turned (S.proceed task part) task .start .survey) ∧
    (∀ (e : Event) (task : Nat) (t t' : Task), S.tasks[task]? = some t →
      (S.apply e).tasks[task]? = some t' → 0 < t.activeCycles → t'.activeCycles = 0 →
      (S.apply e).world.running = false ∧
        ∀ next part, (S.apply e).CallAt next part .start →
          (S.apply e).Turned ((S.apply e).proceed next part) next .start .survey) ∧
    (∀ (task : Nat) (t : Task), S.tasks[task]? = some t → 0 < t.activeCycles →
      (S.giveUp task).world.running = false) := by
  intro S
  have h : S.IsSingleFlight := singleFlight_after (singleFlight_start setting p) es
  refine ⟨?_, ?_, fun task part => proceed_start_of_running, ?_, ?_, ?_⟩
  · rw [h]
    exact Bool.toNat_le S.world.running
  · rw [h]
    cases S.world.running <;> simp
  · intro task part hcall hr
    obtain ⟨⟨n, hworld⟩, hturned⟩ := proceed_start hcall hr
    exact ⟨by rw [hworld], hturned⟩
  · intro e task t t' ht ht' hpos hended
    have hr := h.running_of_ended ht ht' hpos hended
    exact ⟨hr, fun next part hcall => (proceed_start hcall hr).2⟩
  · intro task t ht hpos
    exact h.running_of_ended (e := .giveUp task) ht (activeCycles_giveUp ht hpos) hpos rfl

/-- Two calls overlap: the second one is skipped, and the first one may be given up. -/
theorem cycles_fly_alone_overlapping :
    let S := (start (.forRust .plain) .oneBlock).after [.call .cycle, .call .cycle, .proceed 0 0]
    S.world.running = true ∧ S.activeCycles = 1 ∧ S.CallAt 1 0 .start ∧
      S.Turned (S.proceed 1 0) 1 .start (.done .skipped) ∧
      (S.giveUp 0).world.running = false := by
  intro S
  have hcall : S.CallAt 1 0 .start := ⟨⟨.cycle .start, false⟩, rfl, rfl, by decide, rfl⟩
  obtain ⟨-, hflag, hskips, -, -, hdrops⟩ := cycles_fly_alone (.forRust .plain) .oneBlock
    [.call .cycle, .call .cycle, .proceed 0 0]
  exact ⟨rfl, hflag.1 rfl, hcall, (hskips 1 0 hcall rfl).2,
    hdrops 0 ⟨.cycle .survey, false⟩ rfl (by decide)⟩

end Session

end PageHighlight
