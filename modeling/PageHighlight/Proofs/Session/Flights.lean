/-
  Proofs/Session/Flights.lean --- the cycles of a session as one list, and what an event
  does to them.

  WHAT THIS FILE IS FOR.  Cycles are nested in activities, and activities are given up.
  A statement about the cycle at work is easier on the list of all cycles of activities
  that were not given up (`Session.cycles`): at most one of them is at work
  (`countP_cycles`), and an event moves one of them, adds one that has not started, or
  leaves some out.  `Session.Moves` says so once, and what is done to the page with it:
  a move of a cycle is a step of the call that its part belongs to, and everybody else
  puts no class on a block and takes none off.
-/
import PageHighlight.Proofs.Session.Completed

set_option autoImplicit false

namespace PageHighlight

/-! ## Cycles of a session -/

/-- The cycles of an activity, unless it was given up. -/
def Task.cycles (t : Task) : List Cycle := if t.givenUp then [] else t.activity.cycles

/-- The cycles of a session. -/
def Session.cycles (S : Session) : List Cycle := S.tasks.flatMap Task.cycles

/-- Replacing an element of a list replaces a piece of what is made of the list. -/
theorem flatMap_set {α β : Type} (f : α → List β) {l : List α} {i : Nat} {a : α}
    (h : l[i]? = some a) :
    ∃ before after, l.flatMap f = before ++ f a ++ after ∧
      ∀ b, (l.set i b).flatMap f = before ++ f b ++ after := by
  obtain ⟨hi, rfl⟩ := List.getElem?_eq_some_iff.1 h
  refine ⟨(l.take i).flatMap f, (l.drop (i + 1)).flatMap f, ?_, fun b => ?_⟩
  · conv_lhs => rw [← List.take_append_drop i l]
    rw [List.flatMap_append, List.drop_eq_getElem_cons hi, List.flatMap_cons, List.append_assoc]
  · rw [List.set_eq_take_append_cons_drop, if_pos hi]
    rw [List.flatMap_append, List.flatMap_cons, List.append_assoc]

namespace Cycle.Replaced

variable {cs cs' : List Cycle} {c c' : Cycle}

/-- What becomes of a cycle in a list becomes of it in a longer list. -/
theorem frame (h : Replaced cs c c' cs') (before after : List Cycle) :
    Replaced (before ++ cs ++ after) c c' (before ++ cs' ++ after) := by
  obtain ⟨b, a, rfl, hnew⟩ := h
  refine ⟨before ++ b, a ++ after, by simp, ?_⟩
  rcases hnew with rfl | ⟨hended, rfl⟩
  · exact .inl (by simp)
  · exact .inr ⟨hended, by simp⟩

/-- The next stage is there as long as it is at work. -/
theorem mem_after (h : Replaced cs c c' cs') (hactive : c'.isActive = true) : c' ∈ cs' := by
  obtain ⟨before, after, -, rfl | ⟨hended, -⟩⟩ := h
  · exact List.mem_append_right _ List.mem_cons_self
  · rw [not_isActive_of_report? hended] at hactive
    cases hactive

/-- The others of the list stay, and nothing comes but the next stage. -/
theorem others (h : Replaced cs c c' cs') :
    ∃ before after, cs = before ++ c :: after ∧ (∀ x ∈ before ++ after, x ∈ cs') ∧
      ∀ x ∈ cs', x = c' ∨ x ∈ before ++ after := by
  obtain ⟨before, after, hold, rfl | ⟨-, rfl⟩⟩ := h
  · refine ⟨before, after, hold, fun x hx => ?_, fun x hx => ?_⟩
    · rw [List.mem_append] at hx
      rw [List.mem_append, List.mem_cons]
      tauto
    · rw [List.mem_append, List.mem_cons] at hx
      rw [List.mem_append]
      tauto
  · exact ⟨before, after, hold, fun _ hx => hx, fun _ hx => .inr hx⟩

end Cycle.Replaced

namespace Session

variable {S S' : Session} {task part : Nat}

/-- The cycles at work are counted among all cycles. -/
theorem countP_cycles (S : Session) : S.cycles.countP (·.isActive) = S.activeCycles := by
  unfold cycles activeCycles
  induction S.tasks with
  | nil => rfl
  | cons t ts ih =>
    have ht : t.cycles.countP (·.isActive) = t.activeCycles := by
      unfold Task.cycles Task.activeCycles Activity.activeCycles
      split <;> rfl
    rw [List.flatMap_cons, List.countP_append, List.foldr_cons, ih, ht]

/-- Where a cycle is at work, the flag is set. -/
theorem IsSingleFlight.running_of_isActive (h : S.IsSingleFlight) {c : Cycle}
    (hc : c ∈ S.cycles) (hactive : c.isActive = true) : S.world.running = true := by
  have hpos : 0 < S.cycles.countP (·.isActive) := List.countP_pos_iff.2 ⟨c, hc, hactive⟩
  rw [countP_cycles, h] at hpos
  cases hr : S.world.running with
  | true => rfl
  | false =>
    rw [hr] at hpos
    cases hpos

/-- The other cycles are not at work while one is. -/
theorem IsSingleFlight.not_isActive_others (h : S.IsSingleFlight) {before after : List Cycle}
    {c : Cycle} (hcycles : S.cycles = before ++ c :: after) (hactive : c.isActive = true) {x : Cycle}
    (hx : x ∈ before ++ after) : x.isActive = false := by
  have hle : S.cycles.countP (·.isActive) ≤ 1 := by
    rw [countP_cycles, h]
    exact Bool.toNat_le S.world.running
  rw [hcycles, List.countP_append, List.countP_cons, if_pos hactive] at hle
  have hnone : (before ++ after).countP (·.isActive) = 0 := by
    rw [List.countP_append]
    omega
  simpa using List.countP_eq_zero.1 hnone x hx

/-- Only one cycle is at work. -/
theorem IsSingleFlight.eq_of_isActive (h : S.IsSingleFlight) {c c' : Cycle} (hc : c ∈ S.cycles)
    (hc' : c' ∈ S.cycles) (hactive : c.isActive = true) (hactive' : c'.isActive = true) :
    c' = c := by
  obtain ⟨before, after, hcycles⟩ := List.append_of_mem hc
  rw [hcycles] at hc'
  rcases List.mem_append.1 hc' with hmem | hmem
  · rw [h.not_isActive_others hcycles hactive (List.mem_append_left _ hmem)] at hactive'
    cases hactive'
  · rcases List.mem_cons.1 hmem with he | hmem
    · exact he
    · rw [h.not_isActive_others hcycles hactive (List.mem_append_right _ hmem)] at hactive'
      cases hactive'

/-- The call of an activity is one of its cycles. -/
theorem CallAt.mem_cycles {c : Cycle} (h : S.CallAt task part c) : c ∈ S.cycles := by
  obtain ⟨t, ht, hlive, -, hcall⟩ := h
  obtain ⟨k, -, hreplaced, -⟩ := Activity.step_of_callAt S.setting S.world hcall
  refine List.mem_flatMap.2 ⟨t, List.mem_of_getElem? ht, ?_⟩
  rw [Task.cycles, hlive]
  exact hreplaced.mem_before

end Session

/-! ## Parts without a call -/

/-- Whether an edit puts a class on a block or takes one off. -/
def Page.Edit.isClassChange : Page.Edit → Bool
  | addClass _ _ | removeClass _ _ => true
  | _ => false

/-- The second page is the first one after some edits that put no class on a block and
take none off. -/
def Page.EditedAside (p p' : Page) : Prop :=
  ∃ es : List Page.Edit, (∀ e ∈ es, e.isClassChange = false) ∧ p' = Page.Edit.applyAll es p

theorem Page.EditedAside.refl (p : Page) : p.EditedAside p := ⟨[], by simp, rfl⟩

theorem Page.EditedAside.apply {e : Page.Edit} (he : e.isClassChange = false) (p : Page) :
    p.EditedAside (e.apply p) :=
  ⟨[e], by simpa using he, rfl⟩

theorem Render.Acts.editedAside {r : Render} {w w' : World} (h : r.Acts w w') :
    w.page.EditedAside w'.page := by
  cases h with
  | nothing => exact .refl w.page
  | notes => exact .apply (e := .capture r.id) rfl w.page
  | asks engines n => exact .refl w.page
  | puts block theme => exact .apply (e := .replace r.id block) rfl w.page

theorem World.editedAside_restored (w : World) : w.page.EditedAside w.restored.page := by
  refine ⟨_, fun e he => ?_, w.page_restored⟩
  obtain ⟨id, -, rfl⟩ := List.mem_map.1 he
  rfl

theorem World.Ticketed.page {w w' : World} (h : w.Ticketed w') : w'.page = w.page := by
  obtain ⟨n, rfl⟩ := h
  rfl

theorem Copying.editedAside_step (s : Setting) (w : World) (c : Copying) :
    w.page.EditedAside (c.step s w).1.page := by
  rcases c.page_step s w with h | ⟨state, h⟩
  · rw [h]
    exact .refl w.page
  · rw [h]
    exact .apply rfl w.page

/-- The first list of cycles became the second one by nothing but that some are about to
start. -/
structure Cycle.Joined (cs cs' : List Cycle) : Prop where
  kept : ∀ c ∈ cs, c ∈ cs'
  new : ∀ c ∈ cs', c ∈ cs ∨ c = .start

namespace Cycle.Joined

variable {cs cs' : List Cycle}

theorem refl (cs : List Cycle) : Joined cs cs := ⟨fun _ h => h, fun _ h => .inl h⟩

theorem of_eq (h : cs' = cs) : Joined cs cs' := h ▸ refl cs

theorem start : Joined [] [Cycle.start] := by
  refine ⟨fun c hc => ?_, fun c hc => .inr (List.mem_singleton.1 hc)⟩
  cases hc

theorem frame (h : Joined cs cs') (before after : List Cycle) :
    Joined (before ++ cs ++ after) (before ++ cs' ++ after) := by
  refine ⟨fun c hc => ?_, fun c hc => ?_⟩
  · simp only [List.mem_append] at hc ⊢
    exact hc.imp_left (Or.imp_right (h.kept c))
  · simp only [List.mem_append] at hc ⊢
    rcases hc with (hc | hc) | hc
    · exact .inl (.inl (.inl hc))
    · exact (h.new c hc).imp_left fun hc => .inl (.inr hc)
    · exact .inl (.inr hc)

end Cycle.Joined

/-- A step of a part of triggers that belongs to no call begins one, or is none. -/
theorem Triggers.joined_stepAt (s : Setting) (w : World) {part : Nat} {ts : List Trigger}
    (h : callAt part ts = none) :
    (stepAt s part w ts).1 = w ∧
      Cycle.Joined (ts.flatMap Trigger.cycles) ((stepAt s part w ts).2.flatMap Trigger.cycles) := by
  induction ts generalizing part with
  | nil => exact ⟨rfl, .refl _⟩
  | cons t ts ih =>
    by_cases hp : part < t.parts.length
    · rw [callAt, if_pos hp] at h
      rw [stepAt, if_pos hp]
      cases t with
      | waiting wait => exact ⟨rfl, Cycle.Joined.start.frame [] (ts.flatMap Trigger.cycles)⟩
      | cycling c => cases h
      | done => exact ⟨rfl, .refl _⟩
    · rw [callAt, if_neg hp] at h
      obtain ⟨hworld, hjoined⟩ := ih h
      rw [stepAt, if_neg hp]
      refine ⟨hworld, ?_⟩
      simpa [List.flatMap_cons] using hjoined.frame t.cycles []

/-- A step of a reaction that is at no call restores, begins a call, or is none. -/
theorem Reaction.joined_step (s : Setting) (part : Nat) (w : World) {r : Reaction}
    (h : r.call? = none) :
    w.page.EditedAside (r.step s part w).1.page ∧
      Cycle.Joined r.cycles (r.step s part w).2.cycles := by
  cases r with
  | restore => exact ⟨w.editedAside_restored, .refl []⟩
  | settling ticket deadline => exact ⟨.refl w.page, .start⟩
  | cycling c => cases h
  | idling ticket => exact ⟨.refl w.page, .refl []⟩
  | done report => exact ⟨.refl w.page, .refl []⟩

/-- A step of a part that belongs to no call puts no class on a block, and no cycle takes
a step. -/
theorem Activity.joined_step (s : Setting) (w : World) {part : Nat} {a : Activity}
    (h : a.callAt part = none) :
    w.page.EditedAside (a.step s part w).1.page ∧
      Cycle.Joined a.cycles (a.step s part w).2.cycles := by
  cases a with
  | render r => exact ⟨(r.acts s w).editedAside, .refl []⟩
  | cycle c => cases h
  | reaction r => exact Reaction.joined_step s part w h
  | reactor r =>
    cases r with
    | listening i ticket => exact ⟨.refl w.page, .refl []⟩
    | reacting i r =>
      obtain ⟨hpage, hjoined⟩ := Reaction.joined_step s part w h
      obtain ⟨ht, hr⟩ := Reactor.afterReaction_cases i (r.step s part w).1 (r.step s part w).2
      refine ⟨?_, ?_⟩
      · rw [← ht.page] at hpage
        exact hpage
      · rw [← hr] at hjoined
        exact hjoined
  | copying c => exact ⟨c.editedAside_step s w, .refl []⟩
  | triggers t =>
    cases t with
    | start =>
      have hworld := Triggers.ticketed_await (Triggers.awaited s.config.timings w.now) w
      refine ⟨?_, .of_eq (Triggers.cycles_await (Triggers.awaited s.config.timings w.now) w)⟩
      have hpage : w.page.EditedAside w.page := .refl w.page
      rw [← hworld.page] at hpage
      exact hpage
    | waiting ts =>
      obtain ⟨hworld, hjoined⟩ := Triggers.joined_stepAt s w h
      refine ⟨?_, hjoined⟩
      show w.page.EditedAside (Triggers.stepAt s part w ts).1.page
      rw [hworld]
      exact .refl w.page
  | waiting wait => exact ⟨.refl w.page, .refl []⟩
  | waited => exact ⟨.refl w.page, .refl []⟩

/-! ## Moves -/

/-- What an event did to the cycles of a session and to the blocks of its page. -/
inductive Session.Moves (S S' : Session) (e : Event) : Prop where
  /-- no cycle took a step -/
  | aside (cycles : Cycle.Joined S.cycles S'.cycles) (p : Page) (page : S.page.EditedAside p)
      (slots : S'.page.slots = p.slots) (allocated : S'.page.allocated = p.allocated)
  /-- a call took a step -/
  | step (task part k : Nat) (c : Cycle) (is : e = .proceed task part)
      (call : S.CallAt task part c) (world : (c.step S.setting k S.world).1.Ticketed S'.world)
      (cycles : Cycle.Replaced S.cycles c (c.step S.setting k S.world).2 S'.cycles)
  /-- an activity was given up, and its cycles with it -/
  | drops (task : Nat) (t : Task) (is : e = .giveUp task) (known : S.tasks[task]? = some t)
      (live : t.givenUp = false) (kept : ∀ c ∈ S.cycles, c ∈ S'.cycles ∨ c ∈ t.activity.cycles)
      (old : ∀ c ∈ S'.cycles, c ∈ S.cycles) (page : S'.page = S.page)

/-- Triggers that are given up leave the page as it is. -/
theorem Trigger.page_giveUps (s : Setting) (ts : List Trigger) (w : World) :
    (ts.foldl (Trigger.giveUp s) w).page = w.page := by
  induction ts generalizing w with
  | nil => rfl
  | cons t ts ih =>
    have ht : (t.giveUp s w).page = w.page := by
      cases t with
      | cycling c => exact c.page_giveUp s w
      | _ => rfl
    rw [List.foldl_cons, ih, ht]

/-- So does every activity. -/
theorem Activity.page_giveUp (s : Setting) (w : World) (a : Activity) :
    (a.giveUp s w).page = w.page := by
  have reaction : ∀ r : Reaction, (r.giveUp s w).page = w.page := by
    intro r
    cases r with
    | cycling c => exact c.page_giveUp s w
    | _ => rfl
  cases a with
  | render r => exact r.page_giveUp s w
  | cycle c => exact c.page_giveUp s w
  | reaction r => exact reaction r
  | reactor r =>
    cases r with
    | listening i ticket => rfl
    | reacting i r => exact reaction r
  | triggers t =>
    cases t with
    | start => rfl
    | waiting ts => exact Trigger.page_giveUps s ts w
  | _ => rfl

namespace Session

variable {S S' : Session} {task part : Nat}

/-- What became of one activity, said of the cycles of the session. -/
theorem cycles_set {t : Task} (ht : S.tasks[task]? = some t) (hlive : t.givenUp = false) :
    ∃ before after, S.cycles = before ++ t.activity.cycles ++ after ∧
      ∀ (a : Activity) (w : World),
        cycles { S with world := w, tasks := S.tasks.set task { t with activity := a } } =
          before ++ a.cycles ++ after := by
  obtain ⟨before, after, hold, hnew⟩ := flatMap_set Task.cycles ht
  have live : ∀ a, Task.cycles { t with activity := a } = a.cycles := by
    intro a
    rw [Task.cycles, hlive]
    rfl
  refine ⟨before, after, ?_, fun a w => ?_⟩
  · rw [cycles, hold]
    exact congrArg (before ++ · ++ after) (live t.activity)
  · rw [cycles, hnew, live]

/-- A call that went from one stage to another did so among the cycles of the session. -/
theorem Turned.replaced {c c' : Cycle} (h : S.Turned S' task c c') {t : Task}
    (ht : S.tasks[task]? = some t) (hlive : t.givenUp = false) :
    Cycle.Replaced S.cycles c c' S'.cycles := by
  obtain ⟨u, a, hu, htasks, hreplaced, -⟩ := h
  cases ht.symm.trans hu
  obtain ⟨before, after, hold, hnew⟩ := cycles_set ht hlive
  have hnew' : S'.cycles = before ++ a.cycles ++ after := by
    rw [← hnew a S.world, cycles, htasks]
    rfl
  rw [hold, hnew']
  exact hreplaced.frame before after

/-- An event that is no step of an activity and leaves the blocks alone moves nothing. -/
theorem moves_of_alike {w : World} (hworld : S.world.Alike w) (hS' : S' = { S with world := w })
    (e : Event) : S.Moves S' e :=
  hS' ▸ .aside (.refl S.cycles) S.page (.refl S.page) hworld.slots hworld.allocated

theorem moves_self (S : Session) (e : Event) : S.Moves S e := moves_of_alike (.refl S.world) rfl e

/-- A step of a part is a step of the call that it belongs to, if it belongs to one. -/
theorem moves_proceed (S : Session) (task part : Nat) :
    S.Moves (S.proceed task part) (.proceed task part) := by
  unfold proceed
  cases ht : S.tasks[task]? with
  | none => exact S.moves_self _
  | some t =>
    simp only
    split
    · next hmovable =>
      have hcan : t.givenUp = false ∧ part < t.activity.parts.length := by
        obtain ⟨⟨i, ticket⟩, hmem, hi⟩ := List.any_eq_true.1 hmovable
        rw [movable] at hmem
        split at hmem
        · next hlive =>
          obtain ⟨⟨r, j⟩, hpart, hgo⟩ := List.mem_filterMap.1 hmem
          have hj : j = part := by
            simp only [Option.ite_none_right_eq_some, Option.some.injEq, Prod.mk.injEq] at hgo
            exact hgo.2.1.trans (by simpa using hi)
          rw [Task.isLive, Bool.and_eq_true, Bool.not_eq_true'] at hlive
          refine ⟨hlive.1, ?_⟩
          rw [← hj]
          exact (List.getElem?_eq_some_iff.1 (List.mem_zipIdx_iff_getElem?.1 hpart)).1
        · cases hmem
      obtain ⟨hlive, hlt⟩ := hcan
      obtain ⟨before, after, hold, hnew⟩ := cycles_set ht hlive
      cases hcall : t.activity.callAt part with
      | none =>
        obtain ⟨hpage, hjoined⟩ := Activity.joined_step S.setting S.world hcall
        refine .aside ?_ _ hpage rfl rfl
        rw [hold, hnew]
        exact hjoined.frame before after
      | some c =>
        obtain ⟨k, hworld, hreplaced, -⟩ := Activity.step_of_callAt S.setting S.world hcall
        refine .step task part k c rfl ⟨t, ht, hlive, hlt, hcall⟩ hworld ?_
        rw [hold, hnew]
        exact hreplaced.frame before after
    · exact S.moves_self _

/-- An activity that is given up takes its cycles with it. -/
theorem moves_giveUp (S : Session) (task : Nat) : S.Moves (S.giveUp task) (.giveUp task) := by
  rcases S.giveUp_cases task with he | ⟨t, ht, hlive, he⟩
  · rw [he]
    exact S.moves_self _
  · obtain ⟨before, after, hold, hnew⟩ := flatMap_set Task.cycles ht
    have hold' : S.cycles = before ++ t.activity.cycles ++ after := by
      rw [cycles, hold, Task.cycles, hlive]
      rfl
    have hnew' : (S.giveUp task).cycles = before ++ after := by
      rw [he, cycles, hnew]
      simp [Task.cycles]
    refine .drops task t rfl ht hlive (fun c hc => ?_) (fun c hc => ?_) ?_
    · rw [hold'] at hc
      rw [hnew']
      simp only [List.mem_append] at hc ⊢
      tauto
    · rw [hnew'] at hc
      rw [hold']
      simp only [List.mem_append] at hc ⊢
      tauto
    · rw [he]
      exact t.activity.page_giveUp S.setting S.world

/-- Every event moves one cycle, or adds some that have not started, or leaves some out. -/
theorem moves (S : Session) (e : Event) : S.Moves (S.apply e) e := by
  cases e with
  | call c =>
    have hworld := World.alike_make c S.world
    refine .aside ⟨fun x hx => ?_, fun x hx => ?_⟩ S.page (.refl S.page) hworld.slots
      hworld.allocated
    · exact List.mem_flatMap.2 ((List.mem_flatMap.1 hx).imp fun t ht =>
        ⟨List.mem_append_left _ ht.1, ht.2⟩)
    · obtain ⟨t, ht, hxt⟩ := List.mem_flatMap.1 hx
      rcases List.mem_append.1 ht with ht | ht
      · exact .inl (List.mem_flatMap.2 ⟨t, ht, hxt⟩)
      · rw [List.mem_singleton.1 ht] at hxt
        refine .inr ?_
        cases c with
        | cycle => exact List.mem_singleton.1 hxt
        | _ => cases hxt
  | proceed task part => exact S.moves_proceed task part
  | giveUp task => exact S.moves_giveUp task
  | restoreAll =>
    exact .aside (.refl S.cycles) _ S.world.editedAside_restored rfl rfl
  | setRootClass c on =>
    exact moves_of_alike (World.alike_changeRoot (RootElement.setClass c on) S.world) rfl _
  | setRootAttr name value =>
    exact moves_of_alike (World.alike_changeRoot (RootElement.setAttr name value) S.world) rfl _
  | setPrefersDark dark => exact moves_of_alike (World.alike_setPrefersDark dark S.world) rfl _
  | setReady state => exact moves_of_alike (World.alike_setReady state S.world) rfl _
  | arrive => exact .aside (.refl S.cycles) S.page (.refl S.page) rfl rfl
  | openGate => exact .aside (.refl S.cycles) S.page (.refl S.page) rfl rfl
  | passTo now => exact .aside (.refl S.cycles) S.page (.refl S.page) rfl rfl

end Session

end PageHighlight
