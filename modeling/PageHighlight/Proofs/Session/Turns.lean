/-
  Proofs/Session/Turns.lean --- what one thing that happens makes of the block in a slot.

  WHAT THIS FILE IS FOR.  A block has three ways to go on: it stays, a render puts another
  block in its place, or it is put back.  `Session.Turns` says which of them a happening
  takes for one slot, and who made it so; `turns_undergo` says that every happening takes
  one of them.  Whoever proves something of the life of a block looks at these three cases.

  RENDERS.  A render changes its block in one step only: the one in which it has its engine
  and the engine renders the block (`Render.WillPut`).  It does so whether the block that
  its number finds is rendered or not.
-/
import PageHighlight.Proofs.Page.Shown
import PageHighlight.Proofs.Session.Happenings
import PageHighlight.Proofs.Session.Showing

set_option autoImplicit false

namespace PageHighlight

/-! ## Slots that stay -/

/-- A slot has the block that it had, rendered or not as it was. -/
def Slot.Stays (slot slot' : Slot) : Prop :=
  slot'.node.id = slot.node.id ∧ slot'.node.isRendered = slot.node.isRendered

namespace Slot

theorem Stays.refl (slot : Slot) : slot.Stays slot := ⟨rfl, rfl⟩

theorem Stays.trans {slot slot' slot'' : Slot} (h : slot.Stays slot') (h' : slot'.Stays slot'') :
    slot.Stays slot'' :=
  ⟨h'.1.trans h.1, h'.2.trans h.2⟩

/-- Only putting a block in, or putting one back, moves a slot that does not stay. -/
theorem Move.stays {bound : Nat} {e : Page.Edit} {slot slot' : Slot} (h : Move bound e slot slot')
    (he : e.IsQuiet) : slot.Stays slot' := by
  cases h with
  | replace slot r => exact he.elim
  | restore known rendered => exact he.elim
  | setCopyState state rendered =>
    exact ⟨rfl, (Node.isRendered_iff.2 ⟨_, rendered⟩).symm⟩
  | _ => exact ⟨rfl, rfl⟩

/-- A block that is put back was rendered, and is what was noted of it; any other one is as
it was. -/
theorem putBack_cases (slot : Slot) :
    slot.putBack = slot ∨ ∃ o, slot.captured = some o ∧ slot.node.isRendered = true ∧
      slot.putBack.node = ⟨slot.node.id, o.classes, .source o.text⟩ := by
  unfold putBack
  split
  · exact .inl rfl
  · next o ho =>
    split
    · next hr => exact .inr ⟨o, ho, hr, rfl⟩
    · exact .inl rfl

end Slot

theorem Page.forall₂_stays_applyAll {es : List Page.Edit} (hes : ∀ e ∈ es, e.IsQuiet) (p : Page) :
    List.Forall₂ Slot.Stays p.slots (Page.Edit.applyAll es p).slots := by
  induction es generalizing p with
  | nil => exact List.forall₂_same.2 fun slot _ => .refl slot
  | cons e es ih =>
    have hone : List.Forall₂ Slot.Stays p.slots (e.apply p).slots :=
      (forall₂_move_apply e p).imp fun _ _ h => h.stays (hes e List.mem_cons_self)
    exact forall₂_trans (fun _ _ _ _ h h' => h.trans h') hone
      (ih (fun e he => hes e (List.mem_cons_of_mem _ he)) (e.apply p))

/-! ## Renders -/

/-- A render is about to put a block in: it has its engine, which renders what the block was
at first with the theme of the render. -/
def Render.WillPut (s : Setting) (r : Render) (o : SourceBlock) (block : RenderedBlock) : Prop :=
  ∃ engine, r.stage = .answered o (some engine) ∧ s.render? engine o r.theme = .ok block

/-- What a render answers when it has put its block in, or found no block to replace. -/
def Outcome.ofReplaced : Option NodeId → Outcome
  | some new => .rendered new
  | none => .skipped .gone

namespace Page

theorem replace_fst (p : Page) (id : NodeId) (r : RenderedBlock) :
    (p.replace id r).1 = (p.slot? id).map fun _ => p.allocated + 1 := by
  unfold replace
  cases p.slot? id <;> rfl

theorem slot?_isSome_of_getElem? {p : Page} {i : Nat} {slot : Slot} (h : p.slots[i]? = some slot) :
    (p.slot? slot.node.id).isSome = true := by
  rw [slot?, List.find?_isSome]
  exact ⟨slot, List.mem_of_getElem? h, by simp⟩

end Page

namespace Render

variable {s : Setting} {w : World} {r : Render} {o : SourceBlock} {block : RenderedBlock}

/-- A render that has answered takes no step any more. -/
theorem step_of_outcome? {outcome : Outcome} (h : r.outcome? = some outcome) :
    r.step s w = (w, r) := by
  obtain ⟨id, theme, stage⟩ := r
  cases stage with
  | done outcome' => rfl
  | _ => cases h

/-- The step of a render that is about to put its block in. -/
theorem WillPut.step (h : r.WillPut s o block) :
    (r.step s w).1.page = (w.page.replace r.id block).2 ∧
      (r.step s w).2.outcome? = some (.ofReplaced (w.page.replace r.id block).1) := by
  obtain ⟨engine, hstage, hblock⟩ := h
  have hnew : (w.write (·.replace r.id block)).1 = (w.page.replace r.id block).1 := rfl
  simp only [Render.step, hstage, hblock]
  cases he : (w.page.replace r.id block).1 with
  | none =>
    rw [he] at hnew
    simp only [hnew]
    exact ⟨rfl, rfl⟩
  | some new =>
    rw [he] at hnew
    simp only [hnew]
    exact ⟨rfl, rfl⟩

/-- If there is a block with its number, it answers with the number of the new one. -/
theorem WillPut.answers (h : r.WillPut s o block) (hfound : (w.page.slot? r.id).isSome = true) :
    (r.step s w).2.outcome? = some (.rendered (w.page.allocated + 1)) := by
  obtain ⟨found, hfound⟩ := Option.isSome_iff_exists.1 hfound
  rw [h.step.2, Page.replace_fst, hfound]
  rfl

/-- Every other step of a render notes what a block was at most, and does not end with a new
block. -/
theorem step_of_not_willPut (h : ∀ o block, ¬r.WillPut s o block) (hundone : r.outcome? = none) :
    (∃ es : List Page.Edit, (∀ e ∈ es, e = .capture r.id) ∧
        (r.step s w).1.page = Page.Edit.applyAll es w.page) ∧
      ∀ new, (r.step s w).2.outcome? ≠ some (.rendered new) := by
  have same : ∀ w' : World, w'.page = w.page → ∃ es : List Page.Edit,
      (∀ e ∈ es, e = .capture r.id) ∧ w'.page = Page.Edit.applyAll es w.page :=
    fun w' hw' => ⟨[], by simp, hw'⟩
  have request : ∀ o q, outcome? { r with stage := afterRequest o q } = none := by
    intro o q
    cases q <;> rfl
  obtain ⟨id, theme, stage⟩ := r
  cases stage with
  | start =>
    have notes : ∃ es : List Page.Edit, (∀ e ∈ es, e = .capture id) ∧
        (w.write (·.capture id)).2.page = Page.Edit.applyAll es w.page :=
      ⟨[.capture id], by simp, rfl⟩
    simp only [Render.step]
    split
    · exact ⟨notes, by simp [outcome?]⟩
    · split
      · exact ⟨notes, by simp [outcome?]⟩
      · exact ⟨notes, by simp [outcome?]⟩
  | asking o => exact ⟨same _ rfl, fun new => by simp only [Render.step, request]; simp⟩
  | waiting o q => exact ⟨same _ rfl, fun new => by simp only [Render.step, request]; simp⟩
  | answered o handle =>
    cases handle with
    | none => exact ⟨same _ rfl, by simp [Render.step, outcome?]⟩
    | some engine =>
      simp only [Render.step]
      split
      · exact ⟨same _ rfl, by simp [outcome?]⟩
      · next block hblock => exact absurd ⟨engine, rfl, hblock⟩ (h o block)
  | done o => cases hundone

end Render

/-! ## Activities -/

/-- A render that an activity has under way: itself, or one of a batch of a cycle. -/
def Activity.IsRendering (a : Activity) (r : Render) : Prop :=
  a.render? = some r ∨ ∃ c ∈ a.cycles, r ∈ c.renders

/-- A step of a cycle puts marks on blocks and takes them off, or is a step of one of its
renders. -/
theorem Cycle.page_step_cases (s : Setting) (part : Nat) (w : World) (c : Cycle) :
    (∃ es : List Page.Edit, (c.step s part w).1.page = Page.Edit.applyAll es w.page ∧
      ∀ e ∈ es, ∃ ids, c.found? = some ids ∧ ∃ id ∈ ids,
        e = .addClass id Page.loadingClass ∨ e = .removeClass id Page.loadingClass) ∨
    ∃ r ∈ c.renders, (c.step s part w).1 = (r.step s w).1 := by
  have hacts := c.acts s part w
  generalize (c.step s part w).1 = w' at hacts ⊢
  cases hacts with
  | flags running => exact .inl ⟨[], rfl, List.forall_mem_nil _⟩
  | marks theme ids is =>
    refine .inl ⟨_, page_markAll ids w.page, fun e he => ?_⟩
    obtain ⟨id, hid, rfl⟩ := List.mem_map.1 he
    exact ⟨ids, is ▸ rfl, id, hid, .inl rfl⟩
  | unmarks ids tally is =>
    refine .inl ⟨_, page_unmarkAll ids w.page, fun e he => ?_⟩
    obtain ⟨id, hid, rfl⟩ := List.mem_map.1 he
    exact ⟨ids, is ▸ rfl, id, hid, .inr rfl⟩
  | renders r mem => exact .inr ⟨r, mem, rfl⟩

/-- A step of an activity changes no block, or puts every rendered one back, or is a step of
a render. -/
theorem Activity.page_step_cases (s : Setting) (part : Nat) (w : World) (a : Activity) :
    (∃ es : List Page.Edit, (∀ e ∈ es, e.IsQuiet) ∧
      (a.step s part w).1.page = Page.Edit.applyAll es w.page) ∨
    (a.reaction? = some .restore ∧ (a.step s part w).1.page = w.restored.page) ∨
    ∃ r, a.IsRendering r ∧ (a.step s part w).1.page = (r.step s w).1.page := by
  have same : ∀ w' : World, w'.page = w.page → ∃ es : List Page.Edit, (∀ e ∈ es, e.IsQuiet) ∧
      w'.page = Page.Edit.applyAll es w.page :=
    fun w' hw' => ⟨[], by simp, hw'⟩
  have hstep := stepped s part w a
  generalize (a.step s part w).1 = w' at hstep ⊢
  generalize (a.step s part w).2 = a' at hstep
  cases hstep with
  | quiet world same' noRender => exact .inl (same _ world.page)
  | begins world before after old new noRender => exact .inl (same _ world.page)
  | render r is =>
    subst is
    exact .inr (.inr ⟨r, .inl rfl, rfl⟩)
  | cycle c part' world replaced noRender =>
    rcases c.page_step_cases s part' w with ⟨es, hpage, hes⟩ | ⟨r, hr, hworld⟩
    · refine .inl ⟨es, fun e he => ?_, world.page.trans hpage⟩
      obtain ⟨ids, -, id, -, hid⟩ := hes e he
      exact Cycle.isQuiet_of_mark ⟨id, hid⟩
    · refine .inr (.inr ⟨r, .inr ⟨c, replaced.mem_before, hr⟩, ?_⟩)
      rw [world.page, hworld]
  | restores is world old new noRender => exact .inr (.inl ⟨is, world.page⟩)
  | takes observer ticket is new noRender => exact .inl (same _ rfl)
  | copies c is =>
    rcases c.page_step s w with h | ⟨state, h⟩
    · exact .inl (same _ h)
    · refine .inl ⟨[.setCopyState c.id state], fun e he => ?_, h⟩
      rw [List.mem_singleton.1 he]
      trivial

/-! ## Happenings -/

namespace Session

/-- A render of an activity takes its last step with a happening, and answers that its block
was replaced by the one with a new number. -/
structure Succeeds (S : Session) (h : Happening) (a : Activity) (r : Render) (new : NodeId) :
    Prop where
  turn : ∃ task part, h = .event (.proceed task part) ∧ S.tasks[task]? = some ⟨a, false⟩
  rendering : a.IsRendering r
  undone : r.outcome? = none
  answers : (r.step S.setting S.world).2.outcome? = some (.rendered new)
  page : (S.undergo h).page = (r.step S.setting S.world).1.page

/-- A happening puts a block back: the one with this number, or all of them. -/
inductive PutsBack (S : Session) (id : NodeId) : Happening → Prop where
  | one : PutsBack S id (.restore id)
  | all : PutsBack S id (.event .restoreAll)
  | reaction {task part : Nat} {t : Task} (known : S.tasks[task]? = some t)
      (live : t.givenUp = false) (is : t.activity.reaction? = some .restore) :
      PutsBack S id (.event (.proceed task part))

/-- What a happening makes of the block in a slot. -/
inductive Turns (S : Session) (h : Happening) (slot slot' : Slot) : Prop where
  | stays (stays : slot.Stays slot')
  /-- a render of its number put a block in -/
  | renders (a : Activity) (r : Render) (its : r.id = slot.node.id)
      (succeeds : S.Succeeds h a r slot'.node.id) (o : SourceBlock) (block : RenderedBlock)
      (willPut : r.WillPut S.setting o block)
      (node : slot'.node = ⟨S.page.allocated + 1, [Page.renderedClass], .rendered block⟩)
  /-- it was rendered, and is what was noted of it, under the number that it had -/
  | restores (puts : S.PutsBack slot.node.id h) (o : SourceBlock) (noted : slot.captured = some o)
      (rendered : slot.node.isRendered = true)
      (node : slot'.node = ⟨slot.node.id, o.classes, .source o.text⟩)

variable {S : Session} {h : Happening} {i : Nat} {slot slot' : Slot}

theorem turns_of_forall₂ {p' : Page} (hstays : List.Forall₂ Slot.Stays S.page.slots p'.slots)
    (hpage : (S.undergo h).page.slots = p'.slots) (hslot : S.page.slots[i]? = some slot)
    (hslot' : (S.undergo h).page.slots[i]? = some slot') : S.Turns h slot slot' := by
  rw [hpage] at hslot'
  obtain ⟨a, ha, hstay⟩ := forall₂_getElem? hstays hslot'
  cases ha.symm.trans hslot
  exact .stays hstay

theorem turns_of_slots_eq (hpage : (S.undergo h).page.slots = S.page.slots)
    (hslot : S.page.slots[i]? = some slot)
    (hslot' : (S.undergo h).page.slots[i]? = some slot') : S.Turns h slot slot' :=
  turns_of_forall₂ (List.forall₂_same.2 fun slot _ => .refl slot) hpage hslot hslot'

/-- A slot turns when its block is put back. -/
theorem turns_putBack (hputs : S.PutsBack slot.node.id h) (hslot' : slot' = slot.putBack) :
    S.Turns h slot slot' := by
  subst hslot'
  rcases slot.putBack_cases with he | ⟨o, ho, hr, hnode⟩
  · rw [he]
    exact .stays (.refl slot)
  · exact .restores hputs o ho hr hnode

theorem turns_of_restored (hnumbered : S.page.IsNumbered)
    (hputs : ∀ id, S.PutsBack id h) (hpage : (S.undergo h).page = S.world.restored.page)
    (hslot : S.page.slots[i]? = some slot)
    (hslot' : (S.undergo h).page.slots[i]? = some slot') : S.Turns h slot slot' := by
  have hslots : S.world.restored.page.slots = S.page.slots.map Slot.putBack :=
    hnumbered.slots_restoreBlocks
  rw [hpage, hslots, List.getElem?_map, hslot] at hslot'
  cases hslot'
  exact turns_putBack (hputs slot.node.id) rfl

/-- A slot turns with a step of a render. -/
theorem turns_of_render {task part : Nat} {a : Activity} {r : Render}
    (htask : S.tasks[task]? = some ⟨a, false⟩) (hrendering : a.IsRendering r)
    (hpage : (S.undergo (.event (.proceed task part))).page = (r.step S.setting S.world).1.page)
    (hslot : S.page.slots[i]? = some slot)
    (hslot' : (S.undergo (.event (.proceed task part))).page.slots[i]? = some slot') :
    S.Turns (.event (.proceed task part)) slot slot' := by
  by_cases hwill : ∃ o block, r.WillPut S.setting o block
  · obtain ⟨o, block, hwill⟩ := hwill
    have hstep := (hwill.step (w := S.world)).1
    have hmoves := Page.forall₂_move_apply (.replace r.id block) S.page
    have hslots : (S.undergo (.event (.proceed task part))).page.slots =
        ((Page.Edit.replace r.id block).apply S.page).slots :=
          congrArg Page.slots (hpage.trans hstep)
    rw [hslots] at hslot'
    obtain ⟨b, hb, hmove⟩ := forall₂_getElem? hmoves hslot'
    cases hb.symm.trans hslot
    generalize hid : r.id = id at hmove
    cases hmove with
    | keep => exact .stays (.refl slot)
    | replace =>
      have hanswer := hwill.answers (w := S.world) (hid ▸ Page.slot?_isSome_of_getElem? hslot)
      refine .renders a r hid ⟨⟨task, part, rfl, htask⟩, hrendering, ?_, hanswer, hpage⟩ o block
        hwill rfl
      obtain ⟨engine, hstage, -⟩ := hwill
      simp only [Render.outcome?, hstage]
  · have hnot : ∀ o block, ¬r.WillPut S.setting o block :=
      fun o block h => hwill ⟨o, block, h⟩
    have hquiet : ∃ es : List Page.Edit, (∀ e ∈ es, e.IsQuiet) ∧
        (r.step S.setting S.world).1.page = Page.Edit.applyAll es S.page := by
      cases hdone : r.outcome? with
      | none =>
        obtain ⟨⟨es, hes, hstep⟩, -⟩ := Render.step_of_not_willPut (w := S.world) hnot hdone
        refine ⟨es, fun e he => ?_, hstep⟩
        rw [hes e he]
        trivial
      | some outcome => exact ⟨[], by simp, by rw [Render.step_of_outcome? hdone]; rfl⟩
    obtain ⟨es, hes, hstep⟩ := hquiet
    exact turns_of_forall₂ (Page.forall₂_stays_applyAll hes S.page)
      (congrArg Page.slots (hpage.trans hstep)) hslot hslot'

theorem turns_proceed (hnumbered : S.page.IsNumbered) (task part : Nat)
    (hslot : S.page.slots[i]? = some slot)
    (hslot' : (S.proceed task part).page.slots[i]? = some slot') :
    S.Turns (.event (.proceed task part)) slot slot' := by
  rcases S.proceed_cases task part with he | ⟨⟨a, givenUp⟩, ht, rfl, he⟩
  · have hpage : (S.undergo (.event (.proceed task part))).page.slots = S.page.slots :=
      congrArg (·.page.slots) he
    exact turns_of_slots_eq hpage hslot hslot'
  · have hpage : (S.undergo (.event (.proceed task part))).page =
        (a.step S.setting part S.world).1.page := congrArg Session.page he
    rcases a.page_step_cases S.setting part S.world with ⟨es, hes, hstep⟩ | ⟨his, hstep⟩ |
      ⟨r, hr, hstep⟩
    · exact turns_of_forall₂ (Page.forall₂_stays_applyAll hes S.page)
        (congrArg Page.slots (hpage.trans hstep)) hslot hslot'
    · exact turns_of_restored hnumbered (fun id => .reaction ht rfl his) (hpage.trans hstep) hslot
        hslot'
    · exact turns_of_render ht hr (hpage.trans hstep) hslot hslot'

/-- Every happening makes one of three things of the block in a slot. -/
theorem turns_undergo (hnumbered : S.page.IsNumbered) (h : Happening)
    (hslot : S.page.slots[i]? = some slot)
    (hslot' : (S.undergo h).page.slots[i]? = some slot') : S.Turns h slot slot' := by
  cases h with
  | restore id =>
    have hslots : (S.undergo (.restore id)).page.slots =
        S.page.slots.map fun s => if s.node.id = id then s.putBack else s :=
      hnumbered.slots_restore id
    rw [hslots, List.getElem?_map, hslot] at hslot'
    by_cases hid : slot.node.id = id
    · subst hid
      refine turns_putBack .one ?_
      simpa using hslot'.symm
    · simp only [Option.map_some, if_neg hid, Option.some.injEq] at hslot'
      exact .stays (hslot' ▸ .refl slot)
  | event e =>
    cases e with
    | proceed task part => exact turns_proceed hnumbered task part hslot hslot'
    | restoreAll => exact turns_of_restored hnumbered (fun id => .all) rfl hslot hslot'
    | giveUp task =>
      have hpage : (S.undergo (.event (.giveUp task))).page.slots = S.page.slots := by
        rcases S.giveUp_cases task with he | ⟨t, -, -, he⟩
        · exact congrArg (·.page.slots) he
        · exact (congrArg (·.page.slots) he).trans
            (congrArg Page.slots (t.activity.page_giveUp S.setting S.world))
      exact turns_of_slots_eq hpage hslot hslot'
    | call c =>
      exact turns_of_slots_eq (World.alike_make c S.world).slots hslot hslot'
    | setRootClass c on =>
      exact turns_of_slots_eq
        (World.alike_changeRoot (RootElement.setClass c on) S.world).slots hslot hslot'
    | setRootAttr name value =>
      exact turns_of_slots_eq
        (World.alike_changeRoot (RootElement.setAttr name value) S.world).slots hslot hslot'
    | setPrefersDark dark =>
      exact turns_of_slots_eq (World.alike_setPrefersDark dark S.world).slots hslot hslot'
    | setReady state =>
      exact turns_of_slots_eq (World.alike_setReady state S.world).slots hslot hslot'
    | arrive => exact turns_of_slots_eq rfl hslot hslot'
    | openGate => exact turns_of_slots_eq rfl hslot hslot'
    | passTo now => exact turns_of_slots_eq rfl hslot hslot'

end Session

end PageHighlight
