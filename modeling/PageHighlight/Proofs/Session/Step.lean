/-
  Proofs/Session/Step.lean --- what one step of an activity can do.

  WHAT THIS FILE IS FOR.  Activities of eight kinds nest cycles and renders in
  different ways, but there are only seven things that a step of any of them does.
  `Activity.Stepped` lists them, and `Activity.stepped` says that a step is one of
  them; whoever proves something of every step looks at seven cases, and not at the
  eight activities.  So it is with the world: `Render.Acts` and `Cycle.Acts` list what a
  step of a render and one of a cycle do to it.

  CYCLES.  `Activity.cycles` are the cycles that an activity has under way: its own
  one, that of its reaction, or those of its triggers.
-/
import PageHighlight.Session.Basic

set_option autoImplicit false

namespace PageHighlight

/-! ## Cycles under way -/

/-- The renders of the batch at work. -/
def Cycle.renders : Cycle → List Render
  | .batch b => b.current
  | _ => []

/-- Giving a cycle up gives up its renders, and lets the next one in if it was at
work. -/
theorem Cycle.giveUp_eq (s : Setting) (w : World) (c : Cycle) :
    c.giveUp s w =
      if c.isActive then
        { c.renders.foldl (fun w r => r.giveUp s w) w with running := false }
      else c.renders.foldl (fun w r => r.giveUp s w) w := by
  cases c <;> rfl

/-- The cycle of a reaction. -/
def Reaction.cycles : Reaction → List Cycle
  | .cycling c => [c]
  | _ => []

/-- The cycle of a reactor's reaction. -/
def Reactor.cycles : Reactor → List Cycle
  | .listening _ _ => []
  | .reacting _ r => r.cycles

/-- The cycle of a trigger. -/
def Trigger.cycles : Trigger → List Cycle
  | .cycling c => [c]
  | _ => []

/-- The cycles of triggers. -/
def Triggers.cycles : Triggers → List Cycle
  | .start => []
  | .waiting ts => ts.flatMap Trigger.cycles

namespace Activity

/-- The cycles of an activity. -/
def cycles : Activity → List Cycle
  | cycle c => [c]
  | reaction r => r.cycles
  | reactor r => r.cycles
  | triggers t => t.cycles
  | render _ | copying _ | waiting _ | waited => []

/-- The render that an activity is, if it is one. -/
def render? : Activity → Option Render
  | render r => some r
  | _ => none

/-- The reaction that an activity is at work on, if there is one. -/
def reaction? : Activity → Option Reaction
  | reaction r | reactor (.reacting _ r) => some r
  | _ => none

end Activity

/-! ## Worlds that differ little -/

namespace World

/-- The second world is the first one after some tickets were drawn. -/
def Ticketed (w w' : World) : Prop := ∃ n, w' = { w with nextTicket := n }

theorem Ticketed.refl (w : World) : Ticketed w w := ⟨w.nextTicket, rfl⟩

theorem Ticketed.trans {w w' w'' : World} (h : Ticketed w w') (h' : Ticketed w' w'') :
    Ticketed w w'' := by
  obtain ⟨n, rfl⟩ := h
  obtain ⟨n', rfl⟩ := h'
  exact ⟨n', rfl⟩

theorem ticketed_ticket (w : World) : Ticketed w w.ticket.2 := ⟨w.nextTicket + 1, rfl⟩

/-- The world after every rendered block was put back. -/
def restored (w : World) : World := { w with shared := w.shared.restoreAll.2 }

end World

/-! ## Renders -/

/-- A rendered block names the theme it was rendered with. -/
theorem Setting.theme_of_render? {s : Setting} {engine : Engine} {o : SourceBlock} {theme : Text}
    {r : RenderedBlock} (h : s.render? engine o theme = .ok r) : r.theme = theme := by
  simp only [render?] at h
  split at h
  · cases h
  · cases h
    rfl

/-- What a step of a render may do to the world. -/
inductive Render.Acts (r : Render) (w : World) : World → Prop where
  | nothing : Acts r w w
  /-- it notes what its block was -/
  | notes : Acts r w (w.write (·.capture r.id)).2
  /-- it asks for the engine, or goes on asking -/
  | asks (engines : EngineCache) (n : Ticket) :
      Acts r w { w with engines := engines, nextTicket := n }
  /-- it puts a block with its theme in -/
  | puts (block : RenderedBlock) (theme : block.theme = r.theme) :
      Acts r w (w.write (·.replace r.id block)).2

namespace Render

/-- A step of a render does one of these. -/
theorem acts (s : Setting) (w : World) (r : Render) : r.Acts w (r.step s w).1 := by
  obtain ⟨id, theme, stage⟩ := r
  cases stage with
  | start =>
    have hworld : (step s w ⟨id, theme, .start⟩).1 = (w.write (·.capture id)).2 := by
      cases ho : (w.write (·.capture id)).1 with
      | none => simp only [step, ho]
      | some o =>
        simp only [step, ho]
        split <;> rfl
    rw [hworld]
    exact .notes
  | asking o => exact .asks _ _
  | waiting o request => exact .asks _ _
  | answered o h =>
    cases h with
    | none => exact .nothing
    | some engine =>
      simp only [step]
      split
      · exact .nothing
      · next block hblock =>
        have hputs := Acts.puts (w := w) (r := ⟨id, theme, .answered o (some engine)⟩) block
          (Setting.theme_of_render? hblock)
        cases ho : (w.write (·.replace id block)).1 with
        | none => exact hputs
        | some new => exact hputs
  | done o => exact .nothing

/-- It keeps its block and its theme. -/
theorem id_theme_step (s : Setting) (w : World) (r : Render) :
    (r.step s w).2.id = r.id ∧ (r.step s w).2.theme = r.theme := by
  unfold step
  repeat' split
  all_goals exact ⟨rfl, rfl⟩

/-- A step of a render keeps the numbers of its batch. -/
theorem map_id_set_step {rs : List Render} {i : Nat} {r : Render} (hr : rs[i]? = some r)
    (s : Setting) (w : World) : (rs.set i (r.step s w).2).map (·.id) = rs.map (·.id) := by
  obtain ⟨hi, rfl⟩ := List.getElem?_eq_some_iff.1 hr
  rw [List.map_set, (id_theme_step s w _).1, ← List.getElem_map Render.id (h := by simpa using hi),
    List.set_getElem_self]

/-- After a step, a render of a batch has the number and the theme of one that was in it. -/
theorem exists_of_mem_set_step {rs : List Render} {i : Nat} {r : Render} (hr : rs[i]? = some r)
    {s : Setting} {w : World} {x : Render} (hx : x ∈ rs.set i (r.step s w).2) :
    ∃ y ∈ rs, x.id = y.id ∧ x.theme = y.theme := by
  rcases List.mem_or_eq_of_mem_set hx with hx | rfl
  · exact ⟨x, hx, rfl, rfl⟩
  · exact ⟨r, List.mem_of_getElem? hr, id_theme_step s w r⟩

theorem Acts.running {r : Render} {w w' : World} (h : r.Acts w w') : w'.running = w.running := by
  cases h <;> rfl

end Render

/-! ## What a cycle does to the world -/

/-- What a step of a cycle may do to the world. -/
inductive Cycle.Acts (s : Setting) (c : Cycle) (w : World) : World → Prop where
  /-- it sets or unsets the flag, or leaves it as it is -/
  | flags (running : Bool) : Acts s c w { w with running := running }
  /-- it marks what it found -/
  | marks (theme : Text) (ids : List NodeId) (is : c = .mark theme ids) :
      Acts s c w (w.write (Cycle.markAll ids)).2
  /-- it takes its marks off -/
  | unmarks (ids : List NodeId) (tally : Tally) (is : c = .unmark ids tally) :
      Acts s c w (w.write (Cycle.unmarkAll ids)).2
  /-- one of its renders takes a step -/
  | renders (r : Render) (mem : r ∈ c.renders) : Acts s c w (r.step s w).1

/-- A step of a cycle does one of these. -/
theorem Cycle.acts (s : Setting) (part : Nat) (w : World) (c : Cycle) :
    c.Acts s w (c.step s part w).1 := by
  cases c with
  | start =>
    simp only [step]
    split
    · exact .flags w.running
    · exact .flags true
  | survey =>
    simp only [step]
    split <;> exact .flags w.running
  | mark theme ids => exact .marks theme ids rfl
  | batch b =>
    simp only [step]
    split
    · exact .flags w.running
    · split
      · exact .flags w.running
      · next r hr => exact .renders r (List.mem_of_getElem? hr)
  | unmark ids tally => exact .unmarks ids tally rfl
  | release n tally => exact .flags false
  | done report => exact .flags w.running

/-! ## Steps -/

/-- What became of a list of cycles when one of them took a step: it is there with its
next stage, or it was left out because it has ended. -/
def Cycle.Replaced (cs : List Cycle) (c c' : Cycle) (cs' : List Cycle) : Prop :=
  ∃ before after, cs = before ++ c :: after ∧
    (cs' = before ++ c' :: after ∨ (c'.report?.isSome = true ∧ cs' = before ++ after))

namespace Cycle.Replaced

variable {cs cs' : List Cycle} {c c' : Cycle}

theorem mem_before (h : Replaced cs c c' cs') : c ∈ cs := by
  obtain ⟨before, after, rfl, -⟩ := h
  exact List.mem_append_right _ List.mem_cons_self

theorem eq_or_mem_before (h : Replaced cs c c' cs') {x : Cycle} (hx : x ∈ cs') :
    x = c' ∨ x ∈ cs := by
  obtain ⟨before, after, rfl, rfl | ⟨-, rfl⟩⟩ := h
  · rcases List.mem_append.1 hx with hx | hx
    · exact .inr (List.mem_append_left _ hx)
    · rcases List.mem_cons.1 hx with hx | hx
      · exact .inl hx
      · exact .inr (List.mem_append_right _ (List.mem_cons_of_mem _ hx))
  · rcases List.mem_append.1 hx with hx | hx
    · exact .inr (List.mem_append_left _ hx)
    · exact .inr (List.mem_append_right _ (List.mem_cons_of_mem _ hx))

end Cycle.Replaced

/-- What a step of an activity did. -/
inductive Activity.Stepped (s : Setting) (w : World) (a : Activity) : World → Activity → Prop where
  /-- it did nothing that anybody else can see -/
  | quiet {w' : World} {a' : Activity} (world : w.Ticketed w') (same : a'.cycles = a.cycles)
      (noRender : a'.render? = none) : Stepped s w a w' a'
  /-- a new cycle is about to start -/
  | begins {w' : World} {a' : Activity} (world : w.Ticketed w') (before after : List Cycle)
      (old : a.cycles = before ++ after) (new : a'.cycles = before ++ Cycle.start :: after)
      (noRender : a'.render? = none) : Stepped s w a w' a'
  /-- its render took a step -/
  | render (r : Render) (is : a = .render r) :
      Stepped s w a (r.step s w).1 (.render (r.step s w).2)
  /-- one of its cycles took a step -/
  | cycle {w' : World} {a' : Activity} (c : Cycle) (part : Nat)
      (world : (c.step s part w).1.Ticketed w')
      (replaced : Cycle.Replaced a.cycles c (c.step s part w).2 a'.cycles)
      (noRender : a'.render? = none) : Stepped s w a w' a'
  /-- it put every rendered block back -/
  | restores {w' : World} {a' : Activity} (is : a.reaction? = some .restore)
      (world : w.restored.Ticketed w') (old : a.cycles = []) (new : a'.cycles = [])
      (noRender : a'.render? = none) : Stepped s w a w' a'
  /-- it took what its observer was told -/
  | takes (observer : Nat) (ticket : Ticket) {a' : Activity}
      (is : a = .reactor (.listening observer ticket)) (new : a'.cycles = [])
      (noRender : a'.render? = none) :
      Stepped s w a { w with shared := (w.shared.takeAll observer).2 } a'
  /-- its copy took a step -/
  | copies (c : Copying) (is : a = .copying c) :
      Stepped s w a (c.step s w).1 (.copying (c.step s w).2)

/-! ## A step is one of them -/

namespace Triggers

theorem ticketed_await (as : List Awaited) (w : World) : w.Ticketed (await as w).2 := by
  induction as generalizing w with
  | nil => exact .refl w
  | cons a as ih => exact (World.ticketed_ticket w).trans (ih w.ticket.2)

theorem cycles_await (as : List Awaited) (w : World) :
    (await as w).1.flatMap Trigger.cycles = [] := by
  induction as generalizing w with
  | nil => rfl
  | cons a as ih =>
    simp only [await, List.flatMap_cons, Trigger.cycles, List.nil_append]
    exact ih w.ticket.2

/-- A step of triggers is a step of one of their cycles, or begins one, or is none. -/
theorem stepAt_cases (s : Setting) (part : Nat) (w : World) (ts : List Trigger) :
    let p := stepAt s part w ts
    let cs := ts.flatMap Trigger.cycles
    let cs' := p.2.flatMap Trigger.cycles
    (w.Ticketed p.1 ∧ cs' = cs) ∨
    (w.Ticketed p.1 ∧
      ∃ before after, cs = before ++ after ∧ cs' = before ++ Cycle.start :: after) ∨
    (∃ c k, (c.step s k w).1.Ticketed p.1 ∧ Cycle.Replaced cs c (c.step s k w).2 cs') := by
  induction ts generalizing part with
  | nil => exact .inl ⟨.refl w, rfl⟩
  | cons t ts ih =>
    simp only [stepAt]
    by_cases hp : part < t.parts.length
    · rw [if_pos hp]
      cases t with
      | waiting wait => exact .inr (.inl ⟨.refl w, [], ts.flatMap Trigger.cycles, rfl, rfl⟩)
      | cycling c =>
        refine .inr (.inr ⟨c, part, .refl _, [], ts.flatMap Trigger.cycles, rfl, ?_⟩)
        cases hr : (c.step s part w).2.report?.isSome with
        | false => exact .inl (by simp [Trigger.step, hr, Trigger.cycles])
        | true => exact .inr ⟨rfl, by simp [Trigger.step, hr, Trigger.cycles]⟩
      | done => exact .inl ⟨.refl w, rfl⟩
    · rw [if_neg hp]
      rcases ih (part - t.parts.length) with ⟨hw, hc⟩ | ⟨hw, before, after, hc, hc'⟩ |
        ⟨c, k, hw, before, after, hc, hc'⟩
      · exact .inl ⟨hw, by rw [List.flatMap_cons, List.flatMap_cons, hc]⟩
      · refine .inr (.inl ⟨hw, t.cycles ++ before, after, ?_, ?_⟩)
        · rw [List.flatMap_cons, hc, List.append_assoc]
        · rw [List.flatMap_cons, hc', List.append_assoc]
      · refine .inr (.inr ⟨c, k, hw, t.cycles ++ before, after, ?_, ?_⟩)
        · rw [List.flatMap_cons, hc, List.append_assoc]
        · rcases hc' with hc' | ⟨hr, hc'⟩
          · exact .inl (by rw [List.flatMap_cons, hc', List.append_assoc])
          · exact .inr ⟨hr, by rw [List.flatMap_cons, hc', List.append_assoc]⟩

end Triggers

namespace Reaction

/-- What a reaction does after a step of its cycle. -/
theorem afterCycle_cases (w : World) (c : Cycle) :
    w.Ticketed (afterCycle w c).1 ∧
      ((afterCycle w c).2.cycles = [c] ∨
        (c.report?.isSome = true ∧ (afterCycle w c).2.cycles = [])) := by
  unfold afterCycle
  split
  · exact ⟨.refl w, .inl rfl⟩
  · next h => exact ⟨World.ticketed_ticket w, .inr ⟨by simp [h], rfl⟩⟩
  · next h => exact ⟨.refl w, .inr ⟨by simp [h], rfl⟩⟩

/-- A step of a reaction restores, or begins its cycle, or is a step of its cycle, or
is none. -/
theorem step_cases (s : Setting) (part : Nat) (w : World) (r : Reaction) :
    let p := r.step s part w
    (w.Ticketed p.1 ∧ p.2.cycles = r.cycles) ∨
    (w.Ticketed p.1 ∧ r.cycles = [] ∧ p.2.cycles = [Cycle.start]) ∨
    (r = .restore ∧ w.restored.Ticketed p.1 ∧ p.2.cycles = []) ∨
    (∃ c, (c.step s part w).1.Ticketed p.1 ∧
      Cycle.Replaced r.cycles c (c.step s part w).2 p.2.cycles) := by
  cases r with
  | restore => exact .inr (.inr (.inl ⟨rfl, World.ticketed_ticket w.restored, rfl⟩))
  | settling ticket deadline => exact .inr (.inl ⟨.refl w, rfl, rfl⟩)
  | cycling c =>
    obtain ⟨hw, hc⟩ := afterCycle_cases (c.step s part w).1 (c.step s part w).2
    refine .inr (.inr (.inr ⟨c, hw, [], [], rfl, ?_⟩))
    rcases hc with hc | ⟨hr, hc⟩
    · exact .inl hc
    · exact .inr ⟨hr, hc⟩
  | idling ticket => exact .inl ⟨.refl w, rfl⟩
  | done report => exact .inl ⟨.refl w, rfl⟩

end Reaction

namespace Reactor

theorem afterReaction_cases (i : Nat) (w : World) (r : Reaction) :
    w.Ticketed (afterReaction i w r).1 ∧ (afterReaction i w r).2.cycles = r.cycles := by
  unfold afterReaction
  split
  · exact ⟨.refl w, rfl⟩
  · next h =>
    refine ⟨World.ticketed_ticket w, ?_⟩
    cases r with
    | done report => rfl
    | _ => cases h

end Reactor

namespace Activity

/-- A step of an activity is one of the seven. -/
theorem stepped (s : Setting) (part : Nat) (w : World) (a : Activity) :
    Stepped s w a (a.step s part w).1 (a.step s part w).2 := by
  cases a with
  | render r => exact .render r rfl
  | cycle c => exact .cycle c part (.refl _) ⟨[], [], rfl, .inl rfl⟩ rfl
  | reaction r =>
    rcases Reaction.step_cases s part w r with ⟨hw, hc⟩ | ⟨hw, hc, hc'⟩ | ⟨rfl, hw, hc'⟩ |
      ⟨c, hw, hc⟩
    · exact .quiet hw hc rfl
    · exact .begins hw [] [] hc hc' rfl
    · exact .restores rfl hw rfl hc' rfl
    · exact .cycle c part hw hc rfl
  | reactor r =>
    cases r with
    | listening i ticket => exact .takes i ticket rfl rfl rfl
    | reacting i r =>
      obtain ⟨ht, hr⟩ := Reactor.afterReaction_cases i (r.step s part w).1 (r.step s part w).2
      rcases Reaction.step_cases s part w r with ⟨hw, hc⟩ | ⟨hw, hc, hc'⟩ | ⟨rfl, hw, hc'⟩ |
        ⟨c, hw, hc⟩
      · exact .quiet (hw.trans ht) (hr.trans hc) rfl
      · exact .begins (hw.trans ht) [] [] hc (hr.trans hc') rfl
      · exact .restores rfl (hw.trans ht) rfl (hr.trans hc') rfl
      · exact .cycle c part (hw.trans ht) (by rw [← hr] at hc; exact hc) rfl
  | copying c => exact .copies c rfl
  | triggers t =>
    cases t with
    | start => 
      exact .quiet (Triggers.ticketed_await (Triggers.awaited s.config.timings w.now) w)
        (Triggers.cycles_await (Triggers.awaited s.config.timings w.now) w) rfl
    | waiting ts =>
      rcases Triggers.stepAt_cases s part w ts with ⟨hw, hc⟩ | ⟨hw, before, after, hc, hc'⟩ |
        ⟨c, k, hw, hc⟩
      · exact .quiet hw hc rfl
      · exact .begins hw before after hc hc' rfl
      · exact .cycle c k hw hc rfl
  | waiting wait => exact .quiet (.refl w) rfl rfl
  | waited => exact .quiet (.refl w) rfl rfl

end Activity

end PageHighlight
