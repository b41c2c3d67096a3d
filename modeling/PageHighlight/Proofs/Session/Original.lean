/-
  Proofs/Session/Original.lean --- a rendered block depends on what it was at first
  and on nothing that happened since.

  WHAT THIS FILE IS FOR.  A block may be rendered, put back and rendered again, by
  cycles, single renders and reactions in any order.  What was noted of it never
  changes and is what it was when the session began; and whenever it is rendered, it
  shows what `Setting.render?` makes of that, with the theme it names.

  THE INVARIANT.  `Slot.Faithful` ties a slot to what it was at first.  A render
  under way knows what its block was (`Page.Owns`) and gets the engine that the
  loader makes of the configuration, so that putting its block in keeps the
  invariant, whatever the others did while it waited.
-/
import PageHighlight.Proofs.Engine
import PageHighlight.Proofs.Session.Edits
import PageHighlight.Proofs.Session.Pact

set_option autoImplicit false

namespace PageHighlight

/-! ## What a slot shows -/

/-- A block that was this at first may be rendered like that: all of it but the state
of its copy control is what rendering makes of it, with the session's engine and the
theme that it names. -/
def Setting.Renders (s : Setting) (o : SourceBlock) (r : RenderedBlock) : Prop :=
  ∃ engine r', s.loader.handle s.config = some engine ∧
    s.render? engine o r.theme = .ok r' ∧
    r = { r' with copy := { r'.copy with state := r.copy.state } }

/-- The classes of a block without the mark of a cycle at work. -/
def Page.lastingClasses (classes : List Text) : List Text :=
  classes.filter (· ≠ Page.loadingClass)

namespace Slot

/-- A slot shows what the block that was there at first gives it to show. -/
structure Faithful (s : Setting) (first slot : Slot) : Prop where
  captured : ∀ o, slot.captured = some o →
    ∃ t, first.node.content = .source t ∧ o = Page.sourceBlockOf first.node.classes t
  pristine : ∀ t, slot.node.content = .source t → first.node.content = .source t ∧
    Page.lastingClasses slot.node.classes = Page.lastingClasses first.node.classes
  rendered : ∀ r, slot.node.content = .rendered r →
    ∃ o, slot.captured = some o ∧ s.Renders o r

end Slot

namespace Page

theorem sourceBlockOf_congr {classes classes' : List Text}
    (h : lastingClasses classes = lastingClasses classes') (t : Text) :
    sourceBlockOf classes t = sourceBlockOf classes' t := by
  unfold lastingClasses at h
  unfold sourceBlockOf
  rw [h]

theorem lastingClasses_idem (classes : List Text) :
    lastingClasses (lastingClasses classes) = lastingClasses classes := by
  unfold lastingClasses
  rw [List.filter_filter]
  simp

theorem lastingClasses_append_loading (classes : List Text) :
    lastingClasses (classes ++ [loadingClass]) = lastingClasses classes := by
  simp [lastingClasses]

/-- The edits that sessions make: blocks are rendered as what they were at first, and
only the mark of a cycle at work is added and removed. -/
def Edit.IsDue (s : Setting) (p : Page) : Edit → Prop
  | .replace id r => ∃ o, p.Owns id o ∧ s.Renders o r
  | .addClass _ c => c = loadingClass
  | .removeClass _ c => c = loadingClass
  | .capture _ | .restore _ | .setCopyState _ _ => True

end Page

theorem Setting.Renders.setCopyState {s : Setting} {o : SourceBlock} {r : RenderedBlock}
    (h : s.Renders o r) (state : CopyState) :
    s.Renders o { r with copy := { r.copy with state := state } } := by
  obtain ⟨engine, r', he, hr, heq⟩ := h
  refine ⟨engine, r', he, hr, ?_⟩
  rw [heq]

namespace Slot

/-- A move by an edit that is due keeps a slot faithful. -/
theorem Faithful.move {s : Setting} {p : Page} {e : Page.Edit} {first slot slot' : Slot}
    (h : Faithful s first slot) (hmem : slot ∈ p.slots) (he : e.IsDue s p)
    (hm : Move p.allocated e slot slot') : Faithful s first slot' := by
  cases hm with
  | keep e slot => exact h
  | @capture _ t pristine fresh =>
    obtain ⟨hfirst, hclasses⟩ := h.pristine t pristine
    refine ⟨?_, h.pristine, ?_⟩
    · intro o ho
      cases ho
      exact ⟨t, hfirst, Page.sourceBlockOf_congr hclasses t⟩
    · intro r hr
      rw [pristine] at hr
      cases hr
  | replace slot r =>
    obtain ⟨o, howns, hrenders⟩ := he
    refine ⟨h.captured, ?_, ?_⟩
    · intro t ht
      cases ht
    · intro r' hr
      cases hr
      exact ⟨o, howns.2 slot hmem rfl, hrenders⟩
  | @restore _ o known rendered =>
    obtain ⟨t, hfirst, rfl⟩ := h.captured o known
    refine ⟨h.captured, ?_, ?_⟩
    · intro t' ht
      cases ht
      exact ⟨hfirst, Page.lastingClasses_idem first.node.classes⟩
    · intro r hr
      cases hr
  | @addClass _ c absent =>
    have hc : c = Page.loadingClass := he
    subst hc
    refine ⟨h.captured, fun t ht => ?_, h.rendered⟩
    obtain ⟨hfirst, hclasses⟩ := h.pristine t ht
    exact ⟨hfirst, (Page.lastingClasses_append_loading _).trans hclasses⟩
  | @removeClass _ c present =>
    have hc : c = Page.loadingClass := he
    subst hc
    refine ⟨h.captured, fun t ht => ?_, h.rendered⟩
    obtain ⟨hfirst, hclasses⟩ := h.pristine t ht
    exact ⟨hfirst, (Page.lastingClasses_idem _).trans hclasses⟩
  | @setCopyState _ r state rendered =>
    refine ⟨h.captured, ?_, ?_⟩
    · intro t ht
      cases ht
    · intro r' hr
      cases hr
      obtain ⟨o, ho, hrenders⟩ := h.rendered r rendered
      exact ⟨o, ho, hrenders.setCopyState state⟩

end Slot

namespace Page

/-- Every slot is faithful to what it was in the first page. -/
def Faithful (s : Setting) (first p : Page) : Prop :=
  List.Forall₂ (Slot.Faithful s) first.slots p.slots

theorem IsFresh.faithful {p : Page} (h : p.IsFresh) (s : Setting) : Faithful s p p := by
  refine List.forall₂_same.2 ?_
  intro slot hslot
  refine ⟨?_, fun t ht => ⟨ht, rfl⟩, ?_⟩
  · intro o ho
    rw [h.uncaptured slot hslot] at ho
    cases ho
  · intro r hr
    obtain ⟨t, ht⟩ := h.pristine slot hslot
    rw [ht] at hr
    cases hr

theorem Faithful.apply {s : Setting} {first p : Page} (h : Faithful s first p) {e : Edit}
    (he : e.IsDue s p) : Faithful s first (e.apply p) :=
  forall₂_trans (fun _ _ _ hmem hf hm => hf.move hmem he hm) h (forall₂_move_apply e p)

/-- Edits that are due whatever the page is keep every slot faithful. -/
theorem Faithful.applyAll {s : Setting} {first p : Page} (h : Faithful s first p) {es : List Edit}
    (hes : ∀ e ∈ es, ∀ p, e.IsDue s p) : Faithful s first (Edit.applyAll es p) := by
  induction es generalizing p with
  | nil => exact h
  | cons e es ih =>
    refine ih (h.apply (hes e List.mem_cons_self p)) ?_
    intro e he
    exact hes e (List.mem_cons_of_mem _ he)

end Page

/-! ## What the renders of a session know -/

/-- What a render knows: what its block was, and which engine it gets. -/
def Render.Knows (s : Setting) (p : Page) (r : Render) : Prop :=
  match r.stage with
  | .asking o => p.Owns r.id o
  | .waiting o request => p.Owns r.id o ∧
      ∀ h, request = .answered h → h = s.loader.handle s.config
  | .answered o h => p.Owns r.id o ∧ h = s.loader.handle s.config
  | .start | .done _ => True

namespace Render

theorem Knows.mono {s : Setting} {p p' : Page} {r : Render} (h : r.Knows s p)
    (hev : p.Evolves p') : r.Knows s p' := by
  unfold Knows at h ⊢
  split <;> rename_i heq <;> rw [heq] at h
  · exact h.mono hev
  · exact ⟨h.1.mono hev, h.2⟩
  · exact ⟨h.1.mono hev, h.2⟩
  · trivial
  · trivial

end Render

/-! ## The pact -/

/-- The page is faithful to the first one, its numbers are in order, and the engine
that is remembered is the one of the configuration. -/
structure World.Faithful (s : Setting) (first : Page) (w : World) : Prop where
  page : Page.Faithful s first w.page
  numbered : w.page.IsNumbered
  engines : w.engines.Remembers s.key (s.loader.handle s.config)

/-- What the renders of a session rely on: blocks evolve, and nothing else is done to
them. -/
def Pact.faithful (s : Setting) (first : Page) : Pact s where
  inv w := w.Faithful s first
  rely w w' := w.page.Evolves w'.page
  render w r := r.Knows s w.page
  cycle w c := ∀ r ∈ c.renders, r.Knows s w.page

namespace World

variable {s : Setting} {first : Page} {w w' : World}

/-- A step that makes one edit that is due is within the pact. -/
theorem Faithful.edit (h : w.Faithful s first) {e : Page.Edit} (he : e.IsDue s w.page)
    (hp : w'.page = e.apply w.page) (hc : w'.engines = w.engines) :
    (Pact.faithful s first).Allows w w' := by
  refine ⟨⟨?_, ?_, ?_⟩, ?_⟩
  · rw [hp]
    exact h.page.apply he
  · rw [hp]
    exact h.numbered.apply e
  · rw [hc]
    exact h.engines
  · show w.page.Evolves w'.page
    rw [hp]
    exact .apply e w.page

/-- So is one that makes several edits that are due whatever the page is. -/
theorem Faithful.edits (h : w.Faithful s first) {es : List Page.Edit}
    (hes : ∀ e ∈ es, ∀ p, e.IsDue s p) (hp : w'.page = Page.Edit.applyAll es w.page)
    (hc : w'.engines = w.engines) : (Pact.faithful s first).Allows w w' := by
  refine ⟨⟨?_, ?_, ?_⟩, ?_⟩
  · rw [hp]
    exact h.page.applyAll hes
  · rw [hp]
    exact h.numbered.applyAll es
  · rw [hc]
    exact h.engines
  · show w.page.Evolves w'.page
    rw [hp]
    exact .applyAll es w.page

/-- So is one that changes the engines, if they remember the right one. -/
theorem Faithful.engine (h : w.Faithful s first) {c : EngineCache} (hp : w'.page = w.page)
    (he : w'.engines = c) (hc : c.Remembers s.key (s.loader.handle s.config)) :
    (Pact.faithful s first).Allows w w' := by
  refine ⟨⟨?_, ?_, ?_⟩, ?_⟩
  · rw [hp]
    exact h.page
  · rw [hp]
    exact h.numbered
  · rw [he]
    exact hc
  · show w.page.Evolves w'.page
    rw [hp]
    exact .refl w.page

end World

namespace Render

variable {s : Setting} {first : Page} {w : World}

/-- What a render knows after its request: it gets the engine of the configuration. -/
theorem knows_afterRequest (r : Render) {p : Page} {o : SourceBlock} (ho : p.Owns r.id o)
    {request : Request} (hr : ∀ h, request = .answered h → h = s.loader.handle s.config) :
    Knows s p { r with stage := afterRequest o request } := by
  cases request with
  | answered h => exact ⟨ho, hr h rfl⟩
  | queued ticket => exact ⟨ho, hr⟩
  | building ticket => exact ⟨ho, hr⟩

/-- A step of a render that knows its block is within the pact. -/
theorem Knows.step {r : Render} (hw : w.Faithful s first) (hr : r.Knows s w.page) :
    (Pact.faithful s first).Allows w (r.step s w).1 ∧
      (r.step s w).2.Knows s (r.step s w).1.page := by
  obtain ⟨id, theme, stage⟩ := r
  cases stage with
  | start =>
    have hcapture : (Pact.faithful s first).Allows w (w.write (·.capture id)).2 :=
      hw.edit (e := .capture id) trivial rfl rfl
    cases ho : (w.page.capture id).1 with
    | none =>
      have hstep : Render.step s w ⟨id, theme, .start⟩ =
          ((w.write (·.capture id)).2, ⟨id, theme, .done (.skipped .gone)⟩) := by
        have ho' : (w.write (·.capture id)).1 = none := ho
        simp only [Render.step, ho']
      rw [hstep]
      exact ⟨hcapture, trivial⟩
    | some o =>
      have ho' : (w.write (·.capture id)).1 = some o := ho
      have howns : (w.write (·.capture id)).2.page.Owns id o := hw.numbered.owns_capture ho
      simp only [Render.step, ho']
      split
      · exact ⟨hcapture, howns⟩
      · exact ⟨hcapture, trivial⟩
  | asking o =>
    obtain ⟨hengines, hanswer⟩ :=
      hw.engines.ask s.loader w.ticket.2.gateOpen w.ticket.1
    exact ⟨hw.engine rfl rfl hengines, knows_afterRequest ⟨id, theme, .asking o⟩ hr hanswer⟩
  | waiting o request =>
    obtain ⟨hengines, hanswer⟩ := hw.engines.goOn w.gateOpen hr.2
    exact ⟨hw.engine rfl rfl hengines,
      knows_afterRequest ⟨id, theme, .waiting o request⟩ hr.1 hanswer⟩
  | answered o h =>
    obtain ⟨howns, hhandle⟩ := hr
    cases h with
    | none => exact ⟨hw.engine rfl rfl hw.engines, trivial⟩
    | some engine =>
      simp only [Render.step]
      split
      · exact ⟨hw.engine rfl rfl hw.engines, trivial⟩
      · next block hblock =>
        have hdue : (Page.Edit.replace id block).IsDue s w.page := by
          refine ⟨o, howns, engine, block, hhandle.symm, ?_, rfl⟩
          have htheme : block.theme = theme := Setting.theme_of_render? hblock
          rw [htheme]
          exact hblock
        have hreplace : (Pact.faithful s first).Allows w (w.write (·.replace id block)).2 :=
          hw.edit hdue rfl rfl
        split
        · exact ⟨hreplace, trivial⟩
        · exact ⟨hreplace, trivial⟩
  | done o => exact ⟨hw.engine rfl rfl hw.engines, trivial⟩

end Render

namespace Cycle

variable {s : Setting} {first : Page} {w : World}

/-- The renders of a batch that is about to begin know all they need. -/
theorem renders_know_next (b : Batches) (p : Page) : ∀ r ∈ b.next.renders, r.Knows s p := by
  intro r hr
  obtain ⟨ids, rest, -, -, he⟩ := renders_next b hr
  rw [he]
  exact trivial

/-- A step of a cycle is within the pact. -/
theorem faithful_step {c : Cycle} (part : Nat) (hw : w.Faithful s first)
    (hc : ∀ r ∈ c.renders, r.Knows s w.page) :
    (Pact.faithful s first).Allows w (c.step s part w).1 ∧
      ∀ r ∈ (c.step s part w).2.renders, r.Knows s (c.step s part w).1.page := by
  have same : ∀ w' : World, w'.page = w.page → w'.engines = w.engines →
      (Pact.faithful s first).Allows w w' :=
    fun w' hp he => hw.engine hp he hw.engines
  have none : ∀ (c' : Cycle) (p : Page), c'.renders = [] → ∀ r ∈ c'.renders, r.Knows s p := by
    intro c' p he r hr
    rw [he] at hr
    cases hr
  cases c with
  | start =>
    simp only [step]
    split
    · exact ⟨same _ rfl rfl, none _ _ rfl⟩
    · exact ⟨same _ rfl rfl, none _ _ rfl⟩
  | survey =>
    simp only [step]
    split
    · exact ⟨same _ rfl rfl, none _ _ rfl⟩
    · exact ⟨same _ rfl rfl, none _ _ rfl⟩
  | mark theme ids =>
    refine ⟨hw.edits (fun e he p => ?_) (page_markAll ids w.page) rfl, renders_know_next _ _⟩
    obtain ⟨id, -, rfl⟩ := List.mem_map.1 he
    rfl
  | batch b =>
    simp only [step]
    split
    · exact ⟨same _ rfl rfl, renders_know_next b w.page⟩
    · split
      · exact ⟨same _ rfl rfl, hc⟩
      · next r hr =>
        obtain ⟨hallows, hknows⟩ := (hc r (List.mem_of_getElem? hr)).step hw
        refine ⟨hallows, ?_⟩
        intro r' hr'
        rcases List.mem_or_eq_of_mem_set hr' with hold | rfl
        · exact (hc r' hold).mono hallows.2
        · exact hknows
  | unmark ids tally =>
    refine ⟨hw.edits (fun e he p => ?_) (page_unmarkAll ids w.page) rfl, none _ _ rfl⟩
    obtain ⟨id, -, rfl⟩ := List.mem_map.1 he
    rfl
  | release n tally => exact ⟨same _ rfl rfl, none _ _ rfl⟩
  | done report => exact ⟨same _ rfl rfl, none _ _ rfl⟩

end Cycle

namespace Pact

/-- Every step of a session is within the pact. -/
theorem kept_faithful (s : Setting) (first : Page) : (Pact.faithful s first).Kept where
  trans h h' := h.trans h'
  render_mono h hr := hr.mono h
  cycle_mono h hc r hr := (hc r hr).mono h
  alike h hw := by
    refine ⟨⟨?_, ?_, ?_⟩, .of_slots_eq h.slots h.allocated⟩
    · unfold Page.Faithful
      rw [h.slots]
      exact hw.page
    · refine ⟨?_, ?_⟩
      · rw [h.slots]
        exact hw.numbered.nodup
      · rw [h.slots, h.allocated]
        exact hw.numbered.le_allocated
    · rw [h.engines]
      exact hw.engines
  start hw r hr := by cases hr
  render_step hw hr := hr.step hw
  cycle_step part hw hc := Cycle.faithful_step part hw hc
  copying_step {w} c hw := by
    have he := (c.engines_step s w).1
    rcases c.page_step s w with hp | ⟨state, hp⟩
    · exact hw.engine hp he hw.engines
    · exact hw.edit (e := .setCopyState c.id state) trivial hp he
  restored {w} hw := by
    refine hw.edits (fun e he p => ?_) w.page_restored rfl
    obtain ⟨id, -, rfl⟩ := List.mem_map.1 he
    exact trivial
  arrived hw := hw.engine rfl rfl hw.engines.arrive

/-- A render that is given up leaves the page alone, and the engines remember the
right one. -/
theorem allows_giveUp_render {s : Setting} {first : Page} {w : World} (r : Render)
    (hw : w.Faithful s first) : (Pact.faithful s first).Allows w (r.giveUp s w) := by
  unfold Render.giveUp
  split
  · next request _ => exact hw.engine rfl rfl (hw.engines.giveUp request)
  · exact hw.engine rfl rfl hw.engines

theorem allows_giveUp_renders {s : Setting} {first : Page} {w : World} (rs : List Render)
    (hw : w.Faithful s first) :
    (Pact.faithful s first).Allows w (rs.foldl (fun w r => r.giveUp s w) w) := by
  induction rs generalizing w with
  | nil => exact (kept_faithful s first).refl hw
  | cons r rs ih =>
    have hr := allows_giveUp_render r hw
    exact (kept_faithful s first).allows_trans hr (ih hr.1)

theorem keptWhenGivenUp_faithful (s : Setting) (first : Page) :
    (Pact.faithful s first).KeptWhenGivenUp where
  render {w} {r} hw _ := allows_giveUp_render r hw
  cycle {w} {c} hw _ := by
    have hrenders := allows_giveUp_renders c.renders hw
    rw [Cycle.giveUp_eq]
    split
    · refine (kept_faithful s first).allows_trans hrenders ?_
      exact hrenders.1.engine rfl rfl hrenders.1.engines
    · exact hrenders

end Pact

/-! ## Histories -/

namespace Session

variable {setting : Setting} {p : Page}

theorem ofSession_start (hp : p.IsFresh) :
    (Pact.faithful setting p).OfSession (start setting p) where
  setting := rfl
  inv := ⟨hp.faithful setting, hp.numbered, EngineCache.remembers_empty _ _⟩
  tasks t ht := by cases ht

theorem admits_faithful (s : Setting) (first : Page) (e : Event) :
    (Pact.faithful s first).Admits e := by
  cases e with
  | call c =>
    cases c with
    | render id theme => exact fun w hw => trivial
    | _ => trivial
  | giveUp task => exact Pact.keptWhenGivenUp_faithful s first
  | _ => trivial

/-- After every history of a session with a fresh page the world is faithful to it. -/
theorem faithful_after (hp : p.IsFresh) (es : List Event) :
    ((start setting p).after es).world.Faithful setting p :=
  ((Pact.kept_faithful setting p).after (ofSession_start hp) es
    fun e _ => admits_faithful setting p e).1.inv

/-- Blocks evolve, from every moment of a history to every later one. -/
theorem evolves_after (hp : p.IsFresh) (es es' : List Event) :
    ((start setting p).after es).page.Evolves ((start setting p).after (es ++ es')).page := by
  have hk := Pact.kept_faithful setting p
  have hadmits := fun (es : List Event) e (_ : e ∈ es) => admits_faithful setting p e
  have hes := (hk.after (ofSession_start hp) es (hadmits es)).1
  rw [after_append]
  exact (hk.after hes es' (hadmits es')).2

/-- What was noted of a block of a fresh page is what it was when the session began,
and stays noted; and a rendered block shows what rendering makes of that, with the
session's engine and the theme it names.  This holds after every history, whatever
was rendered, put back or copied in it, and in whatever order. -/
theorem rendered_of_original (hp : p.IsFresh) (es es' : List Event) (i : Nat) (first : Slot)
    (hfirst : p.slots[i]? = some first) :
    ∃ slot slot' : Slot,
      ((start setting p).after es).page.slots[i]? = some slot ∧
      ((start setting p).after (es ++ es')).page.slots[i]? = some slot' ∧
      (∀ o, slot.captured = some o →
        slot'.captured = some o ∧ first.node.content = .source o.text ∧
          o.classes = Page.lastingClasses first.node.classes) ∧
      (∀ r, slot.node.content = .rendered r →
        ∃ o, slot.captured = some o ∧ setting.Renders o r) := by
  have hpage : Page.Faithful setting p ((start setting p).after es).page :=
    (faithful_after hp es).page
  have hevolves : List.Forall₂
      (Slot.Evolves ((start setting p).after es).page.allocated)
      ((start setting p).after es).page.slots ((start setting p).after (es ++ es')).page.slots :=
    (evolves_after hp es es').slots
  obtain ⟨hi, rfl⟩ := List.getElem?_eq_some_iff.1 hfirst
  have hi₁ : i < ((start setting p).after es).page.slots.length := hpage.length_eq ▸ hi
  have hi₂ : i < ((start setting p).after (es ++ es')).page.slots.length :=
    hevolves.length_eq ▸ hi₁
  have hslot := hpage.get hi hi₁
  have hslot' := hevolves.get hi₁ hi₂
  refine ⟨_, _, List.getElem?_eq_getElem hi₁, List.getElem?_eq_getElem hi₂, ?_, hslot.rendered⟩
  intro o ho
  obtain ⟨t, ht, rfl⟩ := hslot.captured o ho
  exact ⟨hslot'.captured _ ho, ht, rfl⟩

/-- A block that a cycle renders, and that is put back and rendered again with
another theme. -/
theorem rendered_of_original_oneBlock :
    let s := start (.forRust .plain) .oneBlock
    let again : List Event :=
      [.restoreAll, .call (.render 2 "gruvbox-dark".toList)] ++ List.replicate 4 (.proceed 1 0)
    (s.after oneCycle).page.blocks.map (·.isRendered) = [true] ∧
    (s.after (oneCycle ++ again)).page.blocks.map (·.isRendered) = [true] ∧
    ∃ slot slot' : Slot,
      (s.after oneCycle).page.slots[0]? = some slot ∧
      (s.after (oneCycle ++ again)).page.slots[0]? = some slot' ∧
      (∀ o, slot.captured = some o →
        slot'.captured = some o ∧ Content.source "let x = 1;".toList = .source o.text ∧
          o.classes = Page.lastingClasses ["language-rust".toList]) ∧
      (∀ r, slot.node.content = .rendered r →
        ∃ o, slot.captured = some o ∧ (Setting.forRust .plain).Renders o r) := by
  refine ⟨by decide +kernel, by decide +kernel, ?_⟩
  exact rendered_of_original (Page.isFresh_empty.pushBlock _ _ _ _) _ _ 0 _ rfl

end Session

end PageHighlight
