/-
  Proofs/Session/Untouched.lean --- blocks that are not to be rendered.

  WHAT THIS FILE IS FOR.  A block whose language is not allowed may be a candidate, so that
  cycles mark it and take the mark off again, and renders of it may be called; but every
  render of it ends with its first step.  A block that cycles pass over, because of a class
  that excludes it or because its classes say no language, is never a candidate, whatever
  became of its classes meanwhile: then no step of a cycle does anything to its slot.
  `never_rendered` says both, of every history.

  WHY THE SECOND ONE IS SAID OF CYCLES.  A render that is called by itself does not ask
  whether cycles pass a block over.  If none is called for it, its slot is what it was.
-/
import PageHighlight.Proofs.Session.Turns

set_option autoImplicit false

namespace PageHighlight

/-! ## Edits of other blocks -/

/-- An edit leaves a slot as it is. -/
def Slot.IsKeptBy (slot : Slot) (e : Page.Edit) : Prop :=
  ∀ {bound : Nat} {slot' : Slot}, Move bound e slot slot' → slot' = slot

namespace Slot

variable {slot : Slot} {e : Page.Edit}

theorem isKeptBy_of_id_ne (h : e.id ≠ slot.node.id) : slot.IsKeptBy e := by
  intro bound slot' hmove
  cases hmove with
  | keep => rfl
  | _ => exact absurd rfl h

/-- A pristine block is not put back, and has no control. -/
theorem isKeptBy_of_pristine (hpristine : slot.node.isRendered = false)
    (he : (∃ id, e = .restore id) ∨ ∃ id state, e = .setCopyState id state) : slot.IsKeptBy e := by
  intro bound slot' hmove
  cases hmove with
  | keep => rfl
  | restore known rendered =>
    rw [hpristine] at rendered
    cases rendered
  | setCopyState state rendered =>
    rw [Node.isRendered_iff.2 ⟨_, rendered⟩] at hpristine
    cases hpristine
  | _ => simp at he

end Slot

namespace Page

variable {i : Nat} {slot : Slot}

theorem slots_apply_of_isKeptBy {p : Page} {e : Edit} (he : slot.IsKeptBy e)
    (hslot : p.slots[i]? = some slot) : (e.apply p).slots[i]? = some slot := by
  have hmoves := forall₂_move_apply e p
  obtain ⟨hi, -⟩ := List.getElem?_eq_some_iff.1 hslot
  have hslot' := List.getElem?_eq_getElem (hmoves.length_eq ▸ hi)
  obtain ⟨a, ha, hmove⟩ := forall₂_getElem? hmoves hslot'
  cases ha.symm.trans hslot
  rw [hslot', he hmove]

theorem slots_applyAll_of_isKeptBy {es : List Edit} (hes : ∀ e ∈ es, slot.IsKeptBy e) {p : Page}
    (hslot : p.slots[i]? = some slot) : (Edit.applyAll es p).slots[i]? = some slot := by
  induction es generalizing p with
  | nil => exact hslot
  | cons e es ih =>
    refine ih (fun e he => hes e (List.mem_cons_of_mem _ he)) ?_
    exact slots_apply_of_isKeptBy (hes e List.mem_cons_self) hslot

end Page

/-- A render of another number does nothing to a slot. -/
theorem Render.Acts.keeps {r : Render} {w w' : World} (h : r.Acts w w') {i : Nat} {slot : Slot}
    (hne : r.id ≠ slot.node.id) (hslot : w.page.slots[i]? = some slot) :
    w'.page.slots[i]? = some slot := by
  cases h with
  | nothing => exact hslot
  | notes =>
    have he : slot.IsKeptBy (.capture r.id) := Slot.isKeptBy_of_id_ne (e := .capture r.id) hne
    exact Page.slots_apply_of_isKeptBy he hslot
  | asks engines n => exact hslot
  | puts block theme =>
    have he : slot.IsKeptBy (.replace r.id block) :=
      Slot.isKeptBy_of_id_ne (e := .replace r.id block) hne
    exact Page.slots_apply_of_isKeptBy he hslot

/-- A cycle that keeps to what it found does nothing to the slots of other blocks. -/
theorem Cycle.KeepsToFound.keeps {c : Cycle} (h : c.KeepsToFound) {s : Setting} {part : Nat}
    {w : World} {i : Nat} {slot : Slot} (hne : ∀ ids, c.found? = some ids → slot.node.id ∉ ids)
    (hslot : w.page.slots[i]? = some slot) :
    (c.step s part w).1.page.slots[i]? = some slot := by
  rcases c.page_step_cases s part w with ⟨es, hpage, hes⟩ | ⟨r, hr, hworld⟩
  · rw [hpage]
    refine Page.slots_applyAll_of_isKeptBy (fun e he => ?_) hslot
    obtain ⟨ids, hids, id, hid, hmark⟩ := hes e he
    refine Slot.isKeptBy_of_id_ne fun heq => hne ids hids ?_
    rcases hmark with rfl | rfl <;> exact heq ▸ hid
  · rw [hworld]
    refine (r.acts s w).keeps (fun heq => ?_) hslot
    obtain ⟨ids, hids, hid⟩ := h r.id (mem_ids_of_mem_renders hr)
    exact hne ids hids (heq ▸ hid)

/-! ## Blocks that cycles pass over -/

/-- A block has a class that excludes it, or has classes and none of them says a language. -/
def Config.PassesOver (c : Config) (n : Node) : Prop :=
  (∃ marker ∈ c.exclusionMarkers, n.hasClass marker = true) ∨
    (n.classes ≠ [] ∧ ∀ x ∈ n.classes, ¬"language-".toList <+: x)

/-- It is no candidate, whatever marks were put on it. -/
theorem Config.PassesOver.not_isCandidate {c : Config} {n n' : Node} (h : c.PassesOver n)
    (hclean : n.hasClass Page.loadingClass = false)
    (hclasses : Page.lastingClasses n'.classes = Page.lastingClasses n.classes) :
    c.isCandidate n' = false := by
  rw [Node.lastingClasses_of_unmarked hclean] at hclasses
  refine Bool.eq_false_iff.2 fun hcandidate => ?_
  obtain ⟨-, hkind, hmarkers⟩ := isCandidate_iff.1 hcandidate
  have hmem : ∀ x ∈ n.classes, x ∈ n'.classes := fun x hx =>
    (List.mem_filter.1 (hclasses ▸ hx : x ∈ Page.lastingClasses n'.classes)).1
  rcases h with ⟨marker, hmarker, hhas⟩ | ⟨hne, hnone⟩
  · have hhas' : n'.hasClass marker = true := by
      simp only [Node.hasClass, List.contains_iff_mem] at hhas ⊢
      exact hmem marker hhas
    rw [hmarkers marker hmarker] at hhas'
    cases hhas'
  · have htag : n'.tag? = none := by
      rw [Node.tag?, ← Language.tagOfClasses?_lastingClasses, hclasses, Language.tagOfClasses?,
        List.findSome?_eq_none_iff]
      intro x hx
      refine Option.eq_none_iff_forall_ne_some.2 fun tag htag => hnone x hx ?_
      exact ⟨tag, (Text.dropPrefix?_eq_some.1 htag).symm⟩
    rcases hkind with hsome | hnil
    · rw [htag] at hsome
      cases hsome
    · obtain ⟨x, hx⟩ := List.exists_mem_of_ne_nil _ hne
      have hx' := hmem x hx
      rw [hnil] at hx'
      cases hx'

/-- In no page of a session is it a candidate, rendered or put back or as it was. -/
theorem Page.Faithful.not_mem_candidates {s : Setting} {first p : Page}
    (h : Page.Faithful s first p) (hp : p.IsNumbered) {i : Nat} {a slot : Slot}
    (hfirst : first.slots[i]? = some a) (hpasses : s.config.PassesOver a.node)
    (hclean : a.node.hasClass loadingClass = false) (hslot : p.slots[i]? = some slot) :
    slot.node.id ∉ s.config.candidates p := by
  rw [Setting.mem_candidates_iff hp (node_mem_blocks hslot)]
  intro hcandidate
  obtain ⟨t, ht⟩ := Node.exists_source (Config.isCandidate_iff.1 hcandidate).1
  obtain ⟨b, hb, hfaithful⟩ := forall₂_getElem? h hslot
  cases hb.symm.trans hfirst
  rw [hpasses.not_isCandidate hclean (hfaithful.pristine t ht).2] at hcandidate
  cases hcandidate

/-! ### A slot that cycles leave alone -/

/-- What cycles found was given out before, and is not in the slot at an index. -/
def Pact.aloof (s : Setting) (first : Page) (i : Nat) : Pact s :=
  (Pact.faithful s first).withCycle fun w c => c.KeepsToFound ∧
    ∀ ids, c.found? = some ids → ∀ id ∈ ids, id ≤ w.page.allocated ∧
      ∀ slot, w.page.slots[i]? = some slot → slot.node.id ≠ id

theorem Pact.kept_aloof {s : Setting} {first : Page} {i : Nat} {a : Slot}
    (hfirst : first.slots[i]? = some a) (hpasses : s.config.PassesOver a.node)
    (hclean : a.node.hasClass Page.loadingClass = false) : (Pact.aloof s first i).Kept := by
  -- a number that the slot gets later is greater than those that were found
  have later : ∀ {p p' : Page} {id : NodeId}, p.Evolves p' → id ≤ p.allocated ∧
      (∀ slot, p.slots[i]? = some slot → slot.node.id ≠ id) → id ≤ p'.allocated ∧
        ∀ slot, p'.slots[i]? = some slot → slot.node.id ≠ id := by
    rintro p p' id hevolves ⟨hgiven, hne⟩
    refine ⟨Nat.le_trans hgiven hevolves.allocated_le, fun slot' hslot' => ?_⟩
    obtain ⟨slot, hslot, hslots⟩ := forall₂_getElem? hevolves.slots hslot'
    rcases hslots.identity with ⟨hsame, -⟩ | hnew
    · rw [hsame]
      exact hne slot hslot
    · exact Nat.ne_of_gt (Nat.lt_of_le_of_lt hgiven hnew)
  refine (Pact.kept_faithful s first).withCycle ?_ ?_ ?_
  · rintro w w' c hevolves ⟨hkeeps, hfound⟩
    exact ⟨hkeeps, fun ids hids id hid => later hevolves (hfound ids hids id hid)⟩
  · intro w
    exact ⟨Cycle.keepsToFound_start, fun ids hids => nomatch hids⟩
  · rintro w c part hw - ⟨hkeeps, hfound⟩
    refine ⟨hkeeps.step s part w, fun ids hids id hid => later (c.edited_step s part w).evolves ?_⟩
    rcases Cycle.found?_step s part w c hids with hold | ⟨-, rfl⟩
    · exact hfound ids hold id hid
    · refine ⟨Setting.le_allocated_of_mem_candidates hw.numbered hid, fun slot hslot heq => ?_⟩
      exact hw.page.not_mem_candidates hw.numbered hfirst hpasses hclean hslot (heq ▸ hid)

/-- A slot is what it was at first: no cycle has found its block, and no render was called
for it. -/
def Pact.apart (s : Setting) (i : Nat) (a : Slot) : Pact s where
  inv w := w.page.IsNumbered ∧ w.page.slots[i]? = some a
  rely _ _ := True
  render _ r := r.id ≠ a.node.id
  cycle _ c := c.KeepsToFound ∧ ∀ ids, c.found? = some ids → a.node.id ∉ ids

namespace Pact

variable {s : Setting} {i : Nat} {a : Slot}

theorem kept_apart (hpasses : s.config.PassesOver a.node)
    (hclean : a.node.hasClass Page.loadingClass = false) (hpristine : a.node.isRendered = false) :
    (Pact.apart s i a).Kept where
  trans _ _ := trivial
  render_mono _ hr := hr
  cycle_mono _ hc := hc
  alike {w} {w'} h hw := by
    refine ⟨⟨⟨?_, ?_⟩, ?_⟩, trivial⟩
    · rw [h.slots]
      exact hw.1.nodup
    · rw [h.slots, h.allocated]
      exact hw.1.le_allocated
    · rw [h.slots]
      exact hw.2
  start _ := ⟨Cycle.keepsToFound_start, fun ids hids => nomatch hids⟩
  render_step {w} {r} hw hr := by
    refine ⟨⟨⟨(r.acts s w).edited.isNumbered hw.1, (r.acts s w).keeps hr hw.2⟩, trivial⟩, ?_⟩
    show (r.step s w).2.id ≠ a.node.id
    rw [(r.id_theme_step s w).1]
    exact hr
  cycle_step {w} {c} part hw hc := by
    obtain ⟨hkeeps, hfound⟩ := hc
    refine ⟨⟨⟨(c.edited_step s part w).isNumbered hw.1, hkeeps.keeps hfound hw.2⟩, trivial⟩,
      hkeeps.step s part w, fun ids hids => ?_⟩
    rcases Cycle.found?_step s part w c hids with hold | ⟨-, rfl⟩
    · exact hfound ids hold
    · rw [Setting.mem_candidates_iff hw.1 (Page.node_mem_blocks hw.2),
        hpasses.not_isCandidate hclean rfl]
      exact Bool.false_ne_true
  copying_step {w} c hw := by
    refine ⟨⟨(c.edited_step s w).isNumbered hw.1, ?_⟩, trivial⟩
    rcases c.page_step s w with hp | ⟨state, hp⟩
    · rw [hp]
      exact hw.2
    · rw [hp]
      exact Page.slots_apply_of_isKeptBy
        (Slot.isKeptBy_of_pristine hpristine (.inr ⟨_, _, rfl⟩)) hw.2
  restored {w} hw := by
    refine ⟨⟨w.edited_restored.isNumbered hw.1, ?_⟩, trivial⟩
    rw [w.page_restored]
    refine Page.slots_applyAll_of_isKeptBy (fun e he => ?_) hw.2
    obtain ⟨id, -, rfl⟩ := List.mem_map.1 he
    exact Slot.isKeptBy_of_pristine hpristine (.inl ⟨id, rfl⟩)
  arrived hw := ⟨hw, trivial⟩

theorem keptWhenGivenUp_apart : (Pact.apart s i a).KeptWhenGivenUp where
  render {w} {r} hw _ := by
    have hpage := r.page_giveUp s w
    refine ⟨?_, trivial⟩
    show (r.giveUp s w).page.IsNumbered ∧ (r.giveUp s w).page.slots[i]? = some a
    rwa [hpage]
  cycle {w} {c} hw _ := by
    have hpage := c.page_giveUp s w
    refine ⟨?_, trivial⟩
    show (c.giveUp s w).page.IsNumbered ∧ (c.giveUp s w).page.slots[i]? = some a
    rwa [hpage]

theorem keptWhenPutBack_apart (hpristine : a.node.isRendered = false) :
    (Pact.apart s i a).KeptWhenPutBack := by
  intro id w hw
  have hedited : w.page.Edited (w.write (·.restore id)).2.page := .apply (.restore id) w.page
  refine ⟨⟨hedited.isNumbered hw.1, ?_⟩, trivial⟩
  exact Page.slots_apply_of_isKeptBy (e := .restore id)
    (Slot.isKeptBy_of_pristine hpristine (.inl ⟨id, rfl⟩)) hw.2

end Pact

/-! ## Languages that are not allowed -/

/-- A render that goes on after its first step has a block whose language is allowed. -/
def Render.IsAllowed (c : Config) (r : Render) : Prop :=
  match r.stage with
  | .asking o | .waiting o _ | .answered o _ => c.allows o.language = true
  | .start | .done _ => True

theorem Render.IsAllowed.step {s : Setting} {r : Render} (h : r.IsAllowed s.config) (w : World) :
    (r.step s w).2.IsAllowed s.config := by
  obtain ⟨id, theme, stage⟩ := r
  have request : ∀ {o : SourceBlock} (q : Request), s.config.allows o.language = true →
      IsAllowed s.config ⟨id, theme, afterRequest o q⟩ := by
    intro o q ho
    cases q <;> exact ho
  cases stage with
  | start =>
    simp only [Render.step]
    split
    · trivial
    · split
      · next hallowed => exact hallowed
      · trivial
  | asking o => exact request _ h
  | waiting o q => exact request _ h
  | answered o handle =>
    cases handle with
    | none => trivial
    | some engine =>
      simp only [Render.step]
      split
      · trivial
      · split <;> trivial
  | done o => trivial

/-- The renders of a cycle after a step are new ones, or were there, or took the step. -/
theorem Cycle.renders_step {s : Setting} {part : Nat} {w : World} {c : Cycle} {r : Render}
    (h : r ∈ (c.step s part w).2.renders) :
    (∃ id theme, r = .of id theme) ∨ r ∈ c.renders ∨ ∃ r₀ ∈ c.renders, r = (r₀.step s w).2 := by
  have next : ∀ b : Batches, r ∈ b.next.renders → ∃ id theme, r = .of id theme := by
    intro b hr
    obtain ⟨ids, rest, -, -, he⟩ := renders_next b hr
    exact ⟨_, _, he⟩
  cases c with
  | start =>
    simp only [step] at h
    split at h <;> cases h
  | survey =>
    simp only [step] at h
    split at h <;> cases h
  | mark theme ids => exact .inl (next _ h)
  | batch b =>
    simp only [step] at h
    split at h
    · exact .inl (next b h)
    · split at h
      · exact .inr (.inl h)
      · next r₀ hr₀ =>
        rcases List.mem_or_eq_of_mem_set h with hold | rfl
        · exact .inr (.inl hold)
        · exact .inr (.inr ⟨r₀, List.mem_of_getElem? hr₀, rfl⟩)
  | unmark ids tally => cases h
  | release n tally => cases h
  | done report => cases h

/-- Every render of a session is one of these, whoever called it. -/
def Pact.ofRenders (s : Setting) (P : Render → Prop) : Pact s where
  inv _ := True
  rely _ _ := True
  render _ r := P r
  cycle _ c := ∀ r ∈ c.renders, P r

namespace Pact

variable {s : Setting} {P : Render → Prop}

theorem kept_ofRenders (of : ∀ id theme, P (.of id theme))
    (step : ∀ {r : Render} (w : World), P r → P (r.step s w).2) : (Pact.ofRenders s P).Kept where
  trans _ _ := trivial
  render_mono _ hr := hr
  cycle_mono _ hc := hc
  alike _ _ := ⟨trivial, trivial⟩
  start _ r hr := by cases hr
  render_step {w} _ _ hr := ⟨⟨trivial, trivial⟩, step w hr⟩
  cycle_step {w} c part _ hc := by
    refine ⟨⟨trivial, trivial⟩, fun r hr => ?_⟩
    rcases Cycle.renders_step hr with ⟨id, theme, rfl⟩ | hold | ⟨r₀, hr₀, rfl⟩
    · exact of id theme
    · exact hc r hold
    · exact step w (hc r₀ hr₀)
  copying_step _ _ := ⟨trivial, trivial⟩
  restored _ := ⟨trivial, trivial⟩
  arrived _ := ⟨trivial, trivial⟩

theorem admits_ofRenders (of : ∀ id theme, P (.of id theme)) (e : Event) :
    (Pact.ofRenders s P).Admits e := by
  cases e with
  | call c =>
    cases c with
    | render id theme => exact fun _ _ => of id theme
    | _ => trivial
  | giveUp task => exact ⟨fun _ _ => ⟨trivial, trivial⟩, fun _ _ => ⟨trivial, trivial⟩⟩
  | _ => trivial

/-- Whoever called a render, it is one of these. -/
theorem OfSession.of_rendering {S : Session} (h : (Pact.ofRenders s P).OfSession S) {t : Task}
    (ht : t ∈ S.tasks) {r : Render} (hr : t.activity.IsRendering r) : P r := by
  obtain ⟨hrender, hcycles⟩ := h.tasks t ht
  rcases hr with his | ⟨c, hc, hmem⟩
  · exact hrender r his
  · exact hcycles c hc r hmem

end Pact

namespace Session

variable {s : Setting} {first p : Page} {i : Nat} {a : Slot}

theorem allowed_undergoAll (hs : List Happening) :
    (Pact.ofRenders s (·.IsAllowed s.config)).OfSession ((start s p).undergoAll hs) := by
  have hof : ∀ id theme, Render.IsAllowed s.config (.of id theme) := fun _ _ => trivial
  have hstart : (Pact.ofRenders s (·.IsAllowed s.config)).OfSession (start s p) :=
    ⟨rfl, trivial, fun t ht => by cases ht⟩
  exact (Pact.kept_ofRenders hof fun w h => h.step w).undergoAll (fun _ _ _ => ⟨trivial, trivial⟩)
    hstart fun e _ => Pact.admits_ofRenders hof e

/-- What a render knows of its block. -/
theorem IsSound.knows {S : Session} (hS : S.IsSound s first) {t : Task} (ht : t ∈ S.tasks)
    {r : Render} (hr : t.activity.IsRendering r) : r.Knows s S.page := by
  obtain ⟨hrender, hcycles⟩ := hS.faithful.tasks t ht
  rcases hr with his | ⟨c, hc, hmem⟩
  · exact hrender r his
  · exact hcycles c hc r hmem

/-- A block whose language is not allowed stays pristine and keeps its number. -/
theorem pristine_of_not_allowed (hp : p.IsFresh) (hfirst : p.slots[i]? = some a) {t : Text}
    (ht : a.node.content = .source t)
    (hlanguage : s.config.allows (Page.sourceBlockOf a.node.classes t).language = false)
    (hs : List Happening) :
    ∃ slot, ((start s p).undergoAll hs).page.slots[i]? = some slot ∧
      slot.node.id = a.node.id ∧ slot.node.isRendered = false := by
  induction hs using List.reverseRecOn with
  | nil => exact ⟨a, hfirst, rfl, by simp [Node.isRendered, Node.rendered?, ht]⟩
  | append_singleton hs h ih =>
    obtain ⟨slot, hslot, hid, hpristine⟩ := ih
    have hsound := (isSound_start (s := s) hp).undergoAll hs
    have hallowed := allowed_undergoAll (s := s) (p := p) hs
    rw [undergoAll_snoc]
    generalize (start s p).undergoAll hs = S at hslot hsound hallowed ⊢
    have hevolves := (hsound.evolves_undergo h).slots
    obtain ⟨hi, -⟩ := List.getElem?_eq_some_iff.1 hslot
    have hslot' := List.getElem?_eq_getElem (hevolves.length_eq ▸ hi)
    refine ⟨_, hslot', ?_⟩
    cases turns_undergo hsound.numbered h hslot hslot' with
    | stays stays => exact ⟨stays.1.trans hid, stays.2.trans hpristine⟩
    | restores puts o noted rendered node =>
      rw [hpristine] at rendered
      cases rendered
    | renders b r its succeeds o block willPut node =>
      -- it renders what was noted of the block, whose language would be allowed
      exfalso
      obtain ⟨task, part, -, htask⟩ := succeeds.turn
      have hmem := List.mem_of_getElem? htask
      have hknows := hsound.knows hmem succeeds.rendering
      have hallows := hallowed.of_rendering hmem succeeds.rendering
      obtain ⟨engine, hstage, -⟩ := willPut
      simp only [Render.Knows, hstage] at hknows
      simp only [Render.IsAllowed, hstage] at hallows
      obtain ⟨b, hb, hfaithful⟩ := forall₂_getElem? hsound.faithful.inv.page hslot
      cases hb.symm.trans hfirst
      obtain ⟨t', ht', rfl⟩ := hfaithful.captured o
        (hknows.1.2 slot (List.mem_of_getElem? hslot) its.symm)
      cases ht.symm.trans ht'
      rw [hlanguage] at hallows
      cases hallows

/-- A step of a cycle leaves the slot of a block that cycles pass over as it is. -/
theorem slots_proceed_of_passesOver {S : Session} (hS : (Pact.aloof s first i).OfSession S)
    {task part : Nat} {c : Cycle} (hcall : S.CallAt task part c) {slot : Slot}
    (hslot : S.page.slots[i]? = some slot) :
    (S.proceed task part).page.slots[i]? = some slot := by
  rcases S.proceed_cases task part with he | ⟨t, ht, -, he⟩
  · rw [he]
    exact hslot
  · obtain ⟨t', ht', -, -, hcall⟩ := hcall
    cases ht.symm.trans ht'
    obtain ⟨k, hworld, hreplaced, -⟩ := Activity.step_of_callAt S.setting S.world hcall
    obtain ⟨-, hkeeps, hfound⟩ := (hS.tasks t (List.mem_of_getElem? ht)).2 c hreplaced.mem_before
    have hpage : (S.proceed task part).page = (c.step S.setting k S.world).1.page :=
      (congrArg Session.page he).trans hworld.page
    rw [hpage]
    exact hkeeps.keeps (fun ids hids hid => (hfound ids hids _ hid).2 slot hslot rfl) hslot

theorem aloof_undergoAll (hp : p.IsFresh) (hfirst : p.slots[i]? = some a)
    (hpasses : s.config.PassesOver a.node) (hclean : a.node.hasClass Page.loadingClass = false)
    (hs : List Happening) : (Pact.aloof s p i).OfSession ((start s p).undergoAll hs) := by
  have hstart : (Pact.aloof s p i).OfSession (start s p) :=
    ⟨rfl, (ofSession_start hp).inv, fun t ht => by cases ht⟩
  exact (Pact.kept_aloof hfirst hpasses hclean).undergoAll (Pact.keptWhenPutBack_faithful s p)
    hstart fun e _ => (admits_faithful s p e).withCycle _

/-- The slot of a block that cycles pass over is what it was, if no render was called for
it. -/
theorem slots_of_passesOver (hp : p.IsFresh) (hfirst : p.slots[i]? = some a)
    (hpasses : s.config.PassesOver a.node) (hclean : a.node.hasClass Page.loadingClass = false)
    {hs : List Happening} (hnone : ∀ theme, .event (.call (.render a.node.id theme)) ∉ hs) :
    ((start s p).undergoAll hs).page.slots[i]? = some a := by
  have hpristine : a.node.isRendered = false := by
    obtain ⟨t, ht⟩ := hp.pristine a (List.mem_of_getElem? hfirst)
    simp [Node.isRendered, Node.rendered?, ht]
  have hstart : (Pact.apart s i a).OfSession (start s p) :=
    ⟨rfl, ⟨hp.numbered, hfirst⟩, fun t ht => by cases ht⟩
  refine ((Pact.kept_apart hpasses hclean hpristine).undergoAll
    (Pact.keptWhenPutBack_apart hpristine) hstart fun e he => ?_).inv.2
  cases e with
  | call c =>
    cases c with
    | render id theme =>
      rintro w - rfl
      exact hnone theme he
    | _ => trivial
  | giveUp task => exact Pact.keptWhenGivenUp_apart
  | _ => trivial

/-- Blocks that are not to be rendered never are.  In every session with a fresh page
without marks, after every history of cycles, renders, reactions, copies and of blocks put
back: a block whose language is neither plain text nor allowed has the number and the source
that it had at first, and as long as no cycle at work was given up, its classes, too,
whenever no cycle is at work.  And a block that has a class that excludes it, or classes
none of which says a language, is left alone by every step of every cycle: nothing is noted
of it, no mark is put on it, it is not replaced; and if no render was called for it, its
slot is what it was at first. -/
theorem never_rendered (hp : p.IsFresh)
    (hclean : ∀ n ∈ p.blocks, n.hasClass Page.loadingClass = false)
    (hfirst : p.slots[i]? = some a) (hs : List Happening) :
    let S := (start s p).undergoAll hs
    (∀ t, a.node.content = .source t →
      s.config.allows (Page.sourceBlockOf a.node.classes t).language = false →
      ∃ slot, S.page.slots[i]? = some slot ∧ slot.node.id = a.node.id ∧
        slot.node.content = .source t ∧
        ((start s p).KeepsCycles hs → S.world.running = false →
          slot.node.classes = a.node.classes)) ∧
    (s.config.PassesOver a.node →
      (∀ task part c, S.CallAt task part c →
        (S.proceed task part).page.slots[i]? = S.page.slots[i]?) ∧
      ((∀ theme, .event (.call (.render a.node.id theme)) ∉ hs) →
        S.page.slots[i]? = some a)) := by
  intro S
  have hstart : (start s p).IsSound s p := isSound_start hp
  have hsound : S.IsSound s p := hstart.undergoAll hs
  have hunmarked : a.node.hasClass Page.loadingClass = false :=
    hclean a.node (Page.node_mem_blocks hfirst)
  refine ⟨fun t ht hlanguage => ?_, fun hpasses => ⟨fun task part c hcall => ?_, fun hnone => ?_⟩⟩
  · obtain ⟨slot, hslot, hid, hpristine⟩ := pristine_of_not_allowed hp hfirst ht hlanguage hs
    have hpristine' : a.node.isRendered = false := by
      simp [Node.isRendered, Node.rendered?, ht]
    obtain ⟨hcontent, -⟩ := hstart.pristine hsound hfirst hslot hpristine' hpristine
    refine ⟨slot, hslot, hid, hcontent.trans ht, fun hkeeps hr => ?_⟩
    have hmarked : S.Marked := (marked_start hp hclean).undergoAll hstart hkeeps
    have hunmarked' : slot.node.hasClass Page.loadingClass = false :=
      hmarked.unmarked (fun c hc => hsound.single.marked_eq_nil (.inr hr) hc)
        (Page.node_mem_blocks hslot)
    rw [hstart.alike hsound hfirst hslot hpristine' hpristine hunmarked hunmarked']
  · have haloof := aloof_undergoAll hp hfirst hpasses hunmarked hs
    have hlt : i < S.page.slots.length :=
      hsound.faithful.inv.page.length_eq ▸ (List.getElem?_eq_some_iff.1 hfirst).1
    have hslot := List.getElem?_eq_getElem hlt
    exact (slots_proceed_of_passesOver haloof hcall hslot).trans hslot.symm
  · exact slots_of_passesOver hp hfirst hpasses hunmarked hnone

/-- A block of Python, where only Rust is allowed, and an excluded one of Rust: a cycle runs
to its end, a render is called for the first one, and all are put back; and a cycle is about
to mark its candidates. -/
theorem never_rendered_twoBlocks :
    let p := ((Page.empty.addBlock ["language-python".toList] "x = 1".toList).2.addBlock
      ["language-rust".toList, "nohighlight".toList] "let x = 1;".toList).2
    let s := Setting.forRust .plain
    let cycle : List Happening := .event (.call .cycle) :: List.replicate 2 (.event (.proceed 0 0))
    let hs : List Happening := cycle ++ List.replicate 8 (.event (.proceed 0 0)) ++
      [.event (.call (.render 1 "gruvbox-dark".toList)), .event (.proceed 1 0),
        .event .restoreAll, .restore 1]
    p.IsFresh ∧ (start s p).KeepsCycles hs ∧ ((start s p).undergoAll hs).world.running = false ∧
    s.config.allows (Page.sourceBlockOf ["language-python".toList] "x = 1".toList).language =
      false ∧
    (∃ slot, ((start s p).undergoAll hs).page.slots[0]? = some slot ∧
      slot.node = ⟨1, ["language-python".toList], .source "x = 1".toList⟩) ∧
    ((start s p).undergoAll hs).page.slots[1]? = p.slots[1]? ∧
    (∃ c, ((start s p).undergoAll cycle).CallAt 0 0 c) ∧
    (((start s p).undergoAll cycle).proceed 0 0).page.slots[1]? =
      ((start s p).undergoAll cycle).page.slots[1]? := by
  intro p s cycle hs
  have hfresh : p.IsFresh := (Page.isFresh_empty.pushBlock _ _ _ _).pushBlock _ _ _ _
  have hclean : ∀ n ∈ p.blocks, n.hasClass Page.loadingClass = false := by decide +kernel
  have hkeeps : (start s p).KeepsCycles hs :=
    keepsCycles_of_ne fun task => by simp [hs, cycle]
  have hrunning : ((start s p).undergoAll hs).world.running = false := by decide +kernel
  have hlanguage : s.config.allows
      (Page.sourceBlockOf ["language-python".toList] "x = 1".toList).language = false := by
    decide +kernel
  have hexcluded : p.slots[1]? = some ⟨⟨2, ["language-rust".toList, "nohighlight".toList],
      .source "let x = 1;".toList⟩, none, "<pre>".toList, []⟩ := by decide +kernel
  have hpasses : s.config.PassesOver
      ⟨2, ["language-rust".toList, "nohighlight".toList], .source "let x = 1;".toList⟩ :=
    .inl ⟨"nohighlight".toList, by decide +kernel, by decide +kernel⟩
  have hpython : p.slots[0]? = some ⟨⟨1, ["language-python".toList], .source "x = 1".toList⟩,
      none, "<pre>".toList, []⟩ := by decide +kernel
  obtain ⟨slot, hslot, hid, hcontent, hclasses⟩ :=
    (never_rendered hfresh hclean hpython hs).1 "x = 1".toList rfl hlanguage
  have hcall : ∃ c, ((start s p).undergoAll cycle).CallAt 0 0 c := by
    have htask : (((start s p).undergoAll cycle).tasks[0]?).map (fun t =>
        (t.givenUp, decide (0 < t.activity.parts.length), (t.activity.callAt 0).isSome)) =
        some (false, true, true) := by decide +kernel
    obtain ⟨t, ht, hparts⟩ := Option.map_eq_some_iff.1 htask
    simp only [Prod.mk.injEq, decide_eq_true_eq, Option.isSome_iff_exists] at hparts
    obtain ⟨hlive, hlt, c, hc⟩ := hparts
    exact ⟨c, t, ht, hlive, hlt, hc⟩
  refine ⟨hfresh, hkeeps, hrunning, hlanguage, ⟨slot, hslot, ?_⟩, ?_, hcall, ?_⟩
  · calc slot.node = ⟨slot.node.id, slot.node.classes, slot.node.content⟩ := rfl
      _ = ⟨1, ["language-python".toList], .source "x = 1".toList⟩ := by
        rw [hid, hcontent, hclasses hkeeps hrunning]
  · have hslots := ((never_rendered hfresh hclean hexcluded hs).2 hpasses).2
      fun theme => by simp [hs, cycle]
    exact hslots.trans hexcluded.symm
  · obtain ⟨c, hc⟩ := hcall
    exact ((never_rendered hfresh hclean hexcluded cycle).2 hpasses).1 0 0 c hc

end Session

end PageHighlight
