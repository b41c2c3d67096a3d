/-
  Proofs/Session/Pact.lean --- what the activities of a session can rely on.

  WHAT THIS FILE IS FOR.  A render or a cycle knows something about the world when
  it has taken a step, and others take theirs before its next one.  A `Pact` says
  what always holds, how steps may change the world, and what a render and a cycle
  know meanwhile.  It is enough to look at a single step of a single render or cycle
  (`Pact.Kept`): then the pact holds after every history (`Kept.after`), whatever
  the activities are and in whatever order they take their steps.
-/
import PageHighlight.Proofs.Page.Observers
import PageHighlight.Proofs.Session.History
import PageHighlight.Proofs.Session.Step

set_option autoImplicit false

namespace PageHighlight

/-! ## Worlds that are alike to renders and cycles -/

/-- The blocks, the engines, and whether a cycle is running, are the same. -/
structure World.Alike (w w' : World) : Prop where
  slots : w'.page.slots = w.page.slots
  segments : w'.page.segments = w.page.segments
  allocated : w'.page.allocated = w.page.allocated
  running : w'.running = w.running
  engines : w'.engines = w.engines

namespace World

theorem Alike.refl (w : World) : Alike w w := ⟨rfl, rfl, rfl, rfl, rfl⟩

theorem Ticketed.alike {w w' : World} (h : w.Ticketed w') : w.Alike w' := by
  obtain ⟨n, rfl⟩ := h
  exact ⟨rfl, rfl, rfl, rfl, rfl⟩

/-- A change of the theme of the page is no change of its blocks. -/
theorem alike_of_page {w w' : World} {root : RootElement} {dark : Bool}
    (page : w'.page = { w.page with root := root, prefersDark := dark })
    (running : w'.running = w.running) (engines : w'.engines = w.engines) : w.Alike w' := by
  refine ⟨?_, ?_, ?_, running, engines⟩ <;> rw [page]

theorem alike_changeRoot (change : RootElement → RootElement × Bool) (w : World) :
    w.Alike { w with shared := (w.shared.changeRoot change).2 } :=
  alike_of_page (SharedPage.page_changeRoot change w.shared) rfl rfl

theorem alike_setPrefersDark (dark : Bool) (w : World) :
    w.Alike { w with shared := (w.shared.setPrefersDark dark).2 } :=
  alike_of_page (SharedPage.page_setPrefersDark dark w.shared) rfl rfl

theorem alike_setReady (state : ReadyState) (w : World) :
    w.Alike { w with shared := w.shared.setReady state } :=
  alike_of_page (SharedPage.page_setReady state w.shared) rfl rfl

/-- What is begun changes nothing that renders and cycles know of. -/
theorem alike_make (c : Call) (w : World) : w.Alike (c.make w).2 := by
  cases c <;> exact ⟨rfl, rfl, rfl, rfl, rfl⟩

/-- The engine that is being built is there. -/
def arrived (s : Setting) (w : World) : World := { w with engines := w.engines.arrive s.key }

end World

/-! ## Pacts -/

/-- What the renders and cycles of a session can rely on. -/
structure Pact (s : Setting) where
  /-- What always holds. -/
  inv : World → Prop
  /-- How steps may change the world. -/
  rely : World → World → Prop
  /-- What a render under way knows. -/
  render : World → Render → Prop
  /-- What a cycle under way knows. -/
  cycle : World → Cycle → Prop

namespace Pact

variable {s : Setting}

/-- A change of the world that is within a pact. -/
def Allows (k : Pact s) (w w' : World) : Prop := k.inv w' ∧ k.rely w w'

/-- A pact that every step keeps. -/
structure Kept (k : Pact s) : Prop where
  trans : ∀ {w w' w'' : World}, k.rely w w' → k.rely w' w'' → k.rely w w''
  render_mono : ∀ {w w' : World} {r : Render}, k.rely w w' → k.render w r → k.render w' r
  cycle_mono : ∀ {w w' : World} {c : Cycle}, k.rely w w' → k.cycle w c → k.cycle w' c
  alike : ∀ {w w' : World}, w.Alike w' → k.inv w → k.Allows w w'
  start : ∀ {w : World}, k.inv w → k.cycle w .start
  render_step : ∀ {w : World} {r : Render}, k.inv w → k.render w r →
    k.Allows w (r.step s w).1 ∧ k.render (r.step s w).1 (r.step s w).2
  cycle_step : ∀ {w : World} {c : Cycle} (part : Nat), k.inv w → k.cycle w c →
    k.Allows w (c.step s part w).1 ∧ k.cycle (c.step s part w).1 (c.step s part w).2
  copying_step : ∀ {w : World} (c : Copying), k.inv w → k.Allows w (c.step s w).1
  restored : ∀ {w : World}, k.inv w → k.Allows w w.restored
  arrived : ∀ {w : World}, k.inv w → k.Allows w (w.arrived s)

/-- A pact that giving up a render or a cycle keeps too. -/
structure KeptWhenGivenUp (k : Pact s) : Prop where
  render : ∀ {w : World} {r : Render}, k.inv w → k.render w r → k.Allows w (r.giveUp s w)
  cycle : ∀ {w : World} {c : Cycle}, k.inv w → k.cycle w c → k.Allows w (c.giveUp s w)

/-- What the renders and cycles of an activity know. -/
def OfActivity (k : Pact s) (w : World) (a : Activity) : Prop :=
  (∀ r, a.render? = some r → k.render w r) ∧ ∀ c ∈ a.cycles, k.cycle w c

theorem ofActivity_nil (k : Pact s) {w : World} {a : Activity} (hr : a.render? = none)
    (hc : a.cycles = []) : k.OfActivity w a := by
  refine ⟨?_, ?_⟩
  · intro r he
    rw [hr] at he
    cases he
  · intro c hm
    rw [hc] at hm
    cases hm

theorem ofActivity_render (k : Pact s) {w : World} {r : Render} (hr : k.render w r) :
    k.OfActivity w (.render r) := by
  refine ⟨?_, ?_⟩
  · intro r' he
    cases he
    exact hr
  · intro c hm
    cases hm

theorem ofActivity_cycle (k : Pact s) {w : World} {c : Cycle} (hc : k.cycle w c) :
    k.OfActivity w (.cycle c) := by
  refine ⟨?_, ?_⟩
  · intro r he
    cases he
  · intro c' hm
    rw [List.mem_singleton.1 hm]
    exact hc

/-- A session within a pact. -/
structure OfSession (k : Pact s) (S : Session) : Prop where
  setting : S.setting = s
  inv : k.inv S.world
  tasks : ∀ t ∈ S.tasks, k.OfActivity S.world t.activity

/-- Whether an event is one that a pact provides for: a render may only be begun if
it knows what the pact says from the start, and giving up must be provided for. -/
def Admits (k : Pact s) : Event → Prop
  | .call (.render id theme) => ∀ w, k.inv w → k.render w (Render.of id theme)
  | .giveUp _ => k.KeptWhenGivenUp
  | _ => True

namespace Kept

variable {k : Pact s}

theorem refl (hk : k.Kept) {w : World} (h : k.inv w) : k.Allows w w := hk.alike (.refl w) h

theorem allows_trans (hk : k.Kept) {w w' w'' : World} (h : k.Allows w w')
    (h' : k.Allows w' w'') : k.Allows w w'' :=
  ⟨h'.1, hk.trans h.2 h'.2⟩

theorem ofActivity_mono (hk : k.Kept) {w w' : World} {a : Activity} (h : k.rely w w')
    (ha : k.OfActivity w a) : k.OfActivity w' a :=
  ⟨fun r hr => hk.render_mono h (ha.1 r hr), fun c hc => hk.cycle_mono h (ha.2 c hc)⟩

theorem ofActivity_of_cycles (hk : k.Kept) {w w' : World} {a a' : Activity} (h : k.rely w w')
    (ha : k.OfActivity w a) (hr : a'.render? = none)
    (hc : ∀ c ∈ a'.cycles, c ∈ a.cycles ∨ k.cycle w' c) : k.OfActivity w' a' := by
  refine ⟨?_, ?_⟩
  · intro r he
    rw [hr] at he
    cases he
  · intro c hm
    rcases hc c hm with hold | hnew
    · exact hk.cycle_mono h (ha.2 c hold)
    · exact hnew

/-- Every step of an activity is within the pact. -/
theorem activity_step (hk : k.Kept) {w : World} {a : Activity} (part : Nat) (hw : k.inv w)
    (ha : k.OfActivity w a) :
    k.Allows w (a.step s part w).1 ∧ k.OfActivity (a.step s part w).1 (a.step s part w).2 := by
  have hstep := Activity.stepped s part w a
  generalize (a.step s part w).1 = w' at hstep ⊢
  generalize (a.step s part w).2 = a' at hstep ⊢
  cases hstep with
  | quiet world same noRender =>
    have hal := hk.alike world.alike hw
    exact ⟨hal, hk.ofActivity_of_cycles hal.2 ha noRender fun c hc => .inl (same ▸ hc)⟩
  | begins world before after old new noRender =>
    have hal := hk.alike world.alike hw
    refine ⟨hal, hk.ofActivity_of_cycles hal.2 ha noRender ?_⟩
    intro c hc
    rw [new] at hc
    rw [old]
    rcases List.mem_append.1 hc with hc | hc
    · exact .inl (List.mem_append_left _ hc)
    · rcases List.mem_cons.1 hc with rfl | hc
      · exact .inr (hk.start hal.1)
      · exact .inl (List.mem_append_right _ hc)
  | render r is =>
    subst is
    obtain ⟨hal, hr⟩ := hk.render_step hw (ha.1 r rfl)
    exact ⟨hal, k.ofActivity_render hr⟩
  | cycle c part' world replaced noRender =>
    obtain ⟨hal, hc⟩ := hk.cycle_step part' hw (ha.2 c replaced.mem_before)
    have htick := hk.alike world.alike hal.1
    have hall := hk.allows_trans hal htick
    refine ⟨hall, hk.ofActivity_of_cycles hall.2 ha noRender ?_⟩
    intro c' hc'
    rcases replaced.eq_or_mem_before hc' with rfl | hold
    · exact .inr (hk.cycle_mono htick.2 hc)
    · exact .inl hold
  | restores is world old new noRender =>
    have hal := hk.restored hw
    have hall := hk.allows_trans hal (hk.alike world.alike hal.1)
    refine ⟨hall, hk.ofActivity_of_cycles hall.2 ha noRender ?_⟩
    intro c hc
    rw [new] at hc
    cases hc
  | takes observer ticket is new noRender =>
    have hal : k.Allows w { w with shared := (w.shared.takeAll observer).2 } :=
      hk.alike ⟨rfl, rfl, rfl, rfl, rfl⟩ hw
    refine ⟨hal, hk.ofActivity_of_cycles hal.2 ha noRender ?_⟩
    intro c hc
    rw [new] at hc
    cases hc
  | copies c is => exact ⟨hk.copying_step c hw, k.ofActivity_nil rfl rfl⟩

theorem ofSession_change (hk : k.Kept) {S : Session} {w' : World} (h : k.OfSession S)
    (hal : k.Allows S.world w') :
    k.OfSession { S with world := w' } ∧ k.rely S.world w' :=
  ⟨⟨h.setting, hal.1, fun t ht => hk.ofActivity_mono hal.2 (h.tasks t ht)⟩, hal.2⟩

theorem ofSession_set (hk : k.Kept) {S : Session} {w' : World} {task : Nat} {a : Activity}
    {givenUp : Bool} (h : k.OfSession S) (hal : k.Allows S.world w')
    (ha : k.OfActivity w' a) :
    k.OfSession { S with world := w', tasks := S.tasks.set task ⟨a, givenUp⟩ } ∧
      k.rely S.world w' := by
  refine ⟨⟨h.setting, hal.1, fun u hu => ?_⟩, hal.2⟩
  rcases List.mem_or_eq_of_mem_set hu with hu | rfl
  · exact hk.ofActivity_mono hal.2 (h.tasks u hu)
  · exact ha

theorem proceed (hk : k.Kept) {S : Session} (h : k.OfSession S) (task part : Nat) :
    k.OfSession (S.proceed task part) ∧ k.rely S.world (S.proceed task part).world := by
  have hset := h.setting
  subst hset
  rcases S.proceed_cases task part with he | ⟨t, ht, -, he⟩
  · rw [he]
    exact ⟨h, (hk.refl h.inv).2⟩
  · have hmem : t ∈ S.tasks := List.mem_of_getElem? ht
    obtain ⟨hal, ha⟩ := hk.activity_step part h.inv (h.tasks t hmem)
    rw [he]
    exact hk.ofSession_set h hal ha

/-! ### Giving up -/

theorem triggers_giveUp (hk : k.Kept) (hg : k.KeptWhenGivenUp) {w : World} (hw : k.inv w)
    (ts : List Trigger) (hts : ∀ c ∈ ts.flatMap Trigger.cycles, k.cycle w c) :
    k.Allows w (ts.foldl (Trigger.giveUp s) w) := by
  induction ts generalizing w with
  | nil => exact hk.refl hw
  | cons t ts ih =>
    simp only [List.flatMap_cons, List.mem_append] at hts
    have hal : k.Allows w (t.giveUp s w) := by
      cases t with
      | cycling c => exact hg.cycle hw (hts c (.inl (List.mem_singleton_self c)))
      | _ => exact hk.refl hw
    exact hk.allows_trans hal (ih hal.1 fun c hc => hk.cycle_mono hal.2 (hts c (.inr hc)))

theorem activity_giveUp (hk : k.Kept) (hg : k.KeptWhenGivenUp) {w : World} {a : Activity}
    (hw : k.inv w) (ha : k.OfActivity w a) : k.Allows w (a.giveUp s w) := by
  have reaction : ∀ r : Reaction, (∀ c ∈ r.cycles, k.cycle w c) → k.Allows w (r.giveUp s w) := by
    intro r hr
    cases r with
    | cycling c => exact hg.cycle hw (hr c (List.mem_singleton_self c))
    | _ => exact hk.refl hw
  cases a with
  | render r => exact hg.render hw (ha.1 r rfl)
  | cycle c => exact hg.cycle hw (ha.2 c (List.mem_singleton_self c))
  | reaction r => exact reaction r ha.2
  | reactor r =>
    cases r with
    | listening i ticket => exact hk.alike ⟨rfl, rfl, rfl, rfl, rfl⟩ hw
    | reacting i r =>
      have hal := reaction r ha.2
      exact hk.allows_trans hal (hk.alike ⟨rfl, rfl, rfl, rfl, rfl⟩ hal.1)
  | triggers t =>
    cases t with
    | start => exact hk.refl hw
    | waiting ts => exact hk.triggers_giveUp hg hw ts ha.2
  | copying c => exact hk.refl hw
  | waiting wait => exact hk.refl hw
  | waited => exact hk.refl hw

/-! ### Events and histories -/

theorem ofActivity_make (hk : k.Kept) {c : Call} {w : World} (ha : k.Admits (.call c))
    (hw : k.inv w) : k.OfActivity w (c.make w).1 := by
  cases c with
  | render id theme => exact k.ofActivity_render (ha w hw)
  | cycle => exact k.ofActivity_cycle (hk.start hw)
  | _ => exact k.ofActivity_nil rfl rfl

/-- Every event that a pact provides for is within it. -/
theorem apply (hk : k.Kept) {S : Session} (h : k.OfSession S) {e : Event} (he : k.Admits e) :
    k.OfSession (S.apply e) ∧ k.rely S.world (S.apply e).world := by
  have hset := h.setting
  subst hset
  cases e with
  | call c =>
    have hal := hk.alike (World.alike_make c S.world) h.inv
    have ha := hk.ofActivity_make he h.inv
    refine ⟨⟨h.setting, hal.1, fun t ht => ?_⟩, hal.2⟩
    rcases List.mem_append.1 ht with ht | ht
    · exact hk.ofActivity_mono hal.2 (h.tasks t ht)
    · rw [List.mem_singleton.1 ht]
      exact hk.ofActivity_mono hal.2 ha
  | proceed task part => exact hk.proceed h task part
  | arrive =>
    exact hk.ofSession_change h (hk.arrived h.inv)
  | openGate =>
    have hal : k.Allows S.world { S.world with gateOpen := true } :=
      hk.alike ⟨rfl, rfl, rfl, rfl, rfl⟩ h.inv
    exact hk.ofSession_change h (hk.allows_trans hal (hk.arrived hal.1))
  | passTo now =>
    have hal : k.Allows S.world { S.world with now := max now S.world.now } :=
      hk.alike ⟨rfl, rfl, rfl, rfl, rfl⟩ h.inv
    exact hk.ofSession_change h hal
  | giveUp task =>
    simp only [Session.apply]
    rcases S.giveUp_cases task with heq | ⟨t, ht, -, heq⟩
    · rw [heq]
      exact ⟨h, (hk.refl h.inv).2⟩
    · have ha := h.tasks t (List.mem_of_getElem? ht)
      have hal := hk.activity_giveUp he h.inv ha
      rw [heq]
      exact hk.ofSession_set h hal (hk.ofActivity_mono hal.2 ha)
  | restoreAll => exact hk.ofSession_change h (hk.restored h.inv)
  | setRootClass c on =>
    have hal := hk.alike (World.alike_changeRoot (RootElement.setClass c on) S.world) h.inv
    exact hk.ofSession_change h hal
  | setRootAttr name value =>
    have hal := hk.alike (World.alike_changeRoot (RootElement.setAttr name value) S.world) h.inv
    exact hk.ofSession_change h hal
  | setPrefersDark dark =>
    have hal := hk.alike (World.alike_setPrefersDark dark S.world) h.inv
    exact hk.ofSession_change h hal
  | setReady state =>
    have hal := hk.alike (World.alike_setReady state S.world) h.inv
    exact hk.ofSession_change h hal

/-- A pact holds after every history of events that it provides for. -/
theorem after (hk : k.Kept) {S : Session} (h : k.OfSession S) (es : List Event)
    (hes : ∀ e ∈ es, k.Admits e) :
    k.OfSession (S.after es) ∧ k.rely S.world (S.after es).world := by
  induction es generalizing S with
  | nil => exact ⟨h, (hk.refl h.inv).2⟩
  | cons e es ih =>
    obtain ⟨h', hr⟩ := hk.apply h (hes e List.mem_cons_self)
    obtain ⟨h'', hr'⟩ := ih h' fun e he => hes e (List.mem_cons_of_mem _ he)
    exact ⟨h'', hk.trans hr hr'⟩

end Kept

/-! ## Pacts in which cycles know more -/

/-- The pact in which cycles know this, too. -/
def withCycle (k : Pact s) (knows : World → Cycle → Prop) : Pact s :=
  { k with cycle := fun w c => k.cycle w c ∧ knows w c }

theorem Kept.withCycle {k : Pact s} (hk : k.Kept) {knows : World → Cycle → Prop}
    (mono : ∀ {w w' : World} {c : Cycle}, k.rely w w' → knows w c → knows w' c)
    (start : ∀ w : World, knows w .start)
    (step : ∀ {w : World} {c : Cycle} (part : Nat), k.inv w → k.cycle w c → knows w c →
      knows (c.step s part w).1 (c.step s part w).2) : (k.withCycle knows).Kept where
  trans := hk.trans
  render_mono := hk.render_mono
  cycle_mono h hc := ⟨hk.cycle_mono h hc.1, mono h hc.2⟩
  alike := hk.alike
  start hw := ⟨hk.start hw, start _⟩
  render_step := hk.render_step
  cycle_step part hw hc := by
    obtain ⟨hallows, hknows⟩ := hk.cycle_step part hw hc.1
    exact ⟨hallows, hknows, step part hw hc.1 hc.2⟩
  copying_step := hk.copying_step
  restored := hk.restored
  arrived := hk.arrived

/-- It provides for the same events. -/
theorem Admits.withCycle {k : Pact s} {e : Event} (h : k.Admits e)
    (knows : World → Cycle → Prop) : (k.withCycle knows).Admits e := by
  cases e with
  | call c =>
    cases c with
    | render id theme => exact h
    | _ => trivial
  | giveUp task => exact ⟨h.render, fun hw hc => h.cycle hw hc.1⟩
  | _ => trivial

end Pact

end PageHighlight
