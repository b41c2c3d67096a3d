/-
  Proofs/Session/Watching.lean --- sessions whose first activity is a reactor.

  WHAT THIS FILE IS FOR.  A reactor learns of a change of the theme from its mailbox,
  and all it does then is decided by how far its reaction is.  Three things matter of
  a watched session: whether the reactor will put every rendered block back before
  its cycle begins (`WillRestore`), whether it has done so and its cycle has not begun
  (`IsSettling`), and the theme of the page (`theme`).  The three step lemmas at the
  end say what every event makes of them.

  EVENTS.  An event is a step of an activity, or it is received from outside
  (`apply_cases`); what is received from outside never moves a block.
-/
import PageHighlight.Proofs.Session.Pact
import PageHighlight.Proofs.Session.SingleFlight

set_option autoImplicit false

namespace PageHighlight

/-! ## Mail -/

namespace SharedPage

/-- Observers are told of a change, or there is none that they could be told of. -/
def Tells (s s' : SharedPage) : Prop :=
  (s'.mailboxes = s.mailboxes ∧ s'.page.root = s.page.root ∧
    s'.page.prefersDark = s.page.prefersDark) ∨
  ∃ e, s'.mailboxes = (s.emit e).mailboxes

theorem Tells.refl (s : SharedPage) : s.Tells s := .inl ⟨rfl, rfl, rfl⟩

/-- Observers are told of a change of the root element, if it is a real one. -/
theorem tells_changeRoot {change : RootElement → RootElement × Bool}
    (honest : RootElement.Honest change) (s : SharedPage) :
    s.Tells (s.changeRoot change).2 := by
  cases h : (change s.page.root).2 with
  | false =>
    have hsame := honest.eq_self h
    refine .inl ⟨?_, ?_, ?_⟩ <;> simp [changeRoot, write, h, hsame]
  | true => exact .inr ⟨.rootMutated, by simp [changeRoot, write, h, emit]⟩

theorem tells_setPrefersDark (dark : Bool) (s : SharedPage) :
    s.Tells (s.setPrefersDark dark).2 := by
  cases h : (s.page.prefersDark != dark) with
  | false =>
    have hsame : s.page.prefersDark = dark := by simpa using h
    refine .inl ⟨?_, ?_, ?_⟩ <;> simp [setPrefersDark, write, hsame]
  | true => exact .inr ⟨.colorSchemeChanged dark, by simp [setPrefersDark, write, h, emit]⟩

theorem tells_setReady (state : ReadyState) (s : SharedPage) : s.Tells (s.setReady state) := by
  unfold setReady
  split
  · exact .inl ⟨rfl, rfl, rfl⟩
  · exact .refl s

end SharedPage

namespace World

theorem Ticketed.mailboxes {w w' : World} (h : w.Ticketed w') :
    w'.shared.mailboxes = w.shared.mailboxes := by
  obtain ⟨n, rfl⟩ := h
  rfl

end World

theorem Render.Acts.mailboxes {r : Render} {w w' : World} (h : r.Acts w w') :
    w'.shared.mailboxes = w.shared.mailboxes := by
  cases h <;> rfl

theorem Cycle.mailboxes_step (s : Setting) (part : Nat) (w : World) (c : Cycle) :
    (c.step s part w).1.shared.mailboxes = w.shared.mailboxes := by
  have hacts := c.acts s part w
  generalize (c.step s part w).1 = w' at hacts ⊢
  cases hacts with
  | renders r mem => exact (r.acts s w).mailboxes
  | _ => rfl

theorem Copying.mailboxes_step (s : Setting) (w : World) (c : Copying) :
    (c.step s w).1.shared.mailboxes = w.shared.mailboxes := by
  unfold step
  split
  · split <;> rfl
  all_goals rfl

/-- Only a reactor that listens takes mail, and no activity sends any. -/
theorem Activity.mailboxes_step (s : Setting) (part : Nat) (w : World) {a : Activity}
    (ha : ∀ observer ticket, a ≠ .reactor (.listening observer ticket)) :
    (a.step s part w).1.shared.mailboxes = w.shared.mailboxes := by
  have hstep := stepped s part w a
  generalize (a.step s part w).1 = w' at hstep ⊢
  generalize (a.step s part w).2 = a' at hstep
  cases hstep with
  | quiet world same noRender => exact world.mailboxes
  | begins world before after old new noRender => exact world.mailboxes
  | render r is => exact (r.acts s w).mailboxes
  | cycle c part' world replaced noRender =>
    exact world.mailboxes.trans (c.mailboxes_step s part' w)
  | restores is world old new noRender => exact world.mailboxes
  | takes observer ticket is new noRender => exact absurd is (ha observer ticket)
  | copies c is => exact c.mailboxes_step s w

/-- Nobody but a reactor that is given up stops observing the page. -/
theorem Activity.mailbox_step (s : Setting) (part : Nat) (w : World) (a : Activity) {i : Nat}
    {mail : List ThemeEvent} (h : w.shared.mailboxes[i]? = some ⟨true, mail⟩) :
    ∃ mail', (a.step s part w).1.shared.mailboxes[i]? = some ⟨true, mail'⟩ := by
  by_cases ha : ∃ observer ticket, a = .reactor (.listening observer ticket)
  · obtain ⟨observer, ticket, rfl⟩ := ha
    simp only [step, Reactor.step, SharedPage.takeAll, List.getElem?_modify, h]
    split
    · exact ⟨[], rfl⟩
    · exact ⟨mail, rfl⟩
  · refine ⟨mail, ?_⟩
    rw [mailboxes_step s part w fun observer ticket he => ha ⟨observer, ticket, he⟩]
    exact h

/-! ## How far a reactor is -/

namespace Reaction

/-- Whether it puts every rendered block back before its cycle begins. -/
def restoresFirst : Reaction → Bool
  | restore | idling _ => true
  | _ => false

/-- Whether the blocks were put back and its cycle has not begun. -/
def isSettling : Reaction → Bool
  | settling _ _ | cycling .start => true
  | _ => false

end Reaction

namespace Reactor

/-- The reaction at work. -/
def reaction? : Reactor → Option Reaction
  | listening _ _ => none
  | reacting _ r => some r

/-- What a step of a reactor makes of its reaction: from now on it restores first, or
it has just restored, or it has read no mail and stops settling only to begin its
cycle. -/
theorem step_cases (s : Setting) (part : Nat) (w : World) (r : Reactor) :
    let p := r.step s part w
    p.2.reaction?.any Reaction.restoresFirst = true ∨
    (w.restored.Ticketed p.1 ∧ p.2.reaction?.any Reaction.isSettling = true) ∨
    (r.reaction?.any Reaction.restoresFirst = false ∧
      p.1.shared.mailboxes = w.shared.mailboxes ∧
      (r.reaction?.any Reaction.isSettling = true →
        p.2.reaction?.any Reaction.isSettling = true ∨ w.running = false)) := by
  cases r with
  | listening i ticket => exact .inl rfl
  | reacting i r =>
    have hmailboxes := Activity.mailboxes_step s part w (a := .reactor (.reacting i r))
      fun observer ticket h => by cases h
    cases r with
    | restore => exact .inr (.inl ⟨World.ticketed_ticket w.restored, rfl⟩)
    | settling ticket deadline => exact .inr (.inr ⟨rfl, rfl, fun _ => .inl rfl⟩)
    | cycling c =>
      cases c with
      | start =>
        cases hr : w.running with
        | true =>
          left
          simp [step, Reaction.step, Cycle.step, hr, Reaction.afterCycle, Cycle.report?,
            afterReaction, Reaction.report?, reaction?, Reaction.restoresFirst]
        | false => exact .inr (.inr ⟨rfl, hmailboxes, fun _ => .inr rfl⟩)
      | _ => exact .inr (.inr ⟨rfl, hmailboxes, fun h => by cases h⟩)
    | idling ticket => exact .inl rfl
    | done report => exact .inr (.inr ⟨rfl, hmailboxes, fun h => by cases h⟩)

theorem observer_step (s : Setting) (part : Nat) (w : World) (r : Reactor) :
    (r.step s part w).2.observer = r.observer := by
  cases r with
  | listening i ticket => rfl
  | reacting i r =>
    simp only [step, afterReaction]
    split <;> rfl

end Reactor

/-! ## Ordinary events -/

/-- Neither a render of one block nor a reaction. -/
def Activity.IsBystander : Activity → Prop
  | .render _ | .reaction _ | .reactor _ => False
  | _ => True

theorem Activity.IsBystander.step {a : Activity} (h : a.IsBystander) (s : Setting) (part : Nat)
    (w : World) : (a.step s part w).2.IsBystander := by
  cases a with
  | render r => exact h.elim
  | reaction r => exact h.elim
  | reactor r => exact h.elim
  | _ => trivial

/-- Whether an event belongs to a session in which cycles alone render blocks, one
reactor alone puts blocks back, and nobody gives anything up. -/
def Event.isOrdinary : Event → Bool
  | .call (.render _ _) | .call .reaction | .call .watch => false
  | .giveUp _ | .restoreAll => false
  | _ => true

namespace Session

/-- What an ordinary event does that is no step of an activity. -/
structure Receives (s s' : Session) : Prop where
  setting : s'.setting = s.setting
  told : s.world.shared.Tells s'.world.shared
  slots : s'.page.slots = s.page.slots
  tasks : ∃ new, s'.tasks = s.tasks ++ new ∧
    ∀ t ∈ new, t.givenUp = false ∧ t.activity.IsBystander ∧ ∀ c ∈ t.activity.cycles, c = .start

theorem Receives.refl (s : Session) : s.Receives s :=
  ⟨rfl, .refl _, rfl, [], (List.append_nil _).symm, fun t ht => by cases ht⟩

/-- A change of the world that observers are told of and that moves no block is
received. -/
theorem Receives.change {s : Session} {w : World} (told : s.world.shared.Tells w.shared)
    (slots : w.page.slots = s.world.page.slots) : s.Receives { s with world := w } :=
  ⟨rfl, told, slots, [], (List.append_nil _).symm, fun t ht => by cases ht⟩

theorem receives_call {s : Session} {c : Call} (h : (Event.call c).isOrdinary = true) :
    s.Receives (s.apply (.call c)) := by
  have call : ∀ (a : Activity) (w : World), w.shared = s.world.shared → a.IsBystander →
      (∀ c ∈ a.cycles, c = .start) →
        s.Receives { s with world := w, tasks := s.tasks ++ [⟨a, false⟩] } := by
    intro a w hw ha hcycles
    refine ⟨rfl, ?_, ?_, [⟨a, false⟩], rfl, ?_⟩
    · exact hw ▸ .refl _
    · exact congrArg (·.page.slots) hw
    · intro t ht
      rw [List.mem_singleton.1 ht]
      exact ⟨rfl, ha, hcycles⟩
  cases c with
  | render id theme => cases h
  | reaction => cases h
  | watch => cases h
  | cycle => exact call _ _ rfl trivial fun c hc => List.mem_singleton.1 hc
  | _ => exact call _ _ rfl trivial fun c hc => by cases hc

/-- An ordinary event is received, or is a step of an activity. -/
theorem apply_cases (s : Session) {e : Event} (he : e.isOrdinary = true) :
    s.Receives (s.apply e) ∨
      ∃ task t part, s.tasks[task]? = some t ∧ t.givenUp = false ∧
        s.apply e =
          { s with
            world := (t.activity.step s.setting part s.world).1
            tasks := s.tasks.set task
              { t with activity := (t.activity.step s.setting part s.world).2 } } := by
  cases e with
  | call c => exact .inl (receives_call he)
  | proceed task part =>
    rcases s.proceed_cases task part with h | ⟨t, ht, hlive, h⟩
    · left
      show s.Receives (s.proceed task part)
      rw [h]
      exact .refl s
    · exact .inr ⟨task, t, part, ht, hlive, h⟩
  | arrive => exact .inl (.change (w := s.world.arrived s.setting) (.refl _) rfl)
  | openGate =>
    exact .inl (.change (w := { s.world with gateOpen := true }.arrived s.setting) (.refl _) rfl)
  | passTo now =>
    exact .inl (.change (w := { s.world with now := max now s.world.now }) (.refl _) rfl)
  | giveUp task => cases he
  | restoreAll => cases he
  | setRootClass c on =>
    have honest := RootElement.honest_setClass c on
    have htold := SharedPage.tells_changeRoot honest s.world.shared
    have halike := World.alike_changeRoot (RootElement.setClass c on) s.world
    exact .inl (.change htold halike.slots)
  | setRootAttr name value =>
    have honest := RootElement.honest_setAttr name value
    have htold := SharedPage.tells_changeRoot honest s.world.shared
    have halike := World.alike_changeRoot (RootElement.setAttr name value) s.world
    exact .inl (.change htold halike.slots)
  | setPrefersDark dark =>
    have htold := SharedPage.tells_setPrefersDark dark s.world.shared
    exact .inl (.change htold (World.alike_setPrefersDark dark s.world).slots)
  | setReady state =>
    have htold := SharedPage.tells_setReady state s.world.shared
    exact .inl (.change htold (World.alike_setReady state s.world).slots)

/-! ## Watched sessions -/

/-- A session in which changes of the theme are reacted to from the start. -/
def watched (setting : Setting) (p : Page) : Session := (start setting p).apply (.call .watch)

/-- The first activity is a reactor that the first observer listens for, the others
are bystanders, and none of them was given up. -/
structure IsWatched (s : Session) : Prop where
  tasks : ∃ r others, s.tasks = ⟨.reactor r, false⟩ :: others ∧ r.observer = 0 ∧
    ∀ t ∈ others, t.givenUp = false ∧ t.activity.IsBystander
  mailbox : ∃ mail, s.world.shared.mailboxes[0]? = some ⟨true, mail⟩

theorem isWatched_watched (setting : Setting) (p : Page) : (watched setting p).IsWatched :=
  ⟨⟨.listening 0 0, [], rfl, rfl, fun t ht => by cases ht⟩, [], rfl⟩

/-- What the reactor that a session began with is reacting with. -/
def reaction? (s : Session) : Option Reaction :=
  match s.tasks with
  | ⟨.reactor r, _⟩ :: _ => r.reaction?
  | _ => none

/-- The reactor will put every rendered block back before its cycle begins. -/
def WillRestore (s : Session) : Prop :=
  s.world.shared.pending 0 ≠ [] ∨ s.reaction?.any Reaction.restoresFirst = true

/-- The reactor has put every rendered block back, and its cycle has not begun. -/
def IsSettling (s : Session) : Prop := s.reaction?.any Reaction.isSettling = true

/-- The theme of the page. -/
def theme (s : Session) : Text := s.setting.config.resolveTheme s.page

theorem reaction?_of_tasks {s : Session} {r : Reactor} {others : List Task}
    (h : s.tasks = ⟨.reactor r, false⟩ :: others) : s.reaction? = r.reaction? := by
  rw [reaction?, h]

theorem theme_eq_of_root {s s' : Session} (setting : s'.setting = s.setting)
    (root : s'.page.root = s.page.root) (dark : s'.page.prefersDark = s.page.prefersDark) :
    s'.theme = s.theme := by
  unfold theme Config.resolveTheme Config.isDark
  rw [setting, root, dark]

theorem pending_eq_of_mailboxes {s s' : SharedPage} (h : s'.mailboxes = s.mailboxes) (i : Nat) :
    s'.pending i = s.pending i := by
  unfold SharedPage.pending
  rw [h]

/-- What an ordinary event makes of a watched session. -/
structure Advances (s s' : Session) : Prop where
  watched : s'.IsWatched
  willRestore : s.WillRestore →
    s'.WillRestore ∨ (s'.page = s.world.restored.page ∧ s'.IsSettling)
  settling : s.IsSettling → s'.IsSettling ∨ s'.WillRestore ∨ s.world.running = false
  theme : s'.theme = s.theme ∨ s'.WillRestore

/-- Nothing has changed if neither the theme nor the mail nor the reactor has. -/
theorem advances_of_same {s s' : Session} (watched : s'.IsWatched)
    (mailboxes : s'.world.shared.mailboxes = s.world.shared.mailboxes)
    (reaction : s'.reaction? = s.reaction?) (theme : s'.theme = s.theme) : s.Advances s' := by
  refine ⟨watched, fun hw => .inl ?_, fun hs => .inl ?_, .inl theme⟩
  · unfold WillRestore at hw ⊢
    rwa [pending_eq_of_mailboxes mailboxes, reaction]
  · unfold IsSettling at hs ⊢
    rwa [reaction]

theorem IsWatched.advances_of_receives {s s' : Session} (h : s.IsWatched) (hs : s.Receives s') :
    s.Advances s' := by
  obtain ⟨r, others, htasks, hobserver, hothers⟩ := h.tasks
  obtain ⟨mail, hmail⟩ := h.mailbox
  obtain ⟨new, hnew, hfresh⟩ := hs.tasks
  have htasks' : s'.tasks = ⟨.reactor r, false⟩ :: (others ++ new) := by
    rw [hnew, htasks]
    rfl
  have hothers' : ∀ t ∈ others ++ new, t.givenUp = false ∧ t.activity.IsBystander := by
    intro t ht
    rcases List.mem_append.1 ht with ht | ht
    · exact hothers t ht
    · exact ⟨(hfresh t ht).1, (hfresh t ht).2.1⟩
  have hreaction : s'.reaction? = s.reaction? := by
    rw [reaction?_of_tasks htasks, reaction?_of_tasks htasks']
  rcases hs.told with ⟨hmailboxes, hroot, hdark⟩ | ⟨e, hemit⟩
  · have hwatched : s'.IsWatched :=
      ⟨⟨r, others ++ new, htasks', hobserver, hothers'⟩, mail, hmailboxes ▸ hmail⟩
    exact advances_of_same hwatched hmailboxes hreaction (theme_eq_of_root hs.setting hroot hdark)
  · have hmail' : s'.world.shared.mailboxes[0]? = some ⟨true, mail ++ [e]⟩ := by
      rw [hemit]
      exact SharedPage.pending_emit e hmail
    have hwill : s'.WillRestore := by
      left
      simp [SharedPage.pending, hmail']
    exact ⟨⟨⟨r, others ++ new, htasks', hobserver, hothers'⟩, _, hmail'⟩, fun _ => .inl hwill,
      fun _ => .inr (.inl hwill), .inr hwill⟩

/-- A step of the reactor. -/
theorem IsWatched.advances_of_reactor {s s' : Session} (h : s.IsWatched) {r : Reactor}
    {others : List Task} (part : Nat) (htasks : s.tasks = ⟨.reactor r, false⟩ :: others)
    (setting : s'.setting = s.setting) (hworld : s'.world = (r.step s.setting part s.world).1)
    (htasks' : s'.tasks = ⟨.reactor (r.step s.setting part s.world).2, false⟩ :: others) :
    s.Advances s' := by
  obtain ⟨r₀, others₀, htasks₀, hobserver, hothers⟩ := h.tasks
  cases htasks.symm.trans htasks₀
  obtain ⟨mail, hmail⟩ := h.mailbox
  have hmailbox := Activity.mailbox_step s.setting part s.world (.reactor r) hmail
  have hframe := (Activity.edited_step s.setting part s.world (.reactor r)).sameFrame
  have hpage : s'.page = (r.step s.setting part s.world).1.page := congrArg World.page hworld
  have htheme : s'.theme = s.theme :=
    theme_eq_of_root setting (hpage ▸ hframe.1) (hpage ▸ hframe.2.1)
  have hwatched : s'.IsWatched := by
    refine ⟨⟨_, others, htasks', ?_, hothers⟩, hworld ▸ hmailbox⟩
    rw [Reactor.observer_step]
    exact hobserver
  have hreaction := reaction?_of_tasks htasks
  have hreaction' := reaction?_of_tasks htasks'
  rcases r.step_cases s.setting part s.world with hfirst | ⟨⟨n, hn⟩, hsettling⟩ |
    ⟨hnot, hmailboxes, hsettling⟩
  · have hwill : s'.WillRestore := .inr (hreaction' ▸ hfirst)
    exact ⟨hwatched, fun _ => .inl hwill, fun _ => .inr (.inl hwill), .inr hwill⟩
  · have hsettles : s'.IsSettling := by
      unfold IsSettling
      rwa [hreaction']
    rw [hn] at hpage
    exact ⟨hwatched, fun _ => .inr ⟨hpage, hsettles⟩, fun _ => .inl hsettles, .inl htheme⟩
  · refine ⟨hwatched, fun hw => .inl (.inl ?_), ?_, .inl htheme⟩
    · rcases hw with hw | hw
      · rwa [hworld, pending_eq_of_mailboxes hmailboxes]
      · rw [hreaction, hnot] at hw
        cases hw
    · intro hs
      unfold IsSettling at hs ⊢
      rw [hreaction] at hs
      rw [hreaction']
      rcases hsettling hs with hs | hrunning
      · exact .inl hs
      · exact .inr (.inr hrunning)

/-- A step of a bystander. -/
theorem IsWatched.advances_of_bystander {s s' : Session} (h : s.IsWatched) {r : Reactor}
    {others others' : List Task} {a : Activity} (part : Nat)
    (htasks : s.tasks = ⟨.reactor r, false⟩ :: others) (ha : a.IsBystander)
    (setting : s'.setting = s.setting) (hworld : s'.world = (a.step s.setting part s.world).1)
    (htasks' : s'.tasks = ⟨.reactor r, false⟩ :: others')
    (hothers' : ∀ t ∈ others', t ∈ others ∨ t = ⟨(a.step s.setting part s.world).2, false⟩) :
    s.Advances s' := by
  obtain ⟨r₀, others₀, htasks₀, hobserver, hothers⟩ := h.tasks
  cases htasks.symm.trans htasks₀
  obtain ⟨mail, hmail⟩ := h.mailbox
  have hmailboxes : s'.world.shared.mailboxes = s.world.shared.mailboxes := by
    rw [hworld]
    refine Activity.mailboxes_step s.setting part s.world ?_
    intro observer ticket he
    rw [he] at ha
    exact ha
  have hframe := (a.edited_step s.setting part s.world).sameFrame
  have hpage : s'.page = (a.step s.setting part s.world).1.page := congrArg World.page hworld
  refine advances_of_same ⟨⟨r, others', htasks', hobserver, fun t ht => ?_⟩, mail, ?_⟩
    hmailboxes ?_ ?_
  · rcases hothers' t ht with ht | rfl
    · exact hothers t ht
    · exact ⟨rfl, ha.step s.setting part s.world⟩
  · rwa [hmailboxes]
  · rw [reaction?_of_tasks htasks, reaction?_of_tasks htasks']
  · exact theme_eq_of_root setting (hpage ▸ hframe.1) (hpage ▸ hframe.2.1)

/-- What an ordinary event makes of a watched session. -/
theorem IsWatched.advances {s : Session} (h : s.IsWatched) {e : Event} (he : e.isOrdinary = true) :
    s.Advances (s.apply e) := by
  rcases s.apply_cases he with hs | ⟨task, t, part, ht, hlive, hs⟩
  · exact h.advances_of_receives hs
  · obtain ⟨r, others, htasks, hobserver, hothers⟩ := h.tasks
    rw [hs]
    rw [htasks] at ht
    cases task with
    | zero =>
      cases ht
      refine h.advances_of_reactor part htasks rfl rfl ?_
      simp only [htasks, List.set_cons_zero]
      rfl
    | succ i =>
      rw [List.getElem?_cons_succ] at ht
      obtain ⟨-, hbystander⟩ := hothers t (List.mem_of_getElem? ht)
      have htasks' : s.tasks.set (i + 1)
            { t with activity := (t.activity.step s.setting part s.world).2 } =
          ⟨.reactor r, false⟩ ::
            others.set i ⟨(t.activity.step s.setting part s.world).2, false⟩ := by
        simp only [htasks, List.set_cons_succ, hlive]
      exact h.advances_of_bystander part htasks hbystander rfl rfl htasks' fun u hu =>
        List.mem_or_eq_of_mem_set hu

end Session

end PageHighlight
