/-
  Proofs/Session/ThemeChange.lean --- when a change of the theme is lost.

  WHAT THIS FILE IS FOR.  A reactor puts every rendered block back when the theme
  changes, lets the page settle, and renders the blocks again with a cycle of its
  own.  A cycle that resolved its theme before the change may go on meanwhile.  If it
  is still running when the reactor's own cycle begins, the reactor starts over; if it
  has put its blocks in and ended by then, nobody looks at them again.  `Overtaken`
  says that this happened, and `shows_theme_iff` that nothing else can go wrong: when
  everything has come to rest, every rendered block has the theme of the page unless
  one of another theme was put in like that.

  THE INVARIANT.  Unless the reactor will put the blocks back anyway, every cycle at
  work has the theme of the page or the reactor is settling, and every rendered block
  has the theme of the page or has overtaken the reactor (`Honours`).  A settling
  reactor stops settling only when no cycle is at work, which is what single flight is
  good for.
-/
import Mathlib.Data.List.Induction
import PageHighlight.Proofs.Session.Original
import PageHighlight.Proofs.Session.Showing
import PageHighlight.Proofs.Session.Watching

set_option autoImplicit false

namespace PageHighlight

namespace Session

variable {setting : Setting} {p : Page} {id : NodeId} {theme : Text}

/-! ## Cycles and their themes -/

/-- A cycle at work renders with this theme. -/
def RendersWith (s : Session) (theme : Text) : Prop :=
  ∃ t ∈ s.tasks, ∃ c ∈ t.activity.cycles, c.theme? = some theme

theorem IsWatched.cases_of_mem {s : Session} (h : s.IsWatched) {t : Task} (ht : t ∈ s.tasks) :
    t.givenUp = false ∧
      ((∃ r, t.activity = .reactor r ∧ s.reaction? = r.reaction?) ∨ t.activity.IsBystander) := by
  obtain ⟨r, others, htasks, -, hothers⟩ := h.tasks
  have hreaction := reaction?_of_tasks htasks
  rw [htasks] at ht
  rcases List.mem_cons.1 ht with rfl | ht
  · exact ⟨rfl, .inl ⟨r, rfl, hreaction⟩⟩
  · exact ⟨(hothers t ht).1, .inr (hothers t ht).2⟩

theorem IsWatched.render?_eq_none {s : Session} (h : s.IsWatched) {t : Task} (ht : t ∈ s.tasks) :
    t.activity.render? = none := by
  rcases (h.cases_of_mem ht).2 with ⟨r, hr, -⟩ | hbystander
  · rw [hr]
    rfl
  · cases ha : t.activity with
    | render r =>
      rw [ha] at hbystander
      exact hbystander.elim
    | _ => rfl

/-- Only the reactor puts blocks back. -/
theorem IsWatched.ne_restore {s : Session} (h : s.IsWatched) (hs : s.reaction? ≠ some .restore)
    {t : Task} (ht : t ∈ s.tasks) : t.activity.reaction? ≠ some .restore := by
  intro hrestore
  rcases (h.cases_of_mem ht).2 with ⟨r, hr, hreaction⟩ | hbystander
  · rw [hr] at hrestore
    refine hs (hreaction.trans ?_)
    cases r with
    | listening i ticket => cases hrestore
    | reacting i r => exact hrestore
  · cases ha : t.activity with
    | reaction r =>
      rw [ha] at hbystander
      exact hbystander.elim
    | reactor r =>
      rw [ha] at hbystander
      exact hbystander.elim
    | _ =>
      rw [ha] at hrestore
      cases hrestore

/-- When no cycle is running, none has a theme. -/
theorem IsWatched.not_rendersWith {s : Session} (h : s.IsWatched) (hflight : s.IsSingleFlight)
    (hr : s.world.running = false) : ¬s.RendersWith theme := by
  rintro ⟨t, ht, c, hc, htheme⟩
  have hidle := hflight.not_isActive hr ht (h.cases_of_mem ht).1 hc
  rw [Cycle.isActive_of_theme? htheme] at hidle
  cases hidle

/-! ## Events -/

section Events

variable {s : Session} {e : Event}

/-- A cycle has its theme since before an event, or has just resolved it. -/
theorem IsWatched.rendersWith_before (h : s.IsWatched) (he : e.isOrdinary = true)
    (hafter : (s.apply e).RendersWith theme) : s.RendersWith theme ∨ theme = s.theme := by
  obtain ⟨u, hu, c', hc', htheme⟩ := hafter
  rcases s.apply_cases he with hs | ⟨task, t, part, ht, -, hs⟩
  · obtain ⟨new, hnew, hfresh⟩ := hs.tasks
    rw [hnew] at hu
    rcases List.mem_append.1 hu with hu | hu
    · exact .inl ⟨u, hu, c', hc', htheme⟩
    · rw [(hfresh u hu).2.2 c' hc'] at htheme
      cases htheme
  · have hmem : t ∈ s.tasks := List.mem_of_getElem? ht
    rw [hs] at hu
    rcases List.mem_or_eq_of_mem_set hu with hu | rfl
    · exact .inl ⟨u, hu, c', hc', htheme⟩
    · rcases Activity.theme?_step s.setting part s.world (h.render?_eq_none hmem) hc' htheme with
        ⟨c, hc, hold⟩ | hresolved
      · exact .inl ⟨t, hmem, c, hc, hold⟩
      · exact .inr hresolved

/-- An event shows nothing new but blocks that a cycle puts in. -/
theorem IsWatched.shows_before (h : s.IsWatched) (hk : (Pact.pristine setting).OfSession s)
    (he : e.isOrdinary = true) (hafter : (s.apply e).page.Shows id theme) :
    s.page.Shows id theme ∨ (s.page.allocated < id ∧ s.RendersWith theme) := by
  rcases s.apply_cases he with hs | ⟨task, t, part, ht, -, hs⟩
  · exact .inl ((Page.shows_iff_of_slots_eq hs.slots).1 hafter)
  · have hmem : t ∈ s.tasks := List.mem_of_getElem? ht
    rw [hs] at hafter
    rcases Activity.shows_before s.setting part (h.render?_eq_none hmem) (hk.tasks t hmem).2
      hafter with hbefore | ⟨hid, hcycle⟩
    · exact .inl hbefore
    · exact .inr ⟨hid, t, hmem, hcycle⟩

/-- An event takes no rendered block away unless the reactor is about to. -/
theorem IsWatched.shows_after (h : s.IsWatched) (hk : (Pact.pristine setting).OfSession s)
    (he : e.isOrdinary = true) (hrestore : s.reaction? ≠ some .restore)
    (hbefore : s.page.Shows id theme) : (s.apply e).page.Shows id theme := by
  rcases s.apply_cases he with hs | ⟨task, t, part, ht, -, hs⟩
  · exact (Page.shows_iff_of_slots_eq hs.slots).2 hbefore
  · have hmem : t ∈ s.tasks := List.mem_of_getElem? ht
    rw [hs]
    exact Activity.shows_after s.setting part (h.render?_eq_none hmem) (hk.tasks t hmem).2
      (h.ne_restore hrestore hmem) hbefore

end Events

/-! ## What holds all along -/

theorem watched_after (setting : Setting) (p : Page) {es : List Event}
    (hes : ∀ e ∈ es, e.isOrdinary = true) : ((watched setting p).after es).IsWatched := by
  induction es using List.reverseRecOn with
  | nil => exact isWatched_watched setting p
  | append_singleton es e ih =>
    rw [after_snoc]
    have hbefore := ih fun e he => hes e (List.mem_append_left _ he)
    exact (hbefore.advances (hes e (List.mem_append_right _ (List.mem_singleton_self e)))).watched

theorem admits_pristine {e : Event} (he : e.isOrdinary = true) :
    (Pact.pristine setting).Admits e := by
  cases e with
  | call c =>
    cases c with
    | render id theme => cases he
    | _ => trivial
  | giveUp task => cases he
  | _ => trivial

theorem pristine_after (hp : p.IsFresh) {es : List Event} (hes : ∀ e ∈ es, e.isOrdinary = true) :
    (Pact.pristine setting).OfSession ((watched setting p).after es) := by
  have hstart : (Pact.pristine setting).OfSession (watched setting p) := by
    refine ⟨rfl, hp.numbered, ?_⟩
    intro t ht
    rw [List.mem_singleton.1 ht]
    exact (Pact.pristine setting).ofActivity_nil rfl rfl
  exact ((Pact.kept_pristine setting).after hstart es fun e he => admits_pristine (hes e he)).1

theorem isNoted_after (hp : p.IsFresh) (es : List Event) :
    ((watched setting p).after es).page.IsNoted := by
  have hfaithful : Page.Faithful setting p ((watched setting p).after es).page :=
    (faithful_after hp (.call .watch :: es)).page
  intro s hs hrendered
  obtain ⟨first, -, hslot⟩ := exists_of_mem_right_of_forall₂ hfaithful hs
  obtain ⟨r, hr⟩ := Node.isRendered_iff.1 hrendered
  obtain ⟨o, ho, -⟩ := hslot.rendered r hr
  exact ⟨o, ho⟩

/-! ## Overtaking -/

/-- An event puts a block with this theme in. -/
def PutsIn (s : Session) (e : Event) (theme : Text) : Prop :=
  ∃ id, s.page.allocated < id ∧ (s.apply e).page.Shows id theme

/-- In a history a block with this theme was put in while the reactor was settling,
and the reactor has put no blocks back since. -/
def Overtaken (s : Session) (es : List Event) (theme : Text) : Prop :=
  ∃ before e rest, es = before ++ e :: rest ∧ (s.after before).IsSettling ∧
    (s.after before).PutsIn e theme ∧
    ∀ mid, mid <+: rest → (s.after (before ++ e :: mid)).reaction? ≠ some .restore

theorem ne_restore_of_not_willRestore {s : Session} (h : ¬s.WillRestore) :
    s.reaction? ≠ some .restore := by
  intro hrestore
  refine h (.inr ?_)
  rw [hrestore]
  rfl

theorem Overtaken.snoc {s : Session} {es : List Event} {e : Event} (h : s.Overtaken es theme)
    (hrestore : (s.after (es ++ [e])).reaction? ≠ some .restore) :
    s.Overtaken (es ++ [e]) theme := by
  obtain ⟨before, e₀, rest, rfl, hsettling, hputs, hsince⟩ := h
  refine ⟨before, e₀, rest ++ [e], by simp, hsettling, hputs, ?_⟩
  intro mid hmid
  rcases List.prefix_concat_iff.1 hmid with rfl | hmid
  · simpa using hrestore
  · exact hsince mid hmid

theorem overtaken_snoc {s : Session} {es : List Event} {e : Event}
    (hsettling : (s.after es).IsSettling) (hputs : (s.after es).PutsIn e theme)
    (hrestore : (s.after (es ++ [e])).reaction? ≠ some .restore) :
    s.Overtaken (es ++ [e]) theme := by
  refine ⟨es, e, [], rfl, hsettling, hputs, ?_⟩
  intro mid hmid
  rw [List.prefix_nil.1 hmid]
  exact hrestore

/-- A block that has overtaken the reactor is still there. -/
theorem exists_shows_of_overtaken (hp : p.IsFresh) {es : List Event}
    (hes : ∀ e ∈ es, e.isOrdinary = true) (h : (watched setting p).Overtaken es theme) :
    ∃ id, ((watched setting p).after es).page.Shows id theme := by
  obtain ⟨before, e, rest, rfl, -, ⟨id, -, hshows⟩, hsince⟩ := h
  refine ⟨id, ?_⟩
  suffices ∀ mid, mid <+: rest →
      ((watched setting p).after (before ++ e :: mid)).page.Shows id theme from
    this rest (List.prefix_refl rest)
  intro mid
  induction mid using List.reverseRecOn with
  | nil =>
    intro _
    rw [after_snoc]
    exact hshows
  | append_singleton mid e' ih =>
    intro hmid
    have hprefix : mid <+: rest := (List.prefix_append mid [e']).trans hmid
    have hordinary : ∀ f ∈ before ++ e :: (mid ++ [e']), f.isOrdinary = true := by
      intro f hf
      refine hes f ?_
      rcases List.mem_append.1 hf with hf | hf
      · exact List.mem_append_left _ hf
      · rcases List.mem_cons.1 hf with rfl | hf
        · exact List.mem_append_right _ List.mem_cons_self
        · exact List.mem_append_right _ (List.mem_cons_of_mem _ (hmid.subset hf))
    have heq : before ++ e :: (mid ++ [e']) = (before ++ e :: mid) ++ [e'] := by simp
    rw [heq] at hordinary ⊢
    rw [after_snoc]
    have hbefore : ∀ f ∈ before ++ e :: mid, f.isOrdinary = true :=
      fun f hf => hordinary f (List.mem_append_left _ hf)
    exact (watched_after setting p hbefore).shows_after (pristine_after hp hbefore)
      (hordinary e' (List.mem_append_right _ (List.mem_singleton_self e'))) (hsince mid hprefix)
      (ih hprefix)

/-! ## The invariant -/

/-- How the session after a history honours the theme of the page. -/
structure Honours (s : Session) (es : List Event) : Prop where
  cycles : ∀ theme, (s.after es).RendersWith theme →
    (s.after es).WillRestore ∨ (s.after es).IsSettling ∨ theme = (s.after es).theme
  shown : ∀ id theme, (s.after es).page.Shows id theme →
    (s.after es).WillRestore ∨ theme = (s.after es).theme ∨ s.Overtaken es theme

/-- One more event. -/
theorem Honours.snoc (hp : p.IsFresh) {es : List Event} {e : Event}
    (hes : ∀ e ∈ es, e.isOrdinary = true) (he : e.isOrdinary = true)
    (h : (watched setting p).Honours es) : (watched setting p).Honours (es ++ [e]) := by
  have hwatched := watched_after setting p hes
  have hpristine : (Pact.pristine setting).OfSession ((watched setting p).after es) :=
    pristine_after hp hes
  have hnumbered : ((watched setting p).after es).page.IsNumbered := hpristine.inv
  have hflight : ((watched setting p).after es).IsSingleFlight :=
    singleFlight_after (singleFlight_start setting p) (.call .watch :: es)
  have hadvances := hwatched.advances he
  have hafter := after_snoc (watched setting p) es e
  by_cases hwill : ((watched setting p).after (es ++ [e])).WillRestore
  · exact ⟨fun _ _ => .inl hwill, fun _ _ _ => .inl hwill⟩
  have hrestore := ne_restore_of_not_willRestore hwill
  have htheme : ((watched setting p).after (es ++ [e])).theme =
      ((watched setting p).after es).theme := by
    rw [hafter] at hwill ⊢
    exact hadvances.theme.resolve_right hwill
  -- If the reactor was going to put blocks back, it has just done so.
  have hrestored : ((watched setting p).after es).WillRestore →
      (∀ id theme, ¬((watched setting p).after (es ++ [e])).page.Shows id theme) ∧
        ((watched setting p).after (es ++ [e])).IsSettling := by
    intro hw
    rw [hafter] at hwill ⊢
    obtain ⟨hpage, hsettling⟩ := (hadvances.willRestore hw).resolve_left hwill
    refine ⟨fun id theme => ?_, hsettling⟩
    rw [hpage]
    exact World.not_shows_restored hnumbered (isNoted_after hp es)
  constructor
  · intro theme hrenders
    right
    rw [hafter] at hrenders
    rcases hwatched.rendersWith_before he hrenders with hbefore | hresolved
    · rcases h.cycles theme hbefore with hw | hs | hold
      · exact .inl (hrestored hw).2
      · rw [hafter] at hwill ⊢
        rcases hadvances.settling hs with hs | hw | hidle
        · exact .inl hs
        · exact absurd hw hwill
        · exact absurd hbefore (hwatched.not_rendersWith hflight hidle)
      · exact .inr (hold.trans htheme.symm)
    · exact .inr (hresolved.trans htheme.symm)
  · intro id theme hshows
    right
    have hputs := hshows
    rw [hafter] at hputs
    rcases hwatched.shows_before hpristine he hputs with hbefore | ⟨hid, hrenders⟩
    · rcases h.shown id theme hbefore with hw | hold | hovertaken
      · exact absurd hshows ((hrestored hw).1 id theme)
      · exact .inl (hold.trans htheme.symm)
      · exact .inr (hovertaken.snoc hrestore)
    · rcases h.cycles theme hrenders with hw | hs | hold
      · exact absurd hshows ((hrestored hw).1 id theme)
      · exact .inr (overtaken_snoc hs ⟨id, hid, hputs⟩ hrestore)
      · exact .inl (hold.trans htheme.symm)

/-- Every history honours the theme of the page. -/
theorem honours_after (hp : p.IsFresh) {es : List Event} (hes : ∀ e ∈ es, e.isOrdinary = true) :
    (watched setting p).Honours es := by
  induction es using List.reverseRecOn with
  | nil =>
    refine ⟨?_, ?_⟩
    · intro theme hrenders
      obtain ⟨t, ht, c, hc, -⟩ := hrenders
      rw [List.mem_singleton.1 ht] at hc
      cases hc
    · intro id theme hshows
      obtain ⟨s, hs, -, r, hr, -⟩ := hshows
      obtain ⟨t, ht⟩ := hp.pristine s hs
      rw [ht] at hr
      cases hr
  | append_singleton es e ih =>
    have hbefore : ∀ f ∈ es, f.isOrdinary = true := fun f hf => hes f (List.mem_append_left _ hf)
    exact (ih hbefore).snoc hp hbefore
      (hes e (List.mem_append_right _ (List.mem_singleton_self e)))

/-! ## At rest -/

/-- Nothing is going on: no cycle is running, the reactor listens and has no mail, and
everything else has ended. -/
structure IsQuiescent (s : Session) : Prop where
  idle : s.world.running = false
  listening : s.reaction?.isNone = true
  noMail : s.world.shared.pending 0 = []
  others : ∀ t ∈ s.tasks.tail, t.isLive = false

instance (s : Session) : Decidable s.IsQuiescent :=
  decidable_of_iff (s.world.running = false ∧ s.reaction?.isNone = true ∧
      s.world.shared.pending 0 = [] ∧ ∀ t ∈ s.tasks.tail, t.isLive = false)
    ⟨fun ⟨idle, listening, noMail, others⟩ => ⟨idle, listening, noMail, others⟩,
      fun h => ⟨h.idle, h.listening, h.noMail, h.others⟩⟩

theorem IsQuiescent.not_willRestore {s : Session} (h : s.IsQuiescent) : ¬s.WillRestore := by
  rintro (hmail | hreaction)
  · exact hmail h.noMail
  · rw [Option.isNone_iff_eq_none.1 h.listening] at hreaction
    cases hreaction

/-! ## A change that is lost -/

/-- A cycle waits for the engine with the light theme; the page becomes dark, and the
reactor puts back what there is; the engine comes, the cycle puts its block in and
ends; the reactor's own cycle finds no candidates. -/
def overtaking : List Event :=
  .call .cycle :: List.replicate 5 (.proceed 1 0)
    ++ .setRootClass "navy".toList true :: List.replicate 2 (.proceed 0 0)
    ++ .openGate :: List.replicate 5 (.proceed 1 0)
    ++ .passTo 50 :: List.replicate 4 (.proceed 0 0)

/-- The session after it. -/
def overtook : Session := (watched (.forRust .gated) .oneBlock).after overtaking

theorem isOrdinary_overtaking : ∀ e ∈ overtaking, e.isOrdinary = true := by decide

theorem overtook_cases : overtook.IsQuiescent ∧ overtook.page.Shows 2 "gruvbox-light".toList ∧
    overtook.theme = "gruvbox-dark".toList := by
  decide +kernel

/-! ## What is lost and what is not -/

/-- When a watched session has come to rest, after whatever history, every rendered
block has the theme of the page if and only if every block that has overtaken the
reactor has. -/
theorem shows_theme_iff (hp : p.IsFresh) (es : List Event) (hes : ∀ e ∈ es, e.isOrdinary = true)
    (hrest : ((watched setting p).after es).IsQuiescent) :
    (∀ id theme, ((watched setting p).after es).page.Shows id theme →
        theme = ((watched setting p).after es).theme) ↔
      ∀ theme, (watched setting p).Overtaken es theme →
        theme = ((watched setting p).after es).theme := by
  constructor
  · intro h theme hovertaken
    obtain ⟨id, hshows⟩ := exists_shows_of_overtaken hp hes hovertaken
    exact h id theme hshows
  · intro h id theme hshows
    rcases (honours_after hp hes).shown id theme hshows with hw | hcurrent | hovertaken
    · exact absurd hw hrest.not_willRestore
    · exact hcurrent
    · exact h theme hovertaken

/-- In that history the light block has overtaken the reactor. -/
theorem overtaken_overtaking :
    Page.oneBlock.IsFresh ∧ (∀ e ∈ overtaking, e.isOrdinary = true) ∧ overtook.IsQuiescent ∧
      ((∀ id theme, overtook.page.Shows id theme → theme = overtook.theme) ↔
        ∀ theme, (watched (.forRust .gated) .oneBlock).Overtaken overtaking theme →
          theme = overtook.theme) ∧
      ∃ theme, (watched (.forRust .gated) .oneBlock).Overtaken overtaking theme ∧
        theme ≠ overtook.theme := by
  obtain ⟨hquiescent, hshows, htheme⟩ := overtook_cases
  have hfresh : Page.oneBlock.IsFresh := Page.isFresh_empty.pushBlock _ _ _ _
  have hiff := shows_theme_iff hfresh overtaking isOrdinary_overtaking hquiescent
  refine ⟨hfresh, isOrdinary_overtaking, hquiescent, hiff, ?_⟩
  by_contra hnone
  have hall : ∀ theme, (watched (.forRust .gated) .oneBlock).Overtaken overtaking theme →
      theme = overtook.theme := by
    intro theme hovertaken
    by_contra hne
    exact hnone ⟨theme, hovertaken, hne⟩
  have hlight : "gruvbox-light".toList = "gruvbox-dark".toList :=
    (hiff.2 hall 2 _ hshows).trans htheme
  exact absurd hlight (by decide)

/-- Not every block has the theme of the page when everything has come to rest. -/
theorem not_shows_theme : ¬∀ (setting : Setting) (p : Page) (es : List Event), p.IsFresh →
    (∀ e ∈ es, e.isOrdinary = true) → ((watched setting p).after es).IsQuiescent →
    ∀ id theme, ((watched setting p).after es).page.Shows id theme →
      theme = ((watched setting p).after es).theme := by
  intro h
  obtain ⟨hquiescent, hshows, htheme⟩ := overtook_cases
  have hsame := h (.forRust .gated) .oneBlock overtaking (Page.isFresh_empty.pushBlock _ _ _ _)
    isOrdinary_overtaking hquiescent 2 _ hshows
  have hlight : "gruvbox-light".toList = "gruvbox-dark".toList := hsame.trans htheme
  exact absurd hlight (by decide)

end Session

end PageHighlight
