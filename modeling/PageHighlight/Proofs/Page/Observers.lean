/-
  Proofs/Page/Observers.lean --- what the observers of a page are told of its theme.

  WHAT THIS FILE IS FOR.  A change of the root element or of the preferred colour scheme is
  told once to every observer that is there, and one that changes nothing is not told.
  `told_every_change_once` says so of every history of a page: whatever other observers do,
  an observer gets, one by one or all at once and in order, what was announced since it came.

  HONEST CHANGES.  Whether the root element has changed is found by cases, apart from the
  change itself.  `RootElement.Honest` says that the two agree; elements that have a class or
  an attribute several times are no exception.

  SENDERS.  An observer that is gone keeps its number and an empty mailbox.  A page may as
  well keep a list of the observers to send to, and strike off those that are gone when
  something is sent to them: whatever the history was, all others are on the list, once each
  (`IsServed`), so that each is told the same (`deliver_eq_emit`).
-/
import Mathlib.Data.List.Nodup
import PageHighlight.Page.Shared
import PageHighlight.Proofs.Page.Edit

set_option autoImplicit false

namespace PageHighlight

/-! ## Changes of the root element -/

namespace RootElement

/-- A change tells whether it has changed the element. -/
def Honest (change : RootElement → RootElement × Bool) : Prop :=
  ∀ r, (change r).2 = true ↔ (change r).1 ≠ r

theorem Honest.eq_self {change : RootElement → RootElement × Bool} (h : Honest change)
    {r : RootElement} (hr : (change r).2 = false) : (change r).1 = r := by
  by_contra hne
  rw [(h r).2 hne] at hr
  cases hr

theorem honest_setClass (c : Text) (on : Bool) : Honest (setClass c on) := by
  intro r
  unfold setClass
  split
  · refine ⟨fun _ h => ?_, fun _ => rfl⟩
    simpa using congrArg classes h
  · next hc =>
    refine ⟨fun _ h => ?_, fun _ => rfl⟩
    -- the class is there before, and not afterwards
    have hmem : c ∈ r.classes.filter (· ≠ c) := by
      rw [show r.classes.filter (· ≠ c) = r.classes from congrArg classes h]
      exact List.contains_iff_mem.1 hc
    simp at hmem
  · exact ⟨fun h => (by cases h), fun h => absurd rfl h⟩

/-- A value that is put in for another one is seen. -/
theorem replaceAttr_ne_self {name old new : Text} {as : List Attribute}
    (h : (as.find? (·.1 = name)).map (·.2) = some old) (hne : old ≠ new) :
    replaceAttr name new as ≠ as := by
  induction as with
  | nil => cases h
  | cons a as ih =>
    unfold replaceAttr
    by_cases ha : a.1 = name
    · rw [if_pos ha]
      intro he
      rw [List.find?_cons_of_pos (by simpa using ha)] at h
      obtain ⟨hsame, -⟩ := List.cons.inj he
      exact hne ((Option.some.inj h).symm.trans (congrArg Prod.snd hsame).symm)
    · rw [if_neg ha]
      rw [List.find?_cons_of_neg (by simpa using ha)] at h
      exact fun he => ih h (List.cons.inj he).2

/-- An attribute that is taken away is missed, also if there is another one of its name. -/
theorem removeAttr_ne_self {name : Text} {as : List Attribute}
    (h : ((as.find? (·.1 = name)).map (·.2)).isSome = true) : removeAttr name as ≠ as := by
  induction as with
  | nil => cases h
  | cons a as ih =>
    unfold removeAttr
    by_cases ha : a.1 = name
    · rw [if_pos ha]
      exact fun he => List.cons_ne_self a as he.symm
    · rw [if_neg ha]
      rw [List.find?_cons_of_neg (by simpa using ha)] at h
      exact fun he => ih h (List.cons.inj he).2

theorem honest_setAttr (name : Text) (value : Option Text) : Honest (setAttr name value) := by
  intro r
  unfold setAttr
  split
  · next old new hold =>
    split
    · exact ⟨fun h => (by cases h), fun h => absurd rfl h⟩
    · next hne =>
      exact ⟨fun _ h => replaceAttr_ne_self hold hne (congrArg attrs h), fun _ => rfl⟩
  · next old hold =>
    refine ⟨fun _ h => removeAttr_ne_self ?_ (congrArg attrs h), fun _ => rfl⟩
    exact Option.isSome_iff_exists.2 ⟨old, hold⟩
  · next new hnone =>
    refine ⟨fun _ h => ?_, fun _ => rfl⟩
    simpa using congrArg attrs h
  · exact ⟨fun h => (by cases h), fun h => absurd rfl h⟩

end RootElement

/-! ## Calls -/

/-- A call that may change the theme. -/
inductive ThemeCall where
  | rootClass (c : Text) (on : Bool)
  | rootAttr (name : Text) (value : Option Text)
  | prefersDark (dark : Bool)

namespace ThemeCall

/-- The page after a call; also whether the call says that it has changed something. -/
def apply : ThemeCall → SharedPage → Bool × SharedPage
  | rootClass c on => SharedPage.setRootClass c on
  | rootAttr name value => SharedPage.setRootAttr name value
  | prefersDark dark => SharedPage.setPrefersDark dark

/-- What observers are told of a call. -/
def event : ThemeCall → ThemeEvent
  | rootClass _ _ | rootAttr _ _ => .rootMutated
  | prefersDark dark => .colorSchemeChanged dark

/-- A call has changed what its event is about, and nothing else of the theme. -/
def HasChanged (call : ThemeCall) (s s' : SharedPage) : Prop :=
  (call.event = .rootMutated ∧ s'.page.root ≠ s.page.root ∧
    s'.page.prefersDark = s.page.prefersDark) ∨
  (call.event = .colorSchemeChanged s'.page.prefersDark ∧
    s'.page.prefersDark ≠ s.page.prefersDark ∧ s'.page.root = s.page.root)

end ThemeCall

namespace SharedPage

/-- What calls that may change the theme look at. -/
def themed (s : SharedPage) : RootElement × Bool := (s.page.root, s.page.prefersDark)

theorem page_changeRoot (change : RootElement → RootElement × Bool) (s : SharedPage) :
    (s.changeRoot change).2.page = { s.page with root := (change s.page.root).1 } := by
  cases h : (change s.page.root).2 <;> simp [changeRoot, write, emit, h]

theorem mailboxes_changeRoot (change : RootElement → RootElement × Bool) (s : SharedPage) :
    (s.changeRoot change).2.mailboxes =
      if (s.changeRoot change).1 then (s.emit .rootMutated).mailboxes else s.mailboxes := by
  cases h : (change s.page.root).2 <;> simp [changeRoot, write, emit, h]

theorem page_setPrefersDark (dark : Bool) (s : SharedPage) :
    (s.setPrefersDark dark).2.page = { s.page with prefersDark := dark } := by
  cases h : (s.page.prefersDark != dark) <;> simp [setPrefersDark, write, emit, h]

theorem mailboxes_setPrefersDark (dark : Bool) (s : SharedPage) :
    (s.setPrefersDark dark).2.mailboxes =
      if (s.setPrefersDark dark).1 then (s.emit (.colorSchemeChanged dark)).mailboxes
      else s.mailboxes := by
  cases h : (s.page.prefersDark != dark) <;> simp [setPrefersDark, write, emit, h]

/-- An honest change of the root element changes the theme if it says so. -/
theorem changeRoot_iff {change : RootElement → RootElement × Bool}
    (honest : RootElement.Honest change) (s : SharedPage) :
    ((s.changeRoot change).1 = true ↔ (s.changeRoot change).2.themed ≠ s.themed) ∧
      ((s.changeRoot change).1 = true → (s.changeRoot change).2.page.root ≠ s.page.root ∧
        (s.changeRoot change).2.page.prefersDark = s.page.prefersDark) := by
  have hiff : (s.changeRoot change).1 = true ↔ (change s.page.root).1 ≠ s.page.root :=
    honest s.page.root
  rw [themed, themed, page_changeRoot, hiff, ne_eq, ne_eq, Prod.mk.injEq, and_iff_left rfl]
  exact ⟨.rfl, fun h => ⟨h, rfl⟩⟩

/-- Setting the preferred colour scheme changes it if the call says so. -/
theorem setPrefersDark_iff (dark : Bool) (s : SharedPage) :
    ((s.setPrefersDark dark).1 = true ↔ (s.setPrefersDark dark).2.themed ≠ s.themed) ∧
      ((s.setPrefersDark dark).1 = true →
        (s.setPrefersDark dark).2.page.prefersDark ≠ s.page.prefersDark ∧
        (s.setPrefersDark dark).2.page.root = s.page.root) := by
  have hiff : (s.setPrefersDark dark).1 = true ↔ dark ≠ s.page.prefersDark := by
    simp [setPrefersDark, write, ne_comm]
  rw [themed, themed, page_setPrefersDark, hiff, ne_eq, ne_eq, Prod.mk.injEq, and_iff_right rfl]
  exact ⟨.rfl, fun h => ⟨h, rfl⟩⟩

end SharedPage

namespace ThemeCall

/-- A call tells whether it has changed the theme, and its event what it has changed. -/
theorem hasChanged_iff (call : ThemeCall) (s : SharedPage) :
    ((call.apply s).1 = true ↔ (call.apply s).2.themed ≠ s.themed) ∧
      ((call.apply s).1 = true → call.HasChanged s (call.apply s).2) := by
  cases call with
  | rootClass c on =>
    obtain ⟨hiff, hroot⟩ := SharedPage.changeRoot_iff (RootElement.honest_setClass c on) s
    exact ⟨hiff, fun h => .inl ⟨rfl, hroot h⟩⟩
  | rootAttr name value =>
    obtain ⟨hiff, hroot⟩ := SharedPage.changeRoot_iff (RootElement.honest_setAttr name value) s
    exact ⟨hiff, fun h => .inl ⟨rfl, hroot h⟩⟩
  | prefersDark dark =>
    obtain ⟨hiff, hdark⟩ := SharedPage.setPrefersDark_iff dark s
    refine ⟨hiff, fun h => .inr ⟨?_, hdark h⟩⟩
    exact congrArg (fun p : Page => ThemeEvent.colorSchemeChanged p.prefersDark)
      (SharedPage.page_setPrefersDark dark s).symm

/-- Every observer of a moment is told of a change once, and nobody if there was none. -/
theorem mailboxes_apply (call : ThemeCall) (s : SharedPage) :
    (call.apply s).2.mailboxes =
      if (call.apply s).1 then (s.emit call.event).mailboxes else s.mailboxes := by
  cases call with
  | prefersDark dark => exact SharedPage.mailboxes_setPrefersDark dark s
  | _ => exact SharedPage.mailboxes_changeRoot _ s

/-- A call answers and changes the theme alike on pages that are alike in it. -/
theorem apply_congr (call : ThemeCall) {s t : SharedPage} (h : s.themed = t.themed) :
    (call.apply s).1 = (call.apply t).1 ∧ (call.apply s).2.themed = (call.apply t).2.themed := by
  obtain ⟨hroot, hdark⟩ := Prod.mk.inj h
  cases call with
  | prefersDark dark =>
    simp only [apply, SharedPage.themed, SharedPage.page_setPrefersDark]
    exact ⟨congrArg (· != dark) hdark, by rw [hroot]⟩
  | _ =>
    simp only [apply, SharedPage.setRootClass, SharedPage.setRootAttr, SharedPage.themed,
      SharedPage.page_changeRoot]
    simp only [SharedPage.changeRoot, SharedPage.write, hroot, hdark, and_self]

end ThemeCall

/-! ## Histories of a page -/

namespace SharedPage

/-- Let an observer take the first thing that it was told and has not taken. -/
def receive (i : Nat) (s : SharedPage) : Option ThemeEvent × SharedPage :=
  ((s.pending i).head?,
    { s with mailboxes := s.mailboxes.modify i fun m => { m with pending := m.pending.tail } })

/-- What can happen to a page that has observers. -/
inductive Action where
  | call (c : ThemeCall)
  /-- blocks are changed in one write -/
  | write (es : List Page.Edit)
  | setReady (state : ReadyState)
  | observe
  | receive (i : Nat)
  | takeAll (i : Nat)
  | unobserve (i : Nat)

/-- The page after an action. -/
def run (s : SharedPage) : Action → SharedPage
  | .call c => (c.apply s).2
  | .write es => (s.write fun p => ((), Page.Edit.applyAll es p)).2
  | .setReady state => s.setReady state
  | .observe => s.observe.2
  | .receive i => (s.receive i).2
  | .takeAll i => (s.takeAll i).2
  | .unobserve i => s.unobserve i

/-- The page after one action after another. -/
def after (s : SharedPage) (as : List Action) : SharedPage := as.foldl run s

/-- The event of a call that says it has changed something. -/
def announces (s : SharedPage) : Action → List ThemeEvent
  | .call c => if (c.apply s).1 then [c.event] else []
  | _ => []

/-- The events of a history, one for each call that says it has changed something. -/
def announced (s : SharedPage) : List Action → List ThemeEvent
  | [] => []
  | a :: as => s.announces a ++ (s.run a).announced as

/-- What an observer gets by an action. -/
def gets (i : Nat) (s : SharedPage) : Action → List ThemeEvent
  | .receive j => if j = i then (s.receive j).1.toList else []
  | .takeAll j => if j = i then (s.takeAll j).1 else []
  | _ => []

/-- What an observer gets in a history, in order. -/
def got (i : Nat) (s : SharedPage) : List Action → List ThemeEvent
  | [] => []
  | a :: as => s.gets i a ++ (s.run a).got i as

@[simp] theorem after_cons (s : SharedPage) (a : Action) (as : List Action) :
    s.after (a :: as) = (s.run a).after as := rfl

theorem got_append (i : Nat) (s : SharedPage) (as bs : List Action) :
    s.got i (as ++ bs) = s.got i as ++ (s.after as).got i bs := by
  induction as generalizing s with
  | nil => rfl
  | cons a as ih => rw [List.cons_append, got, got, after_cons, ih, List.append_assoc]

/-! ### The mail of one observer -/

variable {s : SharedPage} {i : Nat} {mail : List ThemeEvent}

theorem pending_eq (h : s.mailboxes[i]? = some ⟨true, mail⟩) : s.pending i = mail := by
  rw [pending, h]

/-- An observer that is still there has mail after it was told something. -/
theorem pending_emit (e : ThemeEvent) (h : s.mailboxes[i]? = some ⟨true, mail⟩) :
    (s.emit e).mailboxes[i]? = some ⟨true, mail ++ [e]⟩ := by
  simp [emit, h]

theorem page_setReady (state : ReadyState) (s : SharedPage) : (s.setReady state).page = s.page := by
  unfold setReady
  split <;> rfl

theorem mailboxes_setReady (state : ReadyState) (s : SharedPage) :
    (s.setReady state).mailboxes = s.mailboxes := by
  unfold setReady
  split <;> rfl

/-- An action puts in the mailbox of an observer what it announces, and takes out what the
observer gets, if that does not stop observing; nobody else's action touches it. -/
theorem mailbox_run (h : s.mailboxes[i]? = some ⟨true, mail⟩) {a : Action}
    (ha : a ≠ .unobserve i) :
    ∃ mail', (s.run a).mailboxes[i]? = some ⟨true, mail'⟩ ∧
      s.gets i a ++ mail' = mail ++ s.announces a := by
  cases a with
  | call c =>
    cases hc : (c.apply s).1 with
    | true =>
      refine ⟨mail ++ [c.event], ?_, by simp [gets, announces, hc]⟩
      rw [run, c.mailboxes_apply, hc]
      exact pending_emit c.event h
    | false =>
      refine ⟨mail, ?_, by simp [gets, announces, hc]⟩
      rw [run, c.mailboxes_apply, hc]
      exact h
  | write es => exact ⟨mail, h, by simp [gets, announces]⟩
  | setReady state =>
    refine ⟨mail, ?_, by simp [gets, announces]⟩
    rw [run, mailboxes_setReady]
    exact h
  | observe =>
    refine ⟨mail, ?_, by simp [gets, announces]⟩
    have hi := (List.getElem?_eq_some_iff.1 h).1
    exact (List.getElem?_append_left hi).trans h
  | receive j =>
    by_cases hj : j = i
    · subst hj
      refine ⟨mail.tail, by simp [run, receive, h], ?_⟩
      cases mail <;> simp [gets, receive, pending_eq h, announces]
    · exact ⟨mail, by simp [run, receive, hj, h], by simp [gets, announces, hj]⟩
  | takeAll j =>
    by_cases hj : j = i
    · subst hj
      exact ⟨[], by simp [run, takeAll, h], by simp [gets, takeAll, pending_eq h, announces]⟩
    · exact ⟨mail, by simp [run, takeAll, hj, h], by simp [gets, announces, hj]⟩
  | unobserve j =>
    have hj : j ≠ i := fun he => ha (he ▸ rfl)
    exact ⟨mail, by simp [run, unobserve, hj, h], by simp [gets, announces]⟩

/-- What an observer has got in a history and what it may still get is what it might have
got at first and what was announced since. -/
theorem mailbox_after (h : s.mailboxes[i]? = some ⟨true, mail⟩) {as : List Action}
    (has : .unobserve i ∉ as) :
    ∃ mail', (s.after as).mailboxes[i]? = some ⟨true, mail'⟩ ∧
      s.got i as ++ mail' = mail ++ s.announced as := by
  induction as generalizing s mail with
  | nil => exact ⟨mail, h, by simp [got, announced]⟩
  | cons a as ih =>
    obtain ⟨mid, hmid, hstep⟩ := mailbox_run h (a := a) fun he => has (he ▸ List.mem_cons_self)
    obtain ⟨mail', hmail', hrest⟩ := ih hmid fun he => has (List.mem_cons_of_mem a he)
    refine ⟨mail', hmail', ?_⟩
    calc s.got i (a :: as) ++ mail'
        = s.gets i a ++ ((s.run a).got i as ++ mail') := List.append_assoc _ _ _
      _ = (s.gets i a ++ mid) ++ (s.run a).announced as := by rw [hrest, List.append_assoc]
      _ = mail ++ (s.announces a ++ (s.run a).announced as) := by rw [hstep, List.append_assoc]

/-! ### What is announced -/

/-- Whether an action is a call that may change the theme. -/
def Action.isCall : Action → Bool
  | call _ => true
  | _ => false

/-- Only calls change the theme. -/
theorem themed_run {a : Action} (ha : a.isCall = false) : (s.run a).themed = s.themed := by
  cases a with
  | call c => cases ha
  | write es =>
    obtain ⟨hroot, hdark, -⟩ := Page.sameFrame_applyAll es s.page
    exact Prod.ext hroot hdark
  | setReady state => rw [run, themed, page_setReady, themed]
  | _ => rfl

/-- What is announced depends on the theme of the page and on the calls only. -/
theorem announced_filter {t : SharedPage} (h : t.themed = s.themed) (as : List Action) :
    t.announced (as.filter Action.isCall) = s.announced as := by
  induction as generalizing s t with
  | nil => rfl
  | cons a as ih =>
    cases ha : a.isCall with
    | false =>
      have hsilent : s.announces a = [] := by
        cases a with
        | call c => cases ha
        | _ => rfl
      rw [List.filter_cons_of_neg (by simp [ha]), announced, hsilent, List.nil_append]
      exact ih (h.trans (themed_run ha).symm)
    | true =>
      cases a with
      | call c =>
        obtain ⟨hsame, hthemed⟩ := c.apply_congr h
        have hrest := ih (s := s.run (.call c)) (t := t.run (.call c)) hthemed
        rw [List.filter_cons_of_pos ha, announced, announced, hrest]
        simp only [announces, hsame]
      | _ => cases ha

/-! ### Senders -/

/-- Send something to the observers with these numbers, one after another; those that are
gone are struck off. -/
def deliver (e : ThemeEvent) : List Nat → SharedPage → List Nat × SharedPage
  | [], s => ([], s)
  | i :: senders, s =>
    match s.mailboxes[i]? with
    | some ⟨true, mail⟩ =>
      let told := { s with mailboxes := s.mailboxes.set i ⟨true, mail ++ [e]⟩ }
      let (kept, s) := deliver e senders told
      (i :: kept, s)
    | _ => deliver e senders s

/-- The numbers of the observers that things are sent to, after an action. -/
def serve (senders : List Nat) (s : SharedPage) : Action → List Nat
  | .observe => senders ++ [s.mailboxes.length]
  | .call c => if (c.apply s).1 then (deliver c.event senders s).1 else senders
  | _ => senders

/-- These are the numbers of all observers that are still there, once each, and maybe of
some that are gone. -/
structure IsServed (senders : List Nat) (s : SharedPage) : Prop where
  nodup : senders.Nodup
  known : ∀ i ∈ senders, i < s.mailboxes.length
  all : ∀ i mail, s.mailboxes[i]? = some ⟨true, mail⟩ → i ∈ senders

theorem emit_of_gone (e : ThemeEvent) (h : ∀ mail, s.mailboxes[i]? ≠ some ⟨true, mail⟩) :
    (s.emit e).mailboxes[i]? = s.mailboxes[i]? := by
  cases hm : s.mailboxes[i]? with
  | none => simp [emit, hm]
  | some m =>
    obtain ⟨alive, mail⟩ := m
    cases alive with
    | true => exact absurd hm (h mail)
    | false => simp [emit, hm]

theorem length_observe (s : SharedPage) :
    s.observe.2.mailboxes.length = s.mailboxes.length + 1 := List.length_append

theorem length_run {a : Action} (ha : a ≠ .observe) :
    (s.run a).mailboxes.length = s.mailboxes.length := by
  cases a with
  | call c =>
    rw [run, c.mailboxes_apply]
    split
    · simp [emit]
    · rfl
  | setReady state => rw [run, mailboxes_setReady]
  | observe => exact absurd rfl ha
  | write es => rfl
  | _ => simp [run, receive, takeAll, unobserve]

/-- No observer comes back that is gone. -/
theorem alive_of_run {a : Action} (ha : a ≠ .observe) {mail' : List ThemeEvent}
    (h : (s.run a).mailboxes[i]? = some ⟨true, mail'⟩) :
    ∃ mail, s.mailboxes[i]? = some ⟨true, mail⟩ := by
  have modified : ∀ {j : Nat} {f : Mailbox → Mailbox}, (∀ m, (f m).alive = true → m.alive = true) →
      (s.mailboxes.modify j f)[i]? = some ⟨true, mail'⟩ →
      ∃ mail, s.mailboxes[i]? = some ⟨true, mail⟩ := by
    intro j f hf hi
    rw [List.getElem?_modify] at hi
    cases hm : s.mailboxes[i]? with
    | none => simp [hm] at hi
    | some m =>
      obtain ⟨alive, mail⟩ := m
      rw [hm] at hi
      have halive : alive = true := by
        by_cases hj : j = i
        · exact hf ⟨alive, mail⟩ (by simpa [hj] using congrArg (Option.map Mailbox.alive) hi)
        · simpa [hj] using congrArg (Option.map Mailbox.alive) hi
      exact ⟨mail, by rw [halive]⟩
  cases a with
  | call c =>
    by_contra hgone
    rw [run, c.mailboxes_apply] at h
    split at h
    · rw [emit_of_gone c.event fun mail hm => hgone ⟨mail, hm⟩] at h
      exact hgone ⟨mail', h⟩
    · exact hgone ⟨mail', h⟩
  | write es => exact ⟨mail', h⟩
  | setReady state =>
    rw [run, mailboxes_setReady] at h
    exact ⟨mail', h⟩
  | observe => exact absurd rfl ha
  | receive j =>
    exact modified (f := fun m => { m with pending := m.pending.tail }) (fun _ hm => hm) h
  | takeAll j => exact modified (f := fun m => { m with pending := [] }) (fun _ hm => hm) h
  | unobserve j => exact modified (f := fun _ => ⟨false, []⟩) (fun _ hm => by cases hm) h

/-- What is sent changes one mailbox after another, and those that are gone not at all. -/
theorem mailboxes_deliver (e : ThemeEvent) {senders : List Nat} (hn : senders.Nodup)
    (s : SharedPage) (i : Nat) :
    (deliver e senders s).2.mailboxes[i]? =
      if i ∈ senders then (s.emit e).mailboxes[i]? else s.mailboxes[i]? := by
  induction senders generalizing s with
  | nil => rfl
  | cons j senders ih =>
    obtain ⟨hj, hn⟩ := List.nodup_cons.1 hn
    unfold deliver
    split
    · next mail hmail =>
      rw [ih hn]
      by_cases hij : i = j
      · subst hij
        rw [if_neg hj, if_pos List.mem_cons_self, pending_emit e hmail]
        exact List.getElem?_set_self (List.getElem?_eq_some_iff.1 hmail).1
      · simp only [List.mem_cons, hij, false_or, emit, List.getElem?_map,
          List.getElem?_set_ne (Ne.symm hij)]
    · next hgone =>
      rw [ih hn]
      by_cases hij : i = j
      · subst hij
        rw [if_neg hj, if_pos List.mem_cons_self]
        exact (emit_of_gone e hgone).symm
      · simp only [List.mem_cons, hij, false_or]

theorem mem_deliver {e : ThemeEvent} {senders : List Nat} (hn : senders.Nodup) {s : SharedPage} :
    (deliver e senders s).1.Sublist senders ∧
      ∀ i ∈ senders, ∀ mail, s.mailboxes[i]? = some ⟨true, mail⟩ → i ∈ (deliver e senders s).1 := by
  induction senders generalizing s with
  | nil => exact ⟨.slnil, fun i hi => by cases hi⟩
  | cons j senders ih =>
    obtain ⟨hj, hn⟩ := List.nodup_cons.1 hn
    unfold deliver
    split
    · next mail hmail =>
      obtain ⟨hsub, hkept⟩ := ih hn (s := { s with
        mailboxes := s.mailboxes.set j ⟨true, mail ++ [e]⟩ })
      refine ⟨hsub.cons_cons j, fun i hi mail' hi' => ?_⟩
      rcases List.mem_cons.1 hi with rfl | hi
      · exact List.mem_cons_self
      · have hne : j ≠ i := fun he => hj (he ▸ hi)
        refine List.mem_cons_of_mem j (hkept i hi mail' ?_)
        rw [List.getElem?_set_ne hne]
        exact hi'
    · next hgone =>
      obtain ⟨hsub, hkept⟩ := ih hn (s := s)
      refine ⟨hsub.cons j, fun i hi mail' hi' => ?_⟩
      rcases List.mem_cons.1 hi with rfl | hi
      · exact absurd hi' (hgone mail')
      · exact hkept i hi mail' hi'

/-- Sending to a list that has all observers tells them as if there were no list. -/
theorem deliver_eq_emit {senders : List Nat} (h : IsServed senders s) (e : ThemeEvent) :
    (deliver e senders s).2.mailboxes = (s.emit e).mailboxes := by
  refine List.ext_getElem? fun i => ?_
  rw [mailboxes_deliver e h.nodup]
  split
  · rfl
  · next hi => exact (emit_of_gone e fun mail hm => hi (h.all i mail hm)).symm

theorem IsServed.observe {senders : List Nat} (h : IsServed senders s) :
    IsServed (senders ++ [s.observe.1]) s.observe.2 where
  nodup := by
    refine List.nodup_append.2 ⟨h.nodup, List.nodup_singleton _, ?_⟩
    intro i hi j hj
    rw [List.mem_singleton.1 hj]
    exact Nat.ne_of_lt (h.known i hi)
  known i hi := by
    rw [length_observe]
    rcases List.mem_append.1 hi with hi | hi
    · exact Nat.lt_succ_of_lt (h.known i hi)
    · rw [List.mem_singleton.1 hi]
      exact Nat.lt_succ_self _
  all i mail hi := by
    rcases Nat.lt_or_ge i s.mailboxes.length with hlt | hge
    · have hold : s.observe.2.mailboxes[i]? = s.mailboxes[i]? := List.getElem?_append_left hlt
      exact List.mem_append_left _ (h.all i mail (hold ▸ hi))
    · have hlt := (List.getElem?_eq_some_iff.1 hi).1
      rw [length_observe] at hlt
      have hnew : i = s.observe.1 := Nat.le_antisymm (Nat.le_of_lt_succ hlt) hge
      rw [hnew]
      exact List.mem_append_right _ List.mem_cons_self

theorem IsServed.run {senders : List Nat} (h : IsServed senders s) (a : Action) :
    IsServed (serve senders s a) (s.run a) := by
  by_cases ha : a = .observe
  · subst ha
    exact h.observe
  · have hsub : (serve senders s a).Sublist senders ∧
        ∀ i ∈ senders, ∀ mail, s.mailboxes[i]? = some ⟨true, mail⟩ → i ∈ serve senders s a := by
      cases a with
      | observe => exact absurd rfl ha
      | call c =>
        simp only [serve]
        split
        · exact mem_deliver h.nodup
        · exact ⟨.refl _, fun i hi _ _ => hi⟩
      | _ => exact ⟨.refl _, fun i hi _ _ => hi⟩
    refine ⟨h.nodup.sublist hsub.1, fun i hi => ?_, fun i mail' hi => ?_⟩
    · rw [length_run ha]
      exact h.known i (hsub.1.subset hi)
    · obtain ⟨mail, hmail⟩ := alive_of_run ha hi
      exact hsub.2 i (h.all i mail hmail) mail hmail

/-- The list of senders after a history. -/
def serveAll (senders : List Nat) (s : SharedPage) : List Action → List Nat
  | [] => senders
  | a :: as => serveAll (serve senders s a) (s.run a) as

theorem IsServed.after {senders : List Nat} (h : IsServed senders s) (as : List Action) :
    IsServed (serveAll senders s as) (s.after as) := by
  induction as generalizing senders s with
  | nil => exact h
  | cons a as ih => exact ih (h.run a)

/-- A page that nobody observes sends to nobody. -/
theorem isServed_ofPage (p : Page) : IsServed [] (ofPage p) where
  nodup := .nil
  known := nofun
  all := nofun

/-- What observers are told of the theme.  A call says that it has changed something if and
only if the root element or the preferred colour scheme is not what it was, and its event
tells which one.  From then on when somebody begins to observe a page, in any history in
which it does not stop, what it has got and what it may still get are the events of the calls
that said so, once each and in order; it gets all of them if it takes them all in the end.
These are the same whatever else happens in the history, and to whichever page with this
root element and preferred colour scheme.  And it does not matter whether an event is told to
everybody or sent to a list of observers from which those that are gone are struck off by
sending. -/
theorem told_every_change_once (s : SharedPage) :
    (∀ call : ThemeCall,
      ((call.apply s).1 = true ↔ (call.apply s).2.themed ≠ s.themed) ∧
      ((call.apply s).1 = true → call.HasChanged s (call.apply s).2)) ∧
    (∀ as : List Action,
      let i := s.observe.1
      let s' := s.observe.2
      .unobserve i ∉ as →
        s'.got i as ++ (s'.after as).pending i = s'.announced as ∧
        s'.got i (as ++ [.takeAll i]) = s'.announced as) ∧
    (∀ (t : SharedPage) (as : List Action), t.themed = s.themed →
      t.announced (as.filter Action.isCall) = s.announced as) ∧
    ∀ senders : List Nat, IsServed senders s → ∀ (as : List Action) (e : ThemeEvent),
      IsServed (serveAll senders s as) (s.after as) ∧
        (deliver e (serveAll senders s as) (s.after as)).2.mailboxes =
          ((s.after as).emit e).mailboxes := by
  refine ⟨fun call => call.hasChanged_iff s, ?_, fun t as h => announced_filter h as,
    fun senders h as e => ⟨h.after as, deliver_eq_emit (h.after as) e⟩⟩
  intro as i s' has
  have hnew : s'.mailboxes[i]? = some ⟨true, []⟩ := List.getElem?_concat_length
  obtain ⟨mail, hmail, hall⟩ := mailbox_after hnew has
  rw [got_append, pending_eq hmail]
  refine ⟨hall, ?_⟩
  rw [got, got, List.append_nil, gets, if_pos rfl, takeAll, pending_eq hmail]
  exact hall

/-- A root element that has a class and an attribute twice, and two observers, of which the
first one stops observing. -/
theorem told_every_change_once_twoObservers :
    let root : RootElement := ⟨["navy".toList, "navy".toList],
      [("data-theme".toList, "coal".toList), ("data-theme".toList, "ayu".toList)]⟩
    let s := (ofPage { Page.empty with root := root }).observe.2
    let as : List Action := [.call (.rootClass "navy".toList false), .unobserve 0,
      .call (.rootClass "navy".toList false), .receive 1,
      .call (.rootAttr "data-theme".toList none),
      .call (.rootAttr "data-theme".toList "ayu".toList),
      .call (.prefersDark true), .call (.prefersDark true)]
    let events : List ThemeEvent := [.rootMutated, .rootMutated, .colorSchemeChanged true]
    s.observe.1 = 1 ∧ .unobserve 1 ∉ as ∧
    (ThemeCall.rootClass "navy".toList false).HasChanged s
      ((ThemeCall.rootClass "navy".toList false).apply s).2 ∧
    s.observe.2.got 1 (as ++ [.takeAll 1]) = events ∧
    s.observe.2.got 1 as ++ (s.observe.2.after as).pending 1 = events ∧
    s.announced (as.filter Action.isCall) = events ∧
    IsServed [0] s ∧
    (deliver .rootMutated (serveAll [0] s as) (s.after as)).2.mailboxes =
      ((s.after as).emit .rootMutated).mailboxes := by
  intro root s as events
  have hstays : .unobserve 1 ∉ as := by simp [as]
  have hevents : s.observe.2.announced as = events := by decide +kernel
  have hfirst : ((ThemeCall.rootClass "navy".toList false).apply s).1 = true := by decide +kernel
  have hserved : IsServed [0] s := (isServed_ofPage _).observe
  obtain ⟨hcalls, htold, -, hsent⟩ := told_every_change_once s
  obtain ⟨hall, hend⟩ := htold as hstays
  obtain ⟨-, -, halike, -⟩ := told_every_change_once s.observe.2
  exact ⟨rfl, hstays, (hcalls _).2 hfirst, hend.trans hevents, hall.trans hevents,
    (halike s as rfl).trans hevents, hserved, (hsent [0] hserved as _).2⟩

end SharedPage

end PageHighlight
