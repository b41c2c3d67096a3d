/-
  Proofs/Session/History.lean --- what can happen to a session, one event after
  another.

  WHAT THIS FILE IS FOR.  An `Event` is one thing that can happen: something is
  begun, one part of an activity takes a step, an engine is there, time passes, the
  page is changed from outside, an activity is given up.  A history is a list of
  events, in any order whatsoever, and `Session.after` is the session after it.  A
  statement about every history is a statement about every interleaving; the
  deterministic clock of `Session/Clock` takes one of them.
-/
import PageHighlight.Session.Basic

set_option autoImplicit false

namespace PageHighlight

/-! ## Events -/

/-- What can be begun in a session. -/
inductive Call where
  /-- one block is rendered with a theme -/
  | render (id : NodeId) (theme : Text)
  | cycle
  /-- one change of the theme is reacted to -/
  | reaction
  /-- changes of the theme are reacted to from now on -/
  | watch
  | copying (id : NodeId) (faults : ClipboardFaults)
  | triggers
  /-- somebody waits until no cycle is running -/
  | idle
  /-- somebody waits for some time -/
  | sleep (duration : Nat)

/-- What is begun, as an activity. -/
def Call.make : Call → World → Activity × World
  | render id theme, w => (.render (Render.of id theme), w)
  | cycle, w => (.cycle .start, w)
  | reaction, w => (.reaction .restore, w)
  | watch, w => Activity.watch w
  | copying id faults, w => (.copying (Copying.of id faults), w)
  | triggers, w => (.triggers .start, w)
  | idle, w => Activity.await .idle w
  | sleep duration, w => Activity.await (.time (w.now + duration)) w

/-- One thing that can happen to a session. -/
inductive Event where
  | call (c : Call)
  /-- a part of an activity takes a step, if it can go on -/
  | proceed (task part : Nat)
  /-- the engine that is being built is there -/
  | arrive
  | openGate
  | passTo (now : Nat)
  | giveUp (task : Nat)
  /-- every rendered block is put back, by somebody outside -/
  | restoreAll
  | setRootClass (c : Text) (on : Bool)
  | setRootAttr (name : Text) (value : Option Text)
  | setPrefersDark (dark : Bool)
  | setReady (state : ReadyState)

namespace Session

/-- The session after an event. -/
def apply (s : Session) : Event → Session
  | .call c => (s.beginWith c.make).2
  | .proceed task part => s.proceed task part
  | .arrive => s.arrive
  | .openGate => s.openGate
  | .passTo now => s.passTo now
  | .giveUp task => s.giveUp task
  | .restoreAll => (s.change SharedPage.restoreAll).2
  | .setRootClass c on => (s.change (SharedPage.setRootClass c on)).2
  | .setRootAttr name value => (s.change (SharedPage.setRootAttr name value)).2
  | .setPrefersDark dark => (s.change (SharedPage.setPrefersDark dark)).2
  | .setReady state => (s.change fun shared => ((), shared.setReady state)).2

/-- The session after a history. -/
def after (s : Session) (es : List Event) : Session := es.foldl apply s

@[simp] theorem after_nil (s : Session) : s.after [] = s := rfl

@[simp] theorem after_cons (s : Session) (e : Event) (es : List Event) :
    s.after (e :: es) = (s.apply e).after es := rfl

theorem after_append (s : Session) (es es' : List Event) :
    s.after (es ++ es') = (s.after es).after es' := List.foldl_append

theorem after_snoc (s : Session) (es : List Event) (e : Event) :
    s.after (es ++ [e]) = (s.after es).apply e := after_append s es [e]

/-- A step of a part of an activity, said of the activity. -/
theorem proceed_cases (s : Session) (task part : Nat) :
    s.proceed task part = s ∨
      ∃ t, s.tasks[task]? = some t ∧ t.givenUp = false ∧
        s.proceed task part =
          { s with
            world := (t.activity.step s.setting part s.world).1
            tasks := s.tasks.set task
              { t with activity := (t.activity.step s.setting part s.world).2 } } := by
  unfold proceed
  cases ht : s.tasks[task]? with
  | none => exact .inl rfl
  | some t =>
    simp only
    split
    · next hm =>
      refine .inr ⟨t, rfl, ?_, rfl⟩
      cases hg : t.givenUp with
      | false => rfl
      | true => simp [movable, Task.isLive, hg] at hm
    · exact .inl rfl

/-- Giving an activity up, said of the activity. -/
theorem giveUp_cases (s : Session) (task : Nat) :
    s.giveUp task = s ∨
      ∃ t, s.tasks[task]? = some t ∧ t.givenUp = false ∧
        s.giveUp task =
          { s with
            world := t.activity.giveUp s.setting s.world
            tasks := s.tasks.set task { t with givenUp := true } } := by
  unfold giveUp
  cases ht : s.tasks[task]? with
  | none => exact .inl rfl
  | some t =>
    simp only
    split
    · next hl =>
      refine .inr ⟨t, rfl, ?_, rfl⟩
      simp only [Task.isLive, Bool.and_eq_true, Bool.not_eq_true'] at hl
      exact hl.1
    · exact .inl rfl

@[simp] theorem setting_apply (s : Session) (e : Event) : (s.apply e).setting = s.setting := by
  cases e with
  | proceed task part =>
    rcases proceed_cases s task part with h | ⟨t, -, -, h⟩ <;> simp only [apply, h]
  | giveUp task => rcases giveUp_cases s task with h | ⟨t, -, -, h⟩ <;> simp only [apply, h]
  | _ => rfl

@[simp] theorem setting_after (s : Session) (es : List Event) :
    (s.after es).setting = s.setting := by
  induction es generalizing s with
  | nil => rfl
  | cons e es ih => rw [after_cons, ih, setting_apply]

end Session

/-! ## A session to look at -/

/-- A configuration for Rust code only. -/
def Config.forRust : Config := { Config.standard [] with languages := ["rust".toList] }

/-- The key of the engines for Rust code. -/
def EngineKey.forRust : EngineKey :=
  ⟨["gruvbox-dark".toList, "gruvbox-light".toList], ["rust".toList],
    ⟨true, ["glint".toList, "grammars".toList]⟩⟩

theorem mergeSort_pair {α : Type} (le : α → α → Bool) (a b : α) :
    [a, b].mergeSort le = if le a b then [a, b] else [b, a] := by
  have hsplit : List.MergeSort.Internal.splitInTwo
      (⟨[a, b], rfl⟩ : { l : List α // l.length = 2 }) = (⟨[a], rfl⟩, ⟨[b], rfl⟩) := rfl
  rw [List.mergeSort, hsplit, List.mergeSort_singleton, List.mergeSort_singleton, List.merge]
  simp

theorem EngineKey.ofConfig_forRust : EngineKey.ofConfig .forRust = .forRust := by
  have hthemes : Config.forRust.themesToLoad =
      ["gruvbox-light".toList, "gruvbox-dark".toList] := by decide +kernel
  have hsorted : Text.sort ["gruvbox-light".toList, "gruvbox-dark".toList] =
      ["gruvbox-dark".toList, "gruvbox-light".toList] := by
    rw [Text.sort, mergeSort_pair]
    rfl
  have hlanguages : Text.distinct Config.forRust.languages = ["rust".toList] := by decide +kernel
  have hsource : FilePath.steps Config.forRust.engineSource =
      ⟨true, ["glint".toList, "grammars".toList]⟩ := by decide +kernel
  rw [EngineKey.ofConfig, hthemes, hsorted, hlanguages, hsource]
  exact congrArg (EngineKey.mk _ · _) (List.mergeSort_singleton _)

/-- The setting of a session with Rust code only. -/
def Setting.forRust (loader : Loader) : Setting :=
  ⟨.forRust, loader, .forRust, [], EngineKey.ofConfig_forRust.symm, rfl⟩

/-- A page with one block of Rust code. -/
def Page.oneBlock : Page := (Page.empty.addBlock ["language-rust".toList] "let x = 1;".toList).2

/-- A history in which a cycle runs to its end, if engines are there at once. -/
def Session.oneCycle : List Event := .call .cycle :: List.replicate 10 (.proceed 0 0)

end PageHighlight
