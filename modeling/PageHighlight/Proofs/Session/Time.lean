/-
  Proofs/Session/Time.lean --- what the clock of a session shows.

  WHAT THIS FILE IS FOR.  Activities look at the clock, to see whether what they wait for
  is over, and set deadlines by it; none of them turns it.  `now_undergo` says that time
  passes only where it is let pass, and never goes back.
-/
import PageHighlight.Proofs.Session.Happenings

set_option autoImplicit false

namespace PageHighlight

theorem World.Ticketed.now {w w' : World} (h : w.Ticketed w') : w'.now = w.now := by
  obtain ⟨n, rfl⟩ := h
  rfl

/-! ## Steps -/

theorem Render.Acts.now {r : Render} {w w' : World} (h : r.Acts w w') : w'.now = w.now := by
  cases h <;> rfl

theorem Cycle.now_step (s : Setting) (part : Nat) (w : World) (c : Cycle) :
    (c.step s part w).1.now = w.now := by
  have hacts := c.acts s part w
  generalize (c.step s part w).1 = w' at hacts ⊢
  cases hacts with
  | renders r mem => exact (r.acts s w).now
  | _ => rfl

theorem Copying.now_step (s : Setting) (w : World) (c : Copying) : (c.step s w).1.now = w.now := by
  unfold step
  split
  · split <;> rfl
  all_goals rfl

theorem Activity.now_step (s : Setting) (part : Nat) (w : World) (a : Activity) :
    (a.step s part w).1.now = w.now := by
  have hstep := stepped s part w a
  generalize (a.step s part w).1 = w' at hstep ⊢
  generalize (a.step s part w).2 = a' at hstep
  cases hstep with
  | quiet world same noRender => exact world.now
  | begins world before after old new noRender => exact world.now
  | render r is => exact (r.acts s w).now
  | cycle c part' world replaced noRender => exact world.now.trans (c.now_step s part' w)
  | restores is world old new noRender => exact world.now
  | takes observer ticket is new noRender => rfl
  | copies c is => exact c.now_step s w

/-! ## Giving up -/

theorem Render.now_giveUp (s : Setting) (w : World) (r : Render) : (r.giveUp s w).now = w.now := by
  unfold giveUp
  split <;> rfl

theorem Cycle.now_giveUp (s : Setting) (w : World) (c : Cycle) : (c.giveUp s w).now = w.now := by
  have renders : ∀ (rs : List Render) (w : World),
      (rs.foldl (fun w r => r.giveUp s w) w).now = w.now := by
    intro rs
    induction rs with
    | nil => exact fun w => rfl
    | cons r rs ih => exact fun w => (ih (r.giveUp s w)).trans (r.now_giveUp s w)
  rw [giveUp_eq]
  split <;> exact renders c.renders w

theorem Activity.now_giveUp (s : Setting) (w : World) (a : Activity) :
    (a.giveUp s w).now = w.now := by
  have reaction : ∀ r : Reaction, (r.giveUp s w).now = w.now := by
    intro r
    cases r with
    | cycling c => exact c.now_giveUp s w
    | _ => rfl
  have triggers : ∀ (ts : List Trigger) (w : World),
      (ts.foldl (Trigger.giveUp s) w).now = w.now := by
    intro ts
    induction ts with
    | nil => exact fun w => rfl
    | cons t ts ih =>
      intro w
      refine (ih (t.giveUp s w)).trans ?_
      cases t with
      | cycling c => exact c.now_giveUp s w
      | _ => rfl
  cases a with
  | render r => exact r.now_giveUp s w
  | cycle c => exact c.now_giveUp s w
  | reaction r => exact reaction r
  | reactor r =>
    cases r with
    | listening i ticket => rfl
    | reacting i r => exact reaction r
  | triggers t =>
    cases t with
    | start => rfl
    | waiting ts => exact triggers ts w
  | _ => rfl

/-! ## Happenings -/

/-- The time that a happening lets it be, if it lets time pass. -/
def Happening.time? : Happening → Option Nat
  | .event (.passTo now) => some now
  | _ => none

namespace Session

/-- Only letting time pass changes what the clock shows, and it never goes back. -/
theorem now_undergo (S : Session) (x : Happening) :
    (S.undergo x).world.now = max (x.time?.getD 0) S.world.now := by
  have same : ∀ {w : World}, w.now = S.world.now → x.time? = none →
      w.now = max (x.time?.getD 0) S.world.now := by
    intro w hw hx
    rw [hw, hx]
    exact (Nat.zero_max _).symm
  cases x with
  | restore id => exact same rfl rfl
  | event e =>
    cases e with
    | passTo now => rfl
    | call c =>
      refine same (w := (c.make S.world).2) ?_ rfl
      cases c <;> rfl
    | proceed task part =>
      rcases S.proceed_cases task part with he | ⟨t, -, -, he⟩
      · exact same (congrArg (·.world.now) he) rfl
      · exact same ((congrArg (·.world.now) he).trans
          (t.activity.now_step S.setting part S.world)) rfl
    | giveUp task =>
      rcases S.giveUp_cases task with he | ⟨t, -, -, he⟩
      · exact same (congrArg (·.world.now) he) rfl
      · exact same ((congrArg (·.world.now) he).trans
          (t.activity.now_giveUp S.setting S.world)) rfl
    | _ => exact same rfl rfl

theorem now_le_undergo (S : Session) (x : Happening) :
    S.world.now ≤ (S.undergo x).world.now := by
  rw [now_undergo]
  exact Nat.le_max_right _ _

end Session

end PageHighlight
