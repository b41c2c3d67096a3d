/-
  Proofs/Session/Happenings.lean --- histories in which single blocks are put back, too.

  WHAT THIS FILE IS FOR.  The events of a session put every rendered block back or none.
  Somebody outside may also put back one block by its number; a `Happening` is an event or
  that.  What every event keeps of a session with a fresh page (`Session.IsSound`), and the
  marks on its blocks (`Session.Marked`), are kept by every happening.
-/
import PageHighlight.Proofs.Session.AtWork

set_option autoImplicit false

namespace PageHighlight

/-- One thing that can happen to a session, or to one block of its page. -/
inductive Happening where
  | event (e : Event)
  /-- the block with a number is put back, by somebody outside -/
  | restore (id : NodeId)

namespace Session

/-! ## Histories of happenings -/

/-- Put back the block with a number. -/
def restore (id : NodeId) (S : Session) : Session :=
  (S.change (SharedPage.write (Page.restore id))).2

/-- The session after a happening. -/
def undergo (S : Session) : Happening → Session
  | .event e => S.apply e
  | .restore id => S.restore id

/-- The session after one happening after another. -/
def undergoAll (S : Session) (hs : List Happening) : Session := hs.foldl undergo S

@[simp] theorem undergoAll_nil (S : Session) : S.undergoAll [] = S := rfl

@[simp] theorem undergoAll_cons (S : Session) (h : Happening) (hs : List Happening) :
    S.undergoAll (h :: hs) = (S.undergo h).undergoAll hs := rfl

theorem undergoAll_append (S : Session) (hs hs' : List Happening) :
    S.undergoAll (hs ++ hs') = (S.undergoAll hs).undergoAll hs' := List.foldl_append

theorem undergoAll_snoc (S : Session) (hs : List Happening) (h : Happening) :
    S.undergoAll (hs ++ [h]) = (S.undergoAll hs).undergo h := undergoAll_append S hs [h]

/-- A history of events is one of happenings. -/
theorem undergoAll_map_event (S : Session) (es : List Event) :
    S.undergoAll (es.map .event) = S.after es := by
  rw [undergoAll, List.foldl_map]
  rfl

/-- A happening gives up no cycle that is at work. -/
def SparesCycles (S : Session) : Happening → Prop
  | .event e => S.Spares e
  | .restore _ => True

/-- In a history of happenings, no cycle is given up while it is at work. -/
def KeepsCycles (S : Session) (hs : List Happening) : Prop :=
  ∀ before h after, hs = before ++ h :: after → (S.undergoAll before).SparesCycles h

variable {s : Setting} {first : Page} {S : Session}

theorem KeepsCycles.of_append {hs hs' : List Happening} (h : S.KeepsCycles (hs ++ hs')) :
    S.KeepsCycles hs := by
  rintro before x after rfl
  exact h before x (after ++ hs') (by rw [List.append_assoc, List.cons_append])

/-- A history without giving up keeps every cycle. -/
theorem keepsCycles_of_ne {hs : List Happening} (h : ∀ task, .event (.giveUp task) ∉ hs) :
    S.KeepsCycles hs := by
  rintro before x after rfl
  cases x with
  | event e =>
    rintro task t rfl
    exact absurd (List.mem_append_right before List.mem_cons_self) (h task)
  | restore id => trivial

end Session

/-! ## What they keep -/

namespace Pact

variable {s : Setting} {k : Pact s}

/-- A pact that putting back one block keeps too. -/
def KeptWhenPutBack (k : Pact s) : Prop :=
  ∀ (id : NodeId) {w : World}, k.inv w → k.Allows w (w.write (·.restore id)).2

theorem keptWhenPutBack_faithful (s : Setting) (first : Page) :
    (faithful s first).KeptWhenPutBack :=
  fun id _ hw => hw.edit (e := .restore id) trivial rfl rfl

theorem keptWhenPutBack_found (s : Setting) : (found s).KeptWhenPutBack := by
  intro id w hw
  have hedited : w.page.Edited (w.write (·.restore id)).2.page := .apply (.restore id) w.page
  exact ⟨hedited.isNumbered hw, hedited.evolves⟩

/-- A happening that a pact provides for is within it. -/
theorem Kept.undergo (hk : k.Kept) (hback : k.KeptWhenPutBack) {S : Session} (h : k.OfSession S)
    {x : Happening} (hadmits : ∀ e, x = .event e → k.Admits e) :
    k.OfSession (S.undergo x) ∧ k.rely S.world (S.undergo x).world := by
  cases x with
  | event e => exact hk.apply h (hadmits e rfl)
  | restore id => exact hk.ofSession_change h (hback id h.inv)

theorem Kept.undergoAll (hk : k.Kept) (hback : k.KeptWhenPutBack) {S : Session}
    (h : k.OfSession S) {xs : List Happening} (hadmits : ∀ e, .event e ∈ xs → k.Admits e) :
    k.OfSession (S.undergoAll xs) := by
  induction xs generalizing S with
  | nil => exact h
  | cons x xs ih =>
    have hx : k.OfSession (S.undergo x) :=
      (hk.undergo hback h fun e he => hadmits e (he ▸ List.mem_cons_self)).1
    exact ih hx fun e he => hadmits e (List.mem_cons_of_mem x he)

end Pact

namespace Session

variable {s : Setting} {first p : Page} {S : Session}

/-- Every happening keeps what every event keeps. -/
theorem IsSound.undergo (hS : S.IsSound s first) (h : Happening) :
    (S.undergo h).IsSound s first where
  faithful := ((Pact.kept_faithful s first).undergo (Pact.keptWhenPutBack_faithful s first)
    hS.faithful fun e _ => admits_faithful s first e).1
  found := ((Pact.kept_found s).undergo (Pact.keptWhenPutBack_found s) hS.found
    fun e _ => Pact.admits_found s e).1
  single := by
    cases h with
    | event e => exact singleFlight_apply hS.single e
    | restore id => exact hS.single

theorem IsSound.undergoAll (hS : S.IsSound s first) (hs : List Happening) :
    (S.undergoAll hs).IsSound s first := by
  induction hs generalizing S with
  | nil => exact hS
  | cons h hs ih => exact ih (hS.undergo h)

theorem IsSound.numbered (hS : S.IsSound s first) : S.page.IsNumbered := hS.faithful.inv.numbered

/-- A happening lets the blocks evolve. -/
theorem IsSound.evolves_undergo (hS : S.IsSound s first) (h : Happening) :
    S.page.Evolves (S.undergo h).page :=
  ((Pact.kept_faithful s first).undergo (Pact.keptWhenPutBack_faithful s first) hS.faithful
    fun e _ => admits_faithful s first e).2

/-- What cycles render, in a session with a fresh page. -/
theorem rendering_undergoAll (hp : p.IsFresh) (hs : List Happening) :
    (Pact.rendering s).OfSession ((start s p).undergoAll hs) := by
  have hstart : (Pact.rendering s).OfSession (start s p) :=
    ⟨rfl, hp.numbered, fun t ht => by cases ht⟩
  exact (Pact.kept_rendering s).undergoAll (Pact.keptWhenPutBack_found s) hstart
    fun e _ => (Pact.admits_found s e).withCycle _

/-- Putting a block back changes no mark. -/
theorem Marked.restore (h : S.Marked) (id : NodeId) : (S.restore id).Marked :=
  Page.Marks.apply h (e := .restore id) rfl

theorem Marked.undergo (h : S.Marked) (hS : S.IsSound s first) {x : Happening}
    (hx : S.SparesCycles x) : (S.undergo x).Marked := by
  cases x with
  | event e => exact h.apply hS hx
  | restore id => exact h.restore id

/-- The marks of a session stay in order as long as no cycle at work is given up. -/
theorem Marked.undergoAll (h : S.Marked) (hS : S.IsSound s first) {hs : List Happening}
    (hhs : S.KeepsCycles hs) : (S.undergoAll hs).Marked := by
  induction hs using List.reverseRecOn with
  | nil => exact h
  | append_singleton hs x ih =>
    rw [undergoAll_snoc]
    exact (ih hhs.of_append).undergo (hS.undergoAll hs) (hhs hs x [] rfl)

end Session

end PageHighlight
