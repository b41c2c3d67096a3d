/-
  Proofs/Json/Fields.lean --- what the fields of a record keep.

  WHAT THIS FILE IS FOR.  A record is read field by field, as a list or as an object, and
  whatever stands in the text, nothing else is put into it.  So a property that every field
  keeps is one of the record that is read (`of_readWholeText`), for texts that no writer
  would write as well.
-/
import PageHighlight.Json.Reader

set_option autoImplicit false

namespace PageHighlight

namespace Json

/-! ## Readers that succeed -/

theorem exists_of_bind_eq_ok {α β : Type} {x : Except Fault α} {f : α → Except Fault β} {b : β}
    (h : (x >>= f) = .ok b) : ∃ a, x = .ok a ∧ f a = .ok b := by
  cases x with
  | error e => cases h
  | ok a => exact ⟨a, rfl, h⟩

theorem bind_error_ne_ok {α β : Type} (x : Except Fault α) (e : Fault) (y : β) :
    (x >>= fun _ => .error e) ≠ .ok y := by
  cases x <;> exact nofun

/-- A value of another shape is not read. -/
theorem wrongShape_ne_ok {α : Type} (t : Text) (x : α × Text) : wrongShape t ≠ .ok x := by
  unfold wrongShape
  split
  · exact nofun
  · exact bind_error_ne_ok _ _ _
  · exact bind_error_ne_ok _ _ _
  · exact bind_error_ne_ok _ _ _
  · exact bind_error_ne_ok _ _ _
  · exact nofun
  · exact nofun
  · split
    · exact bind_error_ne_ok _ _ _
    · exact nofun

/-! ## Fields -/

section Keeps

variable {σ : Type} {fields : List (Field σ)} {P : σ → Prop} {s s' : σ} {t t' : Text}

/-- Reading a value into a record keeps a property of it. -/
def Field.Keeps (P : σ → Prop) (f : Field σ) : Prop :=
  ∀ s t s' t', P s → f.read s t = .ok (s', t') → P s'

theorem of_readPositional (hfields : ∀ f ∈ fields, f.Keeps P) {isFirst : Bool} (hs : P s)
    (h : readPositional fields isFirst s t = .ok (s', t')) : P s' := by
  induction fields generalizing isFirst s t with
  | nil =>
    cases h
    exact hs
  | cons f fs ih =>
    obtain ⟨hf, hfs⟩ := List.forall_mem_cons.1 hfields
    obtain ⟨next, -, h⟩ := exists_of_bind_eq_ok h
    cases next with
    | none =>
      cases h
      exact hs
    | some t =>
      obtain ⟨⟨s₁, t₁⟩, hread, h⟩ := exists_of_bind_eq_ok h
      exact ih hfs (hf s t s₁ t₁ hs hread) h

theorem of_readMembers (hfields : ∀ f ∈ fields, f.Keeps P) {fuel : Nat} {isFirst : Bool}
    {seen : List Text} (hs : P s)
    (h : readMembers fields fuel isFirst seen s t = .ok (s', t')) : P s' := by
  induction fuel generalizing isFirst seen s t with
  | zero => cases h
  | succ fuel ih =>
    obtain ⟨next, -, h⟩ := exists_of_bind_eq_ok h
    cases next with
    | none =>
      cases h
      exact hs
    | some t =>
      obtain ⟨⟨name, t₁⟩, -, h⟩ := exists_of_bind_eq_ok h
      simp only at h
      split at h
      · next f hf =>
        split at h
        · cases h
        · obtain ⟨t₂, -, h⟩ := exists_of_bind_eq_ok h
          obtain ⟨⟨s₁, t₃⟩, hread, h⟩ := exists_of_bind_eq_ok h
          exact ih (hfields f (List.mem_of_find?_eq_some hf) s t₂ s₁ t₃ hs hread) h
      · obtain ⟨t₂, -, h⟩ := exists_of_bind_eq_ok h
        obtain ⟨t₃, -, h⟩ := exists_of_bind_eq_ok h
        exact ih hs h

/-- What every field keeps, the record keeps. -/
theorem of_readRecord (hfields : ∀ f ∈ fields, f.Keeps P) (hs : P s)
    (h : readRecord fields s t = .ok (s', t')) : P s' := by
  unfold readRecord at h
  split at h
  · obtain ⟨⟨s₁, t₁⟩, hread, h⟩ := exists_of_bind_eq_ok h
    obtain ⟨t₂, -, h⟩ := exists_of_bind_eq_ok h
    cases h
    exact of_readPositional hfields hs hread
  · obtain ⟨⟨s₁, t₁⟩, hread, h⟩ := exists_of_bind_eq_ok h
    obtain ⟨t₂, -, h⟩ := exists_of_bind_eq_ok h
    cases h
    exact of_readMembers hfields hs hread
  · exact absurd h (wrongShape_ne_ok _ _)

theorem of_readWholeText (hfields : ∀ f ∈ fields, f.Keeps P) (hs : P s)
    (h : readWholeText (readRecord fields s) t = .ok s') : P s' := by
  obtain ⟨⟨s₁, t₁⟩, hread, h⟩ := exists_of_bind_eq_ok h
  simp only at h
  split at h
  · cases h
    exact of_readRecord hfields hs hread
  · cases h

end Keeps

end Json

end PageHighlight
