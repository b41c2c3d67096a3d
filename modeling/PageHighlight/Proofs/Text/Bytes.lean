/-
  Proofs/Text/Bytes.lean --- the piece of a text between two offsets.

  WHAT THIS FILE IS FOR.  A reader that counts bytes cuts a piece out of a text when it
  knows where the piece begins and ends.  Such a cut goes wrong if an offset lies behind the
  text or inside of a character, or if the piece ends before it begins; `Text.slice?` is
  the cut, and `Text.slice?_eq_some` says when there is a piece, and which.
-/
import PageHighlight.Text.Basic

set_option autoImplicit false

namespace PageHighlight

namespace Text

/-- The first `n` bytes and what follows them, if a character ends there. -/
def splitBytes? : Nat → Text → Option (Text × Text)
  | 0, t => some ([], t)
  | _ + 1, [] => none
  | n + 1, c :: r =>
    if c.utf8Size ≤ n + 1 then
      (splitBytes? (n + 1 - c.utf8Size) r).map fun p => (c :: p.1, p.2)
    else none

/-- The piece between two offsets, if they are in order and a character ends at each of
them. -/
def slice? (start stop : Nat) (t : Text) : Option Text :=
  if start ≤ stop then
    (splitBytes? start t).bind fun p => (splitBytes? (stop - start) p.2).map (·.1)
  else none

theorem eq_nil_of_byteLength {t : Text} (h : byteLength t = 0) : t = [] := by
  cases t with
  | nil => rfl
  | cons c t =>
    have hc := c.utf8Size_pos
    rw [byteLength_cons] at h
    omega

theorem length_le_byteLength (t : Text) : t.length ≤ byteLength t := by
  induction t with
  | nil => exact Nat.le_refl 0
  | cons c t ih =>
    have hc := c.utf8Size_pos
    rw [List.length_cons, byteLength_cons]
    omega

theorem splitBytes?_eq_some {n : Nat} {t a r : Text} :
    splitBytes? n t = some (a, r) ↔ t = a ++ r ∧ byteLength a = n := by
  induction t generalizing n a with
  | nil =>
    cases n with
    | zero =>
      simp only [splitBytes?, Option.some.injEq, Prod.mk.injEq]
      constructor
      · rintro ⟨rfl, rfl⟩
        exact ⟨rfl, rfl⟩
      · rintro ⟨hnil, -⟩
        obtain ⟨rfl, rfl⟩ := List.append_eq_nil_iff.1 hnil.symm
        exact ⟨rfl, rfl⟩
    | succ n =>
      simp only [splitBytes?, reduceCtorEq, false_iff]
      rintro ⟨hnil, hn⟩
      rw [(List.append_eq_nil_iff.1 hnil.symm).1] at hn
      cases hn
  | cons c t ih =>
    have hc := c.utf8Size_pos
    cases n with
    | zero =>
      simp only [splitBytes?, Option.some.injEq, Prod.mk.injEq]
      constructor
      · rintro ⟨rfl, rfl⟩
        exact ⟨rfl, rfl⟩
      · rintro ⟨hsplit, hn⟩
        have ha := eq_nil_of_byteLength hn
        subst ha
        exact ⟨rfl, hsplit⟩
    | succ n =>
      simp only [splitBytes?]
      constructor
      · intro h
        split at h
        · next hle =>
          obtain ⟨⟨b, u⟩, hb, he⟩ := Option.map_eq_some_iff.1 h
          cases he
          obtain ⟨rfl, hn⟩ := ih.1 hb
          refine ⟨rfl, ?_⟩
          rw [byteLength_cons, hn]
          omega
        · cases h
      · rintro ⟨hsplit, hn⟩
        cases a with
        | nil => cases hn
        | cons d a =>
          obtain ⟨rfl, rfl⟩ := List.cons.inj hsplit
          rw [byteLength_cons] at hn
          rw [if_pos (by omega), ih.2 ⟨rfl, by omega⟩]
          rfl

/-- A piece can be cut out if and only if it stands between the offsets. -/
theorem slice?_eq_some {start stop : Nat} {t b : Text} :
    slice? start stop t = some b ↔
      ∃ a c, t = a ++ (b ++ c) ∧ byteLength a = start ∧ start + byteLength b = stop := by
  unfold slice?
  constructor
  · intro h
    split at h
    · next hle =>
      obtain ⟨⟨a, r⟩, hr, hb⟩ := Option.bind_eq_some_iff.1 h
      obtain ⟨⟨b', c⟩, hbc, rfl⟩ := Option.map_eq_some_iff.1 hb
      obtain ⟨rfl, ha⟩ := splitBytes?_eq_some.1 hr
      obtain ⟨rfl, hlen⟩ := splitBytes?_eq_some.1 hbc
      exact ⟨a, c, rfl, ha, by rw [hlen]; omega⟩
    · cases h
  · rintro ⟨a, c, rfl, ha, hlen⟩
    have hrest : splitBytes? (stop - start) (b ++ c) = some (b, c) :=
      splitBytes?_eq_some.2 ⟨rfl, by omega⟩
    rw [if_pos (by omega), splitBytes?_eq_some.2 ⟨rfl, ha⟩, Option.bind_some, hrest]
    rfl

end Text

end PageHighlight
