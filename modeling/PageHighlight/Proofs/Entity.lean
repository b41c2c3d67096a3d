/-
  Proofs/Entity.lean --- decoding undoes escaping.

  WHAT THIS FILE IS FOR.  An escaped text holds none of the characters that end a tag,
  a value or an element, so whoever cuts a page at such a character never cuts inside
  one (`mem_escape`).  And decoding gives the text back, whatever stands behind it
  (`decode_escape_append`): every `&` that was written begins a reference of its own.
-/
import PageHighlight.Entity

set_option autoImplicit false

namespace PageHighlight

namespace Entity

@[simp] theorem escape_nil : escape [] = [] := rfl

@[simp] theorem escape_cons (c : Char) (t : Text) : escape (c :: t) = escapeChar c ++ escape t :=
  rfl

@[simp] theorem decode_nil : decode [] = [] := rfl

/-- A character that escaping writes as a reference. -/
def IsSpecial (c : Char) : Prop := c = '&' ∨ c = '<' ∨ c = '>' ∨ c = '\x22' ∨ c = '\x27'

theorem escapeChar_of_not_special {c : Char} (h : ¬ IsSpecial c) : escapeChar c = [c] := by
  simp only [IsSpecial, not_or] at h
  obtain ⟨hamp, hlt, hgt, hquot, hapos⟩ := h
  unfold escapeChar
  split
  all_goals first | contradiction | rfl

/-- The reference that stands for a special character is read as this character, and
nothing behind it is. -/
theorem decode_escapeChar_append (c : Char) (t : Text) :
    decode (escapeChar c ++ t) = c :: decode t := by
  by_cases h : IsSpecial c
  · rcases h with rfl | rfl | rfl | rfl | rfl <;> rfl
  · rw [escapeChar_of_not_special h]
    have hamp : c ≠ '&' := fun he => h (.inl he)
    simp only [List.cons_append, List.nil_append, decode, decodeFrom, if_neg hamp]

/-- An escaped text is read as the text, whatever stands behind it. -/
theorem decode_escape_append (t s : Text) : decode (escape t ++ s) = t ++ decode s := by
  induction t with
  | nil => rfl
  | cons c t ih =>
    rw [escape_cons, List.append_assoc, decode_escapeChar_append, ih, List.cons_append]

theorem decode_escape (t : Text) : decode (escape t) = t := by
  have h := decode_escape_append t []
  rwa [List.append_nil, decode_nil, List.append_nil] at h

/-- Escaping leaves nothing of what ends a tag, a value or an element. -/
theorem mem_escapeChar {c d : Char} (h : d ∈ escapeChar c) :
    d ≠ '<' ∧ d ≠ '>' ∧ d ≠ '\x22' ∧ d ≠ '\x27' := by
  by_cases hc : IsSpecial c
  · have hfree : (escapeChar c).all
        (fun d => d != '<' && d != '>' && d != '\x22' && d != '\x27') = true := by
      rcases hc with rfl | rfl | rfl | rfl | rfl <;> rfl
    simpa [and_assoc] using List.all_eq_true.1 hfree d h
  · rw [escapeChar_of_not_special hc, List.mem_singleton] at h
    subst h
    simp only [IsSpecial, not_or] at hc
    exact hc.2

theorem mem_escape {t : Text} {d : Char} (h : d ∈ escape t) :
    d ≠ '<' ∧ d ≠ '>' ∧ d ≠ '\x22' ∧ d ≠ '\x27' := by
  obtain ⟨c, -, hd⟩ := List.mem_flatMap.1 h
  exact mem_escapeChar hd

end Entity

end PageHighlight
