/-
  Proofs/Text/AsciiLower.lean --- texts with their ASCII capitals made small.

  WHAT THIS FILE IS FOR.  Making a character small changes it only if it is a capital, and
  then it becomes a letter (`toLower_cases`).  So a text in small letters has nothing left
  to be made small, blanks are not made, and what is no letter stands in a text as often
  as in its small letters (`count_asciiLower`).
-/
import Mathlib
import PageHighlight.Text.Blank

set_option autoImplicit false

namespace PageHighlight

namespace Text

/-- The small letters. -/
def smallLetters : Text := "abcdefghijklmnopqrstuvwxyz"

/-- A character is its own small letter, or its small letter is a letter. -/
theorem toLower_cases (c : Char) : c.toLower = c ∨ c.toLower ∈ smallLetters := by
  by_cases hupper : c.isUpper = true
  · have hcapital : ∀ n < 26, (Char.ofNat (65 + n)).toLower ∈ smallLetters := by decide +kernel
    have hbetween : 'A'.val ≤ c.val ∧ c.val ≤ 'Z'.val := of_decide_eq_true hupper
    have hbounds : 65 ≤ c.toNat ∧ c.toNat ≤ 90 := by
      simpa [UInt32.le_iff_toNat_le] using hbetween
    have hc : Char.ofNat (65 + (c.toNat - 65)) = c := by
      rw [Nat.add_sub_cancel' hbounds.1, Char.ofNat_toNat]
    exact .inr (hc ▸ hcapital (c.toNat - 65) (by omega))
  · exact .inl (Char.toLower_eq_of_not_isUpper hupper)

theorem asciiLower_asciiLower (t : Text) : asciiLower (asciiLower t) = asciiLower t := by
  rw [asciiLower, asciiLower, List.map_map]
  exact List.map_congr_left fun c _ => c.toLower_toLower_eq_toLower

theorem isBlank_toLower {c : Char} (h : isBlank c = false) : isBlank c.toLower = false := by
  rcases toLower_cases c with hc | hc
  · rwa [hc]
  · have hletters : (smallLetters.all fun d => !isBlank d) = true := by decide +kernel
    simpa using List.all_eq_true.1 hletters _ hc

theorem toLower_eq_iff {c d : Char} (hd : d ∉ smallLetters) (hd' : d.toLower = d) :
    c.toLower = d ↔ c = d := by
  constructor
  · intro h
    rcases toLower_cases c with hc | hc
    · exact hc.symm.trans h
    · exact absurd (h ▸ hc) hd
  · rintro rfl
    exact hd'

/-- What is no letter stands in a text as often as in its lower case. -/
theorem count_asciiLower {d : Char} (hd : d ∉ smallLetters) (hd' : d.toLower = d) (t : Text) :
    (asciiLower t).count d = t.count d := by
  have hsame : ((· == d) ∘ Char.toLower) = (· == d) := by
    funext c
    rw [Function.comp_apply, Bool.eq_iff_iff, beq_iff_eq, beq_iff_eq]
    exact toLower_eq_iff hd hd'
  rw [asciiLower, List.count_eq_countP, List.countP_map, hsame, List.count_eq_countP]

end Text

end PageHighlight
