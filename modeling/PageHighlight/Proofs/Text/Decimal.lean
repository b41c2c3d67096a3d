/-
  Proofs/Text/Decimal.lean --- digits are read as the number that they stand for.

  WHAT THIS FILE IS FOR.  A numeral is one or more decimal digits, leading zeros allowed,
  of a number that fits into 64 bits (`IsNumeral`).  It is read as this number
  (`IsNumeral.readNat?`), and blanks around it change nothing, since digits are no
  blanks.
-/
import PageHighlight.Proofs.Text.Blank
import PageHighlight.Text.Decimal

set_option autoImplicit false

namespace PageHighlight

namespace Text

/-- One or more decimal digits that stand for this number. -/
structure IsNumeral (digits : Text) (n : Nat) : Prop where
  ne_nil : digits ≠ []
  isDigit : ∀ c ∈ digits, c.isDigit = true
  value : Nat.ofDigitChars 10 digits 0 = n
  fits : n < wordLimit

theorem bounds_of_isDigit {c : Char} (h : c.isDigit = true) : '0' ≤ c ∧ c ≤ '9' := by
  simpa [Char.isDigit, Char.le_def] using h

theorem digit?_of_isDigit {c : Char} (h : c.isDigit = true) :
    digit? 10 c = some (c.toNat - '0'.toNat) := by
  have hbounds := bounds_of_isDigit h
  have hvalue : c.toNat - '0'.toNat < 10 := by
    have hlast : c.toNat ≤ '9'.toNat := hbounds.2
    have hnine : '9'.toNat = 57 := rfl
    have hzero : '0'.toNat = 48 := rfl
    omega
  rw [digit?, if_pos hbounds, Option.filter_some, if_pos (decide_eq_true hvalue)]

theorem digitsValue?_of_isDigit {digits : Text} (h : ∀ c ∈ digits, c.isDigit = true) (acc : Nat) :
    digitsValue? 10 acc digits = some (Nat.ofDigitChars 10 digits acc) := by
  induction digits generalizing acc with
  | nil => rfl
  | cons c digits ih =>
    rw [digitsValue?, digit?_of_isDigit (h c List.mem_cons_self)]
    simp only [ih fun d hd => h d (List.mem_cons_of_mem _ hd), Nat.mul_comm acc 10]
    rfl

theorem isBlank_of_isDigit {c : Char} (h : c.isDigit = true) : isBlank c = false := by
  have hdisjoint : disjointRanges [('0'.toNat, '9'.toNat)] blankRanges = true := by
    decide +kernel
  refine inRanges_of_disjointRanges hdisjoint (List.any_eq_true.2 ⟨_, List.mem_singleton_self _, ?_⟩)
  rw [Bool.and_eq_true, decide_eq_true_eq, decide_eq_true_eq]
  exact bounds_of_isDigit h

/-- A numeral is read as the number that it stands for. -/
theorem IsNumeral.readNat? {digits : Text} {n : Nat} (h : digits.IsNumeral n) :
    Text.readNat? digits = some n := by
  have hread : readDigits? 10 wordLimit digits = some n := by
    rw [readDigits?, if_neg (by simp [h.ne_nil]), digitsValue?_of_isDigit h.isDigit, h.value,
      Option.filter_some, if_pos (decide_eq_true h.fits)]
  unfold Text.readNat? readNumeral?
  split
  · exact absurd (h.isDigit '+' List.mem_cons_self) (by decide)
  · exact hread

theorem IsNumeral.trim_eq {digits : Text} {n : Nat} (h : digits.IsNumeral n) :
    trim digits = digits :=
  trim_of_forall_not_blank fun c hc => isBlank_of_isDigit (h.isDigit c hc)

end Text

end PageHighlight
