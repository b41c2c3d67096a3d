/-
  Text/Decimal.lean --- numbers in decimal and hexadecimal notation.

  WHAT THIS FILE IS FOR.  Line numbers, levels, sizes and code points are read
  from digits.  A numeral is one or more ASCII digits after an optional plus
  sign, and its value must stay below a limit that the place fixes; anything
  else is no number.
-/
import PageHighlight.Text.Basic

set_option autoImplicit false

namespace PageHighlight

namespace Text

/-- The values that fit into 64 bits lie below this bound. -/
def wordLimit : Nat := Nat.pow 2 64

/-- The value of an ASCII digit in a base up to sixteen. -/
def digit? (base : Nat) (c : Char) : Option Nat :=
  let value :=
    if '0' ≤ c ∧ c ≤ '9' then some (c.toNat - '0'.toNat)
    else if 'a' ≤ c ∧ c ≤ 'f' then some (c.toNat - 'a'.toNat + 10)
    else if 'A' ≤ c ∧ c ≤ 'F' then some (c.toNat - 'A'.toNat + 10)
    else none
  value.filter (· < base)

/-- The value of a text of digits, the first digit being the highest, added to
`acc` shifted by their number. -/
def digitsValue? (base : Nat) (acc : Nat) : Text → Option Nat
  | [] => some acc
  | c :: r =>
    match digit? base c with
    | some d => digitsValue? base (acc * base + d) r
    | none => none

/-- The value of one or more digits, if it lies below `limit`. -/
def readDigits? (base limit : Nat) (t : Text) : Option Nat :=
  if t.isEmpty then none else (digitsValue? base 0 t).filter (· < limit)

/-- The value of a numeral, a plus sign in front allowed. -/
def readNumeral? (base limit : Nat) : Text → Option Nat
  | '+' :: t => readDigits? base limit t
  | t => readDigits? base limit t

/-- The value of a decimal numeral that fits into 64 bits. -/
def readNat? (t : Text) : Option Nat := readNumeral? 10 wordLimit t

/-- The decimal digits of a number, without leading zeros. -/
def ofNat (n : Nat) : Text := Nat.toDigits 10 n

/-- The hexadecimal digits of a number, at least `width` of them. -/
def ofNatHex (width n : Nat) : Text :=
  let ds := Nat.toDigits 16 n
  List.replicate (width - ds.length) '0' ++ ds

theorem readNumeral?_lt {base limit n : Nat} {t : Text}
    (h : readNumeral? base limit t = some n) : n < limit := by
  have key : ∀ {u : Text}, readDigits? base limit u = some n → n < limit := by
    intro u hu
    unfold readDigits? at hu
    split at hu
    · cases hu
    · rw [Option.filter_eq_some_iff] at hu
      simpa using hu.2
  unfold readNumeral? at h
  split at h <;> exact key h

end Text

end PageHighlight
