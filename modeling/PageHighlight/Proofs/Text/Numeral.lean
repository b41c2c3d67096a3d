/-
  Proofs/Text/Numeral.lean --- which texts are read as numbers, and as which ones.

  WHAT THIS FILE IS FOR.  A text denotes a number in a base if it is one or more digits,
  the highest first, whose values make up the number (`Denotes`).  The readers of numbers
  know nothing else, but for a plus sign in front and a limit: `readNumeral?_eq_some_iff`
  says so in both directions, for every base and every limit.

  BLANKS.  `IsNumber` is a decimal numeral with blanks around it; trimming leaves the
  numeral, since digits are no blanks.
-/
import Mathlib.Data.Bool.AllAny
import Mathlib.Data.List.Forall2
import Mathlib.Data.Nat.Digits.Defs
import PageHighlight.Proofs.Text.Decimal

set_option autoImplicit false

namespace PageHighlight

namespace Text

/-! ## Digits -/

/-- A character is the digit of this value: letters stand for ten and more, small or
capital. -/
def IsDigit (base : Nat) (c : Char) (d : Nat) : Prop :=
  d < base ∧ ("0123456789abcdef".toList[d]? = some c ∨ "0123456789ABCDEF".toList[d]? = some c)

/-- One or more digits, the highest first, stand for a number. -/
def Denotes (base : Nat) (digits : Text) (n : Nat) : Prop :=
  digits ≠ [] ∧ ∃ ds, List.Forall₂ (IsDigit base) digits ds ∧ Nat.ofDigits base ds.reverse = n

variable {base limit : Nat} {digits t : Text} {c : Char} {d n : Nat}

/-- Up to base sixteen, every digit is looked at. -/
theorem digit?_ofNat_iff : ∀ k < 128, ∀ d < 16, digit? 16 (Char.ofNat k) = some d ↔
    "0123456789abcdef".toList[d]? = some (Char.ofNat k) ∨
      "0123456789ABCDEF".toList[d]? = some (Char.ofNat k) := by
  decide +kernel

/-- A character with a value is an ASCII character, and its value lies below sixteen. -/
theorem bounds_of_digit? (h : digit? base c = some d) : c.toNat < 128 ∧ d < 16 := by
  obtain ⟨hvalue, -⟩ := Option.filter_eq_some_iff.1 h
  split at hvalue
  · next hc =>
    have hlast : c.toNat ≤ '9'.toNat := hc.2
    cases hvalue
    grind
  · split at hvalue
    · next hc =>
      have hlast : c.toNat ≤ 'f'.toNat := hc.2
      cases hvalue
      grind
    · split at hvalue
      · next hc =>
        have hlast : c.toNat ≤ 'F'.toNat := hc.2
        cases hvalue
        grind
      · cases hvalue

/-- A character has the same value in every base in which it is a digit. -/
theorem digit?_eq_some_iff_sixteen :
    digit? base c = some d ↔ d < base ∧ digit? 16 c = some d := by
  constructor
  · intro h
    obtain ⟨hvalue, hd⟩ := Option.filter_eq_some_iff.1 h
    exact ⟨of_decide_eq_true hd,
      Option.filter_eq_some_iff.2 ⟨hvalue, decide_eq_true (bounds_of_digit? h).2⟩⟩
  · rintro ⟨hd, h⟩
    exact Option.filter_eq_some_iff.2 ⟨(Option.filter_eq_some_iff.1 h).1, decide_eq_true hd⟩

theorem digit?_eq_some_iff : digit? base c = some d ↔ IsDigit base c d := by
  have hlisted : ("0123456789abcdef".toList[d]? = some c ∨ "0123456789ABCDEF".toList[d]? = some c) →
      c.toNat < 128 ∧ d < 16 := by
    rintro (h | h)
    all_goals
      obtain ⟨hd, rfl⟩ := List.getElem?_eq_some_iff.1 h
      refine ⟨?_, hd⟩
    · have hsmall : ∀ x ∈ "0123456789abcdef".toList, x.toNat < 128 :=
        List.all_iff_forall_prop.1 (by decide)
      exact hsmall _ (List.getElem_mem hd)
    · have hcapital : ∀ x ∈ "0123456789ABCDEF".toList, x.toNat < 128 :=
        List.all_iff_forall_prop.1 (by decide)
      exact hcapital _ (List.getElem_mem hd)
  have hiff : c.toNat < 128 → d < 16 → (digit? 16 c = some d ↔
      "0123456789abcdef".toList[d]? = some c ∨ "0123456789ABCDEF".toList[d]? = some c) := by
    intro hc hd
    have h := digit?_ofNat_iff c.toNat hc d hd
    rwa [Char.ofNat_toNat] at h
  rw [digit?_eq_some_iff_sixteen, IsDigit, and_congr_right_iff]
  intro hd
  constructor
  · intro h
    exact (hiff (bounds_of_digit? h).1 (bounds_of_digit? h).2).1 h
  · intro h
    exact (hiff (hlisted h).1 (hlisted h).2).2 h

/-! ## Numerals -/

theorem digitsValue?_eq_some_iff {acc : Nat} : digitsValue? base acc t = some n ↔
    ∃ ds, List.Forall₂ (IsDigit base) t ds ∧ ds.foldl (fun a d => a * base + d) acc = n := by
  induction t generalizing acc with
  | nil => simp [digitsValue?]
  | cons c t ih =>
    rw [digitsValue?]
    cases hd : digit? base c with
    | none =>
      simp only [reduceCtorEq, false_iff]
      rintro ⟨ds, hds, -⟩
      cases hds with
      | cons hc _ => rw [digit?_eq_some_iff.2 hc] at hd; cases hd
    | some d =>
      simp only [ih]
      constructor
      · rintro ⟨ds, hds, hn⟩
        exact ⟨d :: ds, .cons (digit?_eq_some_iff.1 hd) hds, hn⟩
      · rintro ⟨ds, hds, hn⟩
        cases hds with
        | cons hc hds =>
          obtain rfl := Option.some.inj (hd.symm.trans (digit?_eq_some_iff.2 hc))
          exact ⟨_, hds, hn⟩

theorem foldl_digits_eq (base : Nat) (ds : List Nat) :
    ds.foldl (fun a d => a * base + d) 0 = Nat.ofDigits base ds.reverse := by
  rw [Nat.ofDigits_eq_foldr, List.foldr_reverse]
  simp only [Nat.cast_id, Nat.mul_comm base, Nat.add_comm]

theorem readDigits?_eq_some_iff :
    readDigits? base limit t = some n ↔ Denotes base t n ∧ n < limit := by
  unfold readDigits?
  split
  · next hnil => simp [Denotes, List.isEmpty_iff.1 hnil]
  · next hne =>
    rw [Option.filter_eq_some_iff, digitsValue?_eq_some_iff, Denotes, decide_eq_true_eq,
      and_iff_right (mt List.isEmpty_iff.2 hne)]
    simp only [foldl_digits_eq]

/-- Reading tells whether digits stand for a number. -/
instance (base n : Nat) (digits : Text) : Decidable (Denotes base digits n) :=
  decidable_of_iff (readDigits? base (n + 1) digits = some n)
    (readDigits?_eq_some_iff.trans (and_iff_left (Nat.lt_succ_self n)))

theorem Denotes.isDigit (h : Denotes base digits n) (hc : c ∈ digits) :
    ∃ d, IsDigit base c d := by
  obtain ⟨-, ds, hds, -⟩ := h
  obtain ⟨i, hi, rfl⟩ := List.getElem_of_mem hc
  exact ⟨_, hds.get hi (hds.length_eq ▸ hi)⟩

/-- The characters that are digits. -/
theorem IsDigit.mem (h : IsDigit base c d) : c ∈ "0123456789abcdefABCDEF".toList := by
  have hsmall : ∀ x ∈ "0123456789abcdef".toList, x ∈ "0123456789abcdefABCDEF".toList :=
    List.all_iff_forall_prop.1 (by decide)
  have hcapital : ∀ x ∈ "0123456789ABCDEF".toList, x ∈ "0123456789abcdefABCDEF".toList :=
    List.all_iff_forall_prop.1 (by decide)
  rcases h.2 with h | h
  · exact hsmall c (List.mem_of_getElem? h)
  · exact hcapital c (List.mem_of_getElem? h)

theorem not_isDigit_plus : ¬ IsDigit base '+' d := fun h => absurd h.mem (by decide)

/-- A text is read as a number below the limit if and only if it denotes the number, a plus
sign in front apart. -/
theorem readNumeral?_eq_some_iff : readNumeral? base limit t = some n ↔
    n < limit ∧ ∃ sign digits, (sign = [] ∨ sign = ['+']) ∧ t = sign ++ digits ∧
      Denotes base digits n := by
  unfold readNumeral?
  split
  · next u =>
    rw [readDigits?_eq_some_iff]
    constructor
    · rintro ⟨hu, hn⟩
      exact ⟨hn, ['+'], u, .inr rfl, rfl, hu⟩
    · rintro ⟨hn, sign, digits, rfl | rfl, hu, hdigits⟩
      · rw [List.nil_append] at hu
        obtain ⟨d, hd⟩ := hdigits.isDigit (hu ▸ List.mem_cons_self)
        exact absurd hd not_isDigit_plus
      · cases hu
        exact ⟨hdigits, hn⟩
  · next hplain =>
    rw [readDigits?_eq_some_iff]
    constructor
    · rintro ⟨hu, hn⟩
      exact ⟨hn, [], t, .inl rfl, rfl, hu⟩
    · rintro ⟨hn, sign, digits, rfl | rfl, hu, hdigits⟩
      · exact ⟨hu ▸ hdigits, hn⟩
      · exact absurd hu (hplain _)

/-- Digits stand for one number. -/
theorem Denotes.unique {m : Nat} (hm : Denotes base digits m) (hn : Denotes base digits n) :
    m = n := by
  have hread : ∀ {k}, Denotes base digits k → k < m + n + 1 →
      readDigits? base (m + n + 1) digits = some k :=
    fun hk hlt => readDigits?_eq_some_iff.2 ⟨hk, hlt⟩
  exact Option.some.inj ((hread hm (by omega)).symm.trans (hread hn (by omega)))

/-- Digits are read as their number, and not at all if the number is too large. -/
theorem Denotes.readNumeral?_eq (h : Denotes base digits n) :
    readNumeral? base limit digits = if n < limit then some n else none := by
  split
  · next hn => exact readNumeral?_eq_some_iff.2 ⟨hn, [], digits, .inl rfl, rfl, h⟩
  · next hn =>
    refine Option.eq_none_iff_forall_ne_some.2 fun m hm => ?_
    obtain ⟨hlt, sign, digits', rfl | rfl, hsign, hdigits⟩ := readNumeral?_eq_some_iff.1 hm
    · rw [List.nil_append] at hsign
      subst hsign
      exact hn (h.unique hdigits ▸ hlt)
    · subst hsign
      obtain ⟨d, hd⟩ := h.isDigit (c := '+') List.mem_cons_self
      exact not_isDigit_plus hd

/-! ## The digits of a number -/

theorem ofNat_ne_nil (n : Nat) : ofNat n ≠ [] := Nat.toDigits_ne_nil

theorem isDigit_of_mem_ofNat (h : c ∈ ofNat n) : c.isDigit = true :=
  Nat.isDigit_of_mem_toDigits (by decide) (by decide) h

theorem digitsValue?_ofNat (n : Nat) : digitsValue? 10 0 (ofNat n) = some n :=
  (digitsValue?_of_isDigit (fun _ => isDigit_of_mem_ofNat) 0).trans
    (congrArg some Nat.ofDigitChars_ten_toDigits)

/-- The digits of a number begin with a zero only if there is no other digit. -/
theorem ofNat_eq_zero_cons (h : ofNat n = '0' :: t) : t = [] := by
  have hhead : ∀ m, 0 < m → (ofNat m).head? ≠ some '0' := by
    intro m
    induction m using Nat.strongRecOn with
    | ind m ih =>
      intro hm
      rw [ofNat, Nat.toDigits_eq_if (by decide)]
      split
      · next hlt =>
        have hdigits : ∀ k < 10, 0 < k → [Nat.digitChar k].head? ≠ some '0' := by decide
        exact hdigits m hlt hm
      · next hge =>
        rw [List.head?_append_of_ne_nil _ Nat.toDigits_ne_nil]
        exact ih (m / 10) (by omega) (by omega)
  rcases Nat.eq_zero_or_pos n with rfl | hn
  · rw [ofNat, Nat.toDigits_zero] at h
    exact (List.cons.inj h).2.symm
  · exact absurd (by rw [h]; rfl) (hhead n hn)

/-! ## Decimal numbers with blanks around them -/

theorem IsDigit.isDigit (h : IsDigit 10 c d) : c.isDigit = true := by
  have hlisted : ∀ d < 10, ("0123456789abcdef".toList[d]?).all Char.isDigit = true ∧
      ("0123456789ABCDEF".toList[d]?).all Char.isDigit = true := by decide
  obtain ⟨hsmall, hcapital⟩ := hlisted d h.1
  rcases h.2 with hc | hc
  · rwa [hc] at hsmall
  · rwa [hc] at hcapital

theorem Denotes.forall_isDigit (h : Denotes 10 digits n) : ∀ c ∈ digits, c.isDigit = true := by
  intro c hc
  obtain ⟨d, hd⟩ := h.isDigit hc
  exact hd.isDigit

/-- A text is a decimal numeral with blanks around it. -/
def IsNumber (t : Text) (n : Nat) : Prop :=
  ∃ v digits w, allBlank v = true ∧ allBlank w = true ∧ t = v ++ digits ++ w ∧
    Denotes 10 digits n

/-- A text is a number if and only if trimming leaves digits that stand for it. -/
theorem isNumber_iff : IsNumber t n ↔ Denotes 10 (trim t) n := by
  constructor
  · rintro ⟨v, digits, w, hv, hw, rfl, hdigits⟩
    have hplain : trim digits = digits :=
      trim_of_forall_not_blank fun c hc => isBlank_of_isDigit (hdigits.forall_isDigit c hc)
    rwa [trim_blanks hv hw, hplain]
  · intro h
    obtain ⟨v, w, hv, hw, ht⟩ := exists_trim t
    exact ⟨v, trim t, w, hv, hw, ht, h⟩

instance (t : Text) (n : Nat) : Decidable (IsNumber t n) := decidable_of_iff _ isNumber_iff.symm

/-- A number has blanks and digits only. -/
theorem IsNumber.not_mem (h : IsNumber t n) (hblank : isBlank c = false)
    (hdigit : c.isDigit = false) : c ∉ t := by
  obtain ⟨v, digits, w, hv, hw, rfl, hdigits⟩ := h
  have hnot : ∀ {u}, allBlank u = true → c ∉ u := fun hu hmem =>
    Bool.false_ne_true (hblank.symm.trans (List.all_eq_true.1 hu c hmem))
  have hdigits : c ∉ digits := fun hmem =>
    Bool.false_ne_true (hdigit.symm.trans (hdigits.forall_isDigit c hmem))
  simp [hnot hv, hnot hw, hdigits]

theorem IsNumber.readNat?_trim (h : IsNumber t n) :
    readNat? (trim t) = if n < wordLimit then some n else none :=
  (isNumber_iff.1 h).readNumeral?_eq

end Text

end PageHighlight
