/-
  Proofs/Text/LowerCase.lean --- lower case has nothing left to be made lower.

  WHAT THIS FILE IS FOR.  A text in lower case is its own lower case
  (`lowercase_lowercase`), and making a text lower neither makes a blank nor removes one
  (`IsTrimmed.lowercase`).

  HOW.  Both are facts about the table of capitals: the small letters of a run are in no
  run themselves (`CapitalRun.spares`), and no run holds a blank or leads to one
  (`CapitalRun.HasNoBlank`).  Each is checked run by run, and then holds of every
  character.
-/
import PageHighlight.Proofs.Text.Blank
import PageHighlight.Text.LowerCase

set_option autoImplicit false

namespace PageHighlight

namespace Text

/-! ## The table of capitals -/

namespace CapitalRun

/-- The last small letter of a run. -/
def lastLower (r : CapitalRun) : Nat := r.lower + (r.last - r.first)

/-- The small letters of one run are not in the other: they lie outside it, or on the
code points between its capitals. -/
def spares (r other : CapitalRun) : Bool :=
  r.lastLower.blt other.first || other.last.blt r.lower ||
    (other.stride.beq 2 && (r.stride.beq 2 || r.first.beq r.last) &&
      ((r.lower + other.first) % 2).beq 1)

/-- The small letters of a run are characters. -/
def LeadsToCharacters (r : CapitalRun) : Prop :=
  (r.lastLower < 0xD800 ∨ 0xDFFF < r.lower) ∧ r.lastLower < 0x110000

instance (r : CapitalRun) : Decidable r.LeadsToCharacters :=
  inferInstanceAs (Decidable (_ ∧ _))

/-- Neither the capitals of a run nor their small letters lie in an interval. -/
def Misses (r : CapitalRun) (interval : Nat × Nat) : Prop :=
  (r.last < interval.1 ∨ interval.2 < r.first) ∧
    (r.lastLower < interval.1 ∨ interval.2 < r.lower)

instance (r : CapitalRun) (interval : Nat × Nat) : Decidable (r.Misses interval) :=
  inferInstanceAs (Decidable (_ ∧ _))

theorem spares_of_mem {r other : CapitalRun} (hr : r ∈ capitalRuns)
    (hother : other ∈ capitalRuns) : r.spares other = true := by
  have hall : (capitalRuns.all fun r => capitalRuns.all r.spares) = true := by decide +kernel
  exact List.all_eq_true.1 (List.all_eq_true.1 hall r hr) other hother

theorem leadsToCharacters_of_mem : ∀ r ∈ capitalRuns, r.LeadsToCharacters := by
  decide +kernel

theorem misses_of_mem : ∀ r ∈ capitalRuns, ∀ interval ∈ blankRanges, r.Misses interval := by
  decide +kernel

/-- The dotted capital I, which is in no run, is not a small letter either. -/
theorem misses_dotted : ∀ r ∈ capitalRuns, r.Misses (0x130, 0x130) := by
  decide +kernel

variable {r other : CapitalRun} {n : Nat}

theorem bounds_of_has (h : r.has n = true) :
    r.first ≤ n ∧ n ≤ r.last ∧ (n - r.first) % r.stride = 0 := by
  simpa [has, and_assoc] using h

theorem lower_le_lastLower (h : r.has n = true) : r.lower + (n - r.first) ≤ r.lastLower := by
  obtain ⟨-, hlast, -⟩ := bounds_of_has h
  unfold lastLower
  omega

theorem not_has_of_spares (h : r.spares other = true) (hn : r.has n = true) :
    other.has (r.lower + (n - r.first)) = false := by
  have hle := lower_le_lastLower hn
  obtain ⟨hfirst, hlast, hstride⟩ := bounds_of_has hn
  rw [Bool.eq_false_iff]
  intro hother
  obtain ⟨hfirst', hlast', hstride'⟩ := bounds_of_has hother
  simp only [spares, Bool.or_eq_true, Bool.and_eq_true, Nat.blt_eq, Nat.beq_eq] at h
  rcases h with (hbelow | habove) | ⟨⟨htwo, heven⟩, hodd⟩
  · omega
  · omega
  · have hsteps : (n - r.first) % 2 = 0 := by
      rcases heven with heven | hone
      · rwa [heven] at hstride
      · have hzero : n - r.first = 0 := by omega
        rw [hzero]
    rw [htwo] at hstride'
    omega

theorem LeadsToCharacters.toNat_ofNat (h : r.LeadsToCharacters) (hn : r.has n = true) :
    (Char.ofNat (r.lower + (n - r.first))).toNat = r.lower + (n - r.first) := by
  have hle := lower_le_lastLower hn
  obtain ⟨hsurrogate, hmax⟩ := h
  have hvalid : (r.lower + (n - r.first)).isValidChar := by
    unfold Nat.isValidChar
    omega
  rw [Char.ofNat, dif_pos hvalid]
  rfl

end CapitalRun

/-! ## Small characters -/

/-- A character that is its own lower case, wherever it stands. -/
def IsSmall (c : Char) : Prop := c ≠ 'Σ' ∧ lowerChar c = [c]

instance (c : Char) : Decidable (IsSmall c) := inferInstanceAs (Decidable (_ ∧ _))

theorem isSmall_of_no_run {c : Char} (hdotted : c ≠ 'İ')
    (h : ∀ r ∈ capitalRuns, r.has c.toNat = false) : IsSmall c := by
  constructor
  · rintro rfl
    revert h
    decide +kernel
  · have hnone : capitalRuns.find? (·.has c.toNat) = none := by
      rw [List.find?_eq_none]
      intro r hr
      simp [h r hr]
    rw [lowerChar, if_neg hdotted, hnone]

theorem not_isBlank_of_misses {n : Nat} {c : Char} (hc : c.toNat = n)
    (h : ∀ interval ∈ blankRanges, n < interval.1 ∨ interval.2 < n) : isBlank c = false := by
  rw [isBlank, inRanges, List.any_eq_false]
  intro interval hinterval
  have hmiss := h interval hinterval
  simp only [hc, Bool.and_eq_true, decide_eq_true_eq]
  omega

/-- The lower case of a character: the character itself, if it is no capital, or small
characters, and then neither it nor they are blank. -/
theorem lowerChar_cases (c : Char) :
    (lowerChar c = [c] ∧ IsSmall c) ∨
      (lowerChar c ≠ [] ∧ isBlank c = false ∧
        ∀ d ∈ lowerChar c, IsSmall d ∧ isBlank d = false) := by
  by_cases hdotted : c = 'İ'
  · subst hdotted
    have hsmall : ((lowerChar 'İ').all fun d => decide (IsSmall d) && !isBlank d) = true := by
      decide +kernel
    refine .inr ⟨by decide +kernel, by decide +kernel, fun d hd => ?_⟩
    simpa using List.all_eq_true.1 hsmall d hd
  · cases hfind : capitalRuns.find? (·.has c.toNat) with
    | none =>
      have hnone : ∀ r ∈ capitalRuns, r.has c.toNat = false := by
        simpa using hfind
      exact .inl ⟨(isSmall_of_no_run hdotted hnone).2, isSmall_of_no_run hdotted hnone⟩
    | some r =>
      have hr : r ∈ capitalRuns := List.mem_of_find?_eq_some hfind
      have hhas : r.has c.toNat = true := by simpa using List.find?_some hfind
      have hle := CapitalRun.lower_le_lastLower hhas
      obtain ⟨hfirst, hlast, -⟩ := CapitalRun.bounds_of_has hhas
      have hnat := (CapitalRun.leadsToCharacters_of_mem r hr).toNat_ofNat hhas
      rw [lowerChar, if_neg hdotted, hfind]
      refine .inr ⟨List.cons_ne_nil _ _, not_isBlank_of_misses rfl fun interval hi => ?_, ?_⟩
      · rcases (CapitalRun.misses_of_mem r hr interval hi).1 with hbelow | habove
        · exact .inl (Nat.lt_of_le_of_lt hlast hbelow)
        · exact .inr (Nat.lt_of_lt_of_le habove hfirst)
      · intro d hd
        rw [List.mem_singleton.1 hd]
        refine ⟨isSmall_of_no_run ?_ fun other hother => ?_,
          not_isBlank_of_misses hnat fun interval hi => ?_⟩
        · intro he
          rw [he] at hnat
          have hmiss := (CapitalRun.misses_dotted r hr).2
          have hcode : ('İ' : Char).toNat = 0x130 := rfl
          omega
        · rw [hnat]
          exact CapitalRun.not_has_of_spares (CapitalRun.spares_of_mem hr hother) hhas
        · rcases (CapitalRun.misses_of_mem r hr interval hi).2 with hbelow | habove
          · exact .inl (Nat.lt_of_le_of_lt hle hbelow)
          · exact .inr (Nat.lt_of_lt_of_le habove (Nat.le_add_right _ _))

/-! ## Texts -/

/-- The lower case of a character with what stands before and after it. -/
def lowerIn (before : Text) (c : Char) (r : Text) : Text :=
  if c = 'Σ' then [if beginsCased before && !beginsCased r then 'ς' else 'σ'] else lowerChar c

theorem lowerAfter_cons (before : Text) (c : Char) (r : Text) :
    lowerAfter before (c :: r) = lowerIn before c r ++ lowerAfter (c :: before) r := rfl

/-- The lower case of a character is there, is small, and is blank if and only if the
character is. -/
theorem lowerIn_spec (before : Text) (c : Char) (r : Text) :
    lowerIn before c r ≠ [] ∧ ∀ d ∈ lowerIn before c r, IsSmall d ∧ isBlank d = isBlank c := by
  unfold lowerIn
  split
  · next hc =>
    have hsigma : ∀ d ∈ ['ς', 'σ'], IsSmall d ∧ isBlank d = isBlank 'Σ' :=
      List.forall_mem_cons.2 ⟨by decide +kernel, List.forall_mem_singleton.2 (by decide +kernel)⟩
    subst hc
    refine ⟨List.cons_ne_nil _ _, fun d hd => hsigma d ?_⟩
    rw [List.mem_singleton.1 hd]
    split <;> simp
  · rcases lowerChar_cases c with ⟨hsame, hsmall⟩ | ⟨hne, hblank, hsmall⟩
    · rw [hsame]
      refine ⟨List.cons_ne_nil _ _, fun d hd => ?_⟩
      rw [List.mem_singleton.1 hd]
      exact ⟨hsmall, rfl⟩
    · exact ⟨hne, fun d hd => ⟨(hsmall d hd).1, (hsmall d hd).2.trans hblank.symm⟩⟩

theorem isSmall_of_mem_lowerAfter {t before : Text} {d : Char} (h : d ∈ lowerAfter before t) :
    IsSmall d := by
  induction t generalizing before with
  | nil => cases h
  | cons c r ih =>
    rw [lowerAfter_cons] at h
    rcases List.mem_append.1 h with h | h
    · exact ((lowerIn_spec before c r).2 d h).1
    · exact ih h

theorem lowerAfter_of_isSmall {t : Text} (h : ∀ c ∈ t, IsSmall c) (before : Text) :
    lowerAfter before t = t := by
  induction t generalizing before with
  | nil => rfl
  | cons c r ih =>
    obtain ⟨hsigma, hsmall⟩ := h c List.mem_cons_self
    rw [lowerAfter_cons, lowerIn, if_neg hsigma, hsmall,
      ih fun d hd => h d (List.mem_cons_of_mem _ hd)]
    rfl

/-- Lower case has nothing left to be made lower. -/
theorem lowercase_lowercase (t : Text) : lowercase (lowercase t) = lowercase t :=
  lowerAfter_of_isSmall (fun _ hc => isSmall_of_mem_lowerAfter hc) []

/-! ## Blanks at the ends -/

theorem isBlank_head?_lowerAfter (t before : Text) :
    (lowerAfter before t).head?.map isBlank = t.head?.map isBlank := by
  cases t with
  | nil => rfl
  | cons c r =>
    obtain ⟨hne, hspec⟩ := lowerIn_spec before c r
    rw [lowerAfter_cons]
    cases hpiece : lowerIn before c r with
    | nil => exact absurd hpiece hne
    | cons d ds =>
      have hd := (hspec d (hpiece ▸ List.mem_cons_self)).2
      simp [hd]

theorem isBlank_getLast?_lowerAfter (t before : Text) :
    (lowerAfter before t).getLast?.map isBlank = t.getLast?.map isBlank := by
  induction t generalizing before with
  | nil => rfl
  | cons c r ih =>
    obtain ⟨hne, hspec⟩ := lowerIn_spec before c r
    have hih := ih (c :: before)
    rw [lowerAfter_cons]
    cases r with
    | nil =>
      cases hlast : (lowerIn before c []).getLast? with
      | none => exact absurd (List.getLast?_eq_none_iff.1 hlast) hne
      | some d =>
        have hd := (hspec d (List.mem_of_getLast? hlast)).2
        simp [lowerAfter, hlast, hd]
    | cons c' r =>
      rw [List.getLast?_cons_cons, ← hih, List.getLast?_append]
      obtain ⟨hne', -⟩ := lowerIn_spec (c :: before) c' r
      cases hlast : (lowerAfter (c :: before) (c' :: r)).getLast? with
      | none =>
        rw [lowerAfter_cons] at hlast
        exact absurd (List.append_eq_nil_iff.1 (List.getLast?_eq_none_iff.1 hlast)).1 hne'
      | some d => rfl

/-- Making a text lower neither makes a blank at its ends nor removes one. -/
theorem IsTrimmed.lowercase {t : Text} (h : t.IsTrimmed) : (lowercase t).IsTrimmed :=
  ⟨(isBlank_head?_lowerAfter t []).trans_ne h.1, (isBlank_getLast?_lowerAfter t []).trans_ne h.2⟩

end Text

end PageHighlight
