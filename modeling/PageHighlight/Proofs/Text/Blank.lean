/-
  Proofs/Text/Blank.lean --- texts without the blanks at their ends.

  WHAT THIS FILE IS FOR.  A text is blanks, what is left of it when it is trimmed, and
  blanks again.  A text that neither begins nor ends with a blank (`IsTrimmed`) is left
  alone by trimming, and trimming makes every text such a one (`isTrimmed_trim`).
-/
import Mathlib.Data.List.TakeWhile
import PageHighlight.Text.Blank

set_option autoImplicit false

namespace PageHighlight

namespace Text

/-! ## The beginning of a text -/

/-- The blanks at the beginning of a text, and the text without them. -/
theorem exists_trimStart (t : Text) : ∃ w, allBlank w = true ∧ t = w ++ trimStart t :=
  ⟨t.takeWhile isBlank, List.all_takeWhile, List.takeWhile_append_dropWhile.symm⟩

theorem trimStart_append {w : Text} (h : allBlank w = true) (t : Text) :
    trimStart (w ++ t) = trimStart t :=
  List.dropWhile_append_of_pos (List.all_eq_true.1 h)

theorem trimStart_cons {c : Char} (h : isBlank c = false) (t : Text) :
    trimStart (c :: t) = c :: t :=
  List.dropWhile_cons_of_neg (by simp [h])

/-- In front of a character that is not blank nothing is trimmed. -/
theorem trimStart_append_cons {c : Char} (h : isBlank c = false) (t u : Text) :
    trimStart (t ++ c :: u) = trimStart t ++ c :: u := by
  have hcons := trimStart_cons h u
  unfold trimStart at hcons ⊢
  rw [List.dropWhile_append]
  split
  · next hempty => rw [List.isEmpty_iff.1 hempty, hcons, List.nil_append]
  · rfl

/-- A text that begins with a character that is not blank does not begin with blanks. -/
theorem eq_nil_of_begins {c : Char} (hc : isBlank c = false) {w t : Text}
    (h : allBlank w = true) (hw : w <+: c :: t) : w = [] := by
  cases w with
  | nil => rfl
  | cons d w =>
    obtain rfl : d = c := (List.cons_prefix_cons.1 hw).1
    simp [allBlank, hc] at h

/-! ## Texts of blanks -/

theorem dropEndWhile_eq_nil_iff {p : Char → Bool} {t : Text} :
    dropEndWhile p t = [] ↔ t.all p = true := by
  simp [dropEndWhile, List.dropWhile_eq_nil_iff]

/-- A text is trimmed to nothing if and only if it holds nothing but blanks. -/
theorem isEmpty_trim (t : Text) : (trim t).isEmpty = allBlank t := by
  obtain ⟨w, hw, ht⟩ := exists_trimStart t
  have hall : allBlank t = allBlank (trimStart t) := by
    conv => lhs; rw [ht]
    simp only [allBlank, List.all_append] at hw ⊢
    rw [hw, Bool.true_and]
  rw [Bool.eq_iff_iff, List.isEmpty_iff, trim, trimEnd, dropEndWhile_eq_nil_iff, hall]
  rfl

theorem allBlank_append {v w : Text} :
    allBlank (v ++ w) = true ↔ allBlank v = true ∧ allBlank w = true := by
  rw [allBlank, List.all_append, Bool.and_eq_true]
  rfl

theorem allBlank_of_isPrefix {v w : Text} (h : v <+: w) (hw : allBlank w = true) :
    allBlank v = true := by
  obtain ⟨u, rfl⟩ := h
  exact (allBlank_append.1 hw).1

theorem allBlank_of_suffix {v w : Text} (h : v <:+ w) (hw : allBlank w = true) :
    allBlank v = true := by
  obtain ⟨u, rfl⟩ := h
  exact (allBlank_append.1 hw).2

/-! ## The end of a text -/

theorem dropEndWhile_isPrefix (p : Char → Bool) (t : Text) : dropEndWhile p t <+: t := by
  rw [dropEndWhile, ← List.reverse_suffix, List.reverse_reverse]
  exact List.dropWhile_suffix p

/-- Nothing is cut off behind which a character stays. -/
theorem dropEndWhile_append {p : Char → Bool} {t : Text} {x : Char} (hx : p x = false)
    (hlast : t.getLast? = some x) (w : Text) : dropEndWhile p (t ++ w) = t ++ dropEndWhile p w := by
  have hkeep : t.reverse.dropWhile p = t.reverse := by
    rw [← List.head?_reverse] at hlast
    cases hr : t.reverse with
    | nil => rfl
    | cons y r =>
      rw [hr] at hlast
      obtain rfl : y = x := Option.some.inj hlast
      exact List.dropWhile_cons_of_neg (by simp [hx])
  rw [dropEndWhile, List.reverse_append, List.dropWhile_append, hkeep]
  split
  · next hempty =>
    rw [dropEndWhile, List.isEmpty_iff.1 hempty, List.reverse_reverse, List.reverse_nil,
      List.append_nil]
  · rw [List.reverse_append, List.reverse_reverse, dropEndWhile]

theorem trimEnd_append_of_allBlank {t w : Text} {x : Char} (hx : isBlank x = false)
    (hlast : t.getLast? = some x) (hw : allBlank w = true) : trimEnd (t ++ w) = t := by
  rw [trimEnd, dropEndWhile_append hx hlast, dropEndWhile_eq_nil_iff.2 hw, List.append_nil]

theorem trimEnd_append_blanks {w : Text} (hw : allBlank w = true) (t : Text) :
    trimEnd (t ++ w) = trimEnd t := by
  rw [trimEnd, dropEndWhile, List.reverse_append, List.dropWhile_append_of_pos, trimEnd, dropEndWhile]
  simpa [allBlank] using hw

theorem trimEnd_trimEnd (t : Text) : trimEnd (trimEnd t) = trimEnd t := by
  obtain ⟨w, hw, ht⟩ := trimEnd_append t
  rw [← trimEnd_append_blanks hw (trimEnd t), ← ht]

/-! ## Both ends of a text -/

/-- Blanks at both ends of a text make no difference to the trimmed text. -/
theorem trim_blanks {v w : Text} (hv : allBlank v = true) (hw : allBlank w = true) (t : Text) :
    trim (v ++ t ++ w) = trim t := by
  rw [List.append_assoc, trim, trim, trimStart_append hv, trimStart, List.dropWhile_append]
  split
  · next hempty =>
    have hdrop : w.dropWhile isBlank = [] := List.dropWhile_eq_nil_iff.2 (List.all_eq_true.1 hw)
    rw [hdrop, ← List.isEmpty_iff.1 hempty]
    rfl
  · exact trimEnd_append_blanks hw _

theorem trim_trimStart (t : Text) : trim (trimStart t) = trim t := by
  obtain ⟨v, hv, ht⟩ := exists_trimStart t
  conv => rhs; rw [ht]
  rw [← trim_blanks (w := []) hv rfl (trimStart t), List.append_nil]

theorem trim_trimEnd (t : Text) : trim (trimEnd t) = trim t := by
  obtain ⟨w, hw, ht⟩ := trimEnd_append t
  conv => rhs; rw [ht]
  rw [← trim_blanks (v := []) rfl hw (trimEnd t), List.nil_append]

/-- The blanks at both ends of a text, and the text without them. -/
theorem exists_trim (t : Text) :
    ∃ v w, allBlank v = true ∧ allBlank w = true ∧ t = v ++ trim t ++ w := by
  obtain ⟨v, hv, ht⟩ := exists_trimStart t
  obtain ⟨w, hw, hend⟩ := trimEnd_append (trimStart t)
  exact ⟨v, w, hv, hw, by rw [List.append_assoc, trim, ← hend, ← ht]⟩

/-- A character that is not blank is not trimmed. -/
theorem mem_trim_iff {c : Char} (hc : isBlank c = false) {t : Text} : c ∈ trim t ↔ c ∈ t := by
  obtain ⟨v, w, hv, hw, ht⟩ := exists_trim t
  have hnot : ∀ {u}, allBlank u = true → c ∉ u := fun hu hmem =>
    Bool.false_ne_true (hc.symm.trans (List.all_eq_true.1 hu c hmem))
  conv => rhs; rw [ht]
  simp [hnot hv, hnot hw]

/-! ## Texts without blanks at their ends -/

/-- A text neither begins nor ends with a blank. -/
def IsTrimmed (t : Text) : Prop :=
  t.head?.map isBlank ≠ some true ∧ t.getLast?.map isBlank ≠ some true

instance (t : Text) : Decidable t.IsTrimmed := inferInstanceAs (Decidable (_ ∧ _))

theorem trimStart_of_head? {t : Text} (h : t.head?.map isBlank ≠ some true) :
    trimStart t = t := by
  cases t with
  | nil => rfl
  | cons c r => exact trimStart_cons (by simpa using h) r

theorem head?_trimStart (t : Text) : (trimStart t).head?.map isBlank ≠ some true := by
  have hnot := List.head?_dropWhile_not isBlank t
  unfold trimStart
  cases hhead : (t.dropWhile isBlank).head? with
  | none => simp
  | some c =>
    rw [hhead] at hnot
    simpa using hnot

theorem trimEnd_eq (t : Text) : trimEnd t = (trimStart t.reverse).reverse := rfl

theorem IsTrimmed.trim_eq {t : Text} (h : t.IsTrimmed) : trim t = t := by
  have hlast : t.reverse.head?.map isBlank ≠ some true := by
    rw [List.head?_reverse]
    exact h.2
  rw [trim, trimStart_of_head? h.1, trimEnd_eq, trimStart_of_head? hlast, List.reverse_reverse]

/-- Trimming leaves no blank at either end. -/
theorem isTrimmed_trim (t : Text) : (trim t).IsTrimmed := by
  constructor
  · obtain ⟨w, hw, ht⟩ := trimEnd_append (trimStart t)
    have hhead := head?_trimStart t
    rw [trim]
    cases hend : trimEnd (trimStart t) with
    | nil => simp
    | cons c r =>
      rw [ht, hend] at hhead
      exact hhead
  · rw [trim, trimEnd_eq, List.getLast?_reverse]
    exact head?_trimStart _

/-- Texts that end alike, blanks apart: what stands in front of their ends is the same, blanks
apart. -/
theorem eq_of_trim_eq {a a' t t' : Text} (h : a ++ t = a' ++ t') (htrim : trim t = trim t')
    (hne : trim t ≠ []) :
    trimStart t = trimStart t' ∧
      ∃ b b', allBlank b = true ∧ allBlank b' = true ∧ a ++ b = a' ++ b' := by
  obtain ⟨b, hb, ht⟩ := exists_trimStart t
  obtain ⟨b', hb', ht'⟩ := exists_trimStart t'
  obtain ⟨e, he, hte⟩ := trimEnd_append (trimStart t)
  obtain ⟨e', he', hte'⟩ := trimEnd_append (trimStart t')
  have hte : trimStart t = trim t ++ e := hte
  have hte' : trimStart t' = trim t ++ e' := by rw [htrim]; exact hte'
  obtain ⟨x, hlast⟩ := Option.ne_none_iff_exists'.1 (mt List.getLast?_eq_none_iff.1 hne)
  have hx : isBlank x = false := by
    have hnot := (isTrimmed_trim t).2
    rw [hlast] at hnot
    simpa using hnot
  have hends : ∀ {f w : Text}, allBlank w = true → trimEnd (f ++ trim t ++ w) = f ++ trim t :=
    fun hw => trimEnd_append_of_allBlank hx (by rw [List.getLast?_append, hlast]; rfl) hw
  have hwhole : a ++ b ++ trim t ++ e = a' ++ b' ++ trim t ++ e' := by
    rw [List.append_assoc _ (trim t) e, List.append_assoc _ (trim t) e', ← hte, ← hte',
      List.append_assoc, List.append_assoc, ← ht, ← ht', h]
  have hfront : a ++ b ++ trim t = a' ++ b' ++ trim t := by
    rw [← hends he, hwhole, hends he']
  rw [hfront] at hwhole
  refine ⟨?_, b, b', hb, hb', List.append_cancel_right hfront⟩
  rw [hte, hte', List.append_cancel_left hwhole]

theorem trim_of_forall_not_blank {t : Text} (h : ∀ c ∈ t, isBlank c = false) : trim t = t := by
  have hnot : ∀ o : Option Char, (∀ c ∈ o, isBlank c = false) → o.map isBlank ≠ some true := by
    rintro (_ | c) hc
    · simp
    · simp [hc c rfl]
  exact IsTrimmed.trim_eq ⟨hnot _ fun c hc => h c (List.mem_of_mem_head? hc),
    hnot _ fun c hc => h c (List.mem_of_mem_getLast? hc)⟩

/-! ## Classes of characters -/

/-- No code point lies in an interval of both lists. -/
def disjointRanges (rs ss : List (Nat × Nat)) : Bool :=
  rs.all fun r => ss.all fun s => r.2 < s.1 || s.2 < r.1

theorem inRanges_of_disjointRanges {rs ss : List (Nat × Nat)} (h : disjointRanges rs ss = true)
    {c : Char} (hc : inRanges rs c = true) : inRanges ss c = false := by
  obtain ⟨r, hr, hrc⟩ := List.any_eq_true.1 hc
  refine Bool.eq_false_iff.2 fun hs => ?_
  obtain ⟨s, hs, hsc⟩ := List.any_eq_true.1 hs
  have hapart := List.all_eq_true.1 (List.all_eq_true.1 h r hr) s hs
  simp only [Bool.and_eq_true, Bool.or_eq_true, decide_eq_true_eq] at hrc hsc hapart
  omega

end Text

end PageHighlight
