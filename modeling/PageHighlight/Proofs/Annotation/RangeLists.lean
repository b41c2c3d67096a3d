/-
  Proofs/Annotation/RangeLists.lean --- what a list of ranges says.

  WHAT THIS FILE IS FOR.  A list of ranges is read token by token, and the tokens stand
  between commas, so that a list put behind another one is read as both of them
  (`readList_append`).  `ofToken?_eq_some_iff` says which tokens are ranges: a number, or
  two numbers with a dash between them, each with blanks around it.  A token of any other
  kind says nothing and leaves its neighbours alone, and what is written is read
  (`readList_of_tokens`).
-/
import PageHighlight.Proofs.Annotation.Written
import PageHighlight.Proofs.Text.Numeral
import PageHighlight.Proofs.Text.Occurrences

set_option autoImplicit false

namespace PageHighlight

namespace LineRange

/-! ## One token -/

/-- The range that a token between two commas says, if it says one. -/
def ofToken? (token : Text) : Option LineRange :=
  if (Text.trim token).isEmpty then none else read? (Text.trim token)

variable {a b t part : Text} {r : LineRange} {m n : Nat} {c : Char}

theorem of?_eq_some : of? m n = some r ↔ r.first = m ∧ r.last = n := by
  unfold of?
  split
  · next h =>
    rw [Option.some.injEq, LineRange.ext_iff]
    exact and_congr eq_comm eq_comm
  · next h =>
    simp only [reduceCtorEq, false_iff]
    rintro ⟨rfl, rfl⟩
    exact h ⟨r.one_le, r.first_le_last⟩

/-- The characters of a bound: blanks, digits and a plus sign. -/
theorem of_readNat?_trim (h : Text.readNat? (Text.trim t) = some n) (hc : c ∈ t) :
    Text.isBlank c = true ∨ c = '+' ∨ c.isDigit = true := by
  cases hblank : Text.isBlank c with
  | true => exact .inl rfl
  | false =>
    obtain ⟨-, sign, digits, hsign, htrim, hdigits⟩ := Text.readNumeral?_eq_some_iff.1 h
    have hmem := (Text.mem_trim_iff hblank).2 hc
    rw [htrim] at hmem
    rcases List.mem_append.1 hmem with hmem | hmem
    · rcases hsign with rfl | rfl
      · cases hmem
      · exact .inr (.inl (List.mem_singleton.1 hmem))
    · exact .inr (.inr (hdigits.forall_isDigit c hmem))

theorem dash_not_mem (h : Text.readNat? (Text.trim t) = some n) : '-' ∉ t := by
  intro hdash
  rcases of_readNat?_trim h hdash with h | h | h <;> revert h <;> decide

theorem trim_append_dash (a b : Text) :
    Text.trim (a ++ '-' :: b) = Text.trimStart a ++ '-' :: Text.trimEnd b := by
  have hdash : Text.isBlank '-' = false := by decide
  rw [Text.trim, Text.trimStart_append_cons hdash, Text.trimEnd_eq, List.reverse_append,
    List.reverse_cons, List.append_assoc, List.singleton_append,
    Text.trimStart_append_cons hdash, List.reverse_append, List.reverse_cons,
    List.reverse_reverse, List.append_assoc, List.singleton_append, Text.trimEnd_eq]

theorem ofToken?_of_not_mem (h : '-' ∉ t) :
    ofToken? t = (Text.readNat? (Text.trim t)).bind fun n => of? n n := by
  have hsplit : Text.split? "-".toList (Text.trim t) = none := by
    rw [Text.split?_eq_none_iff]
    intro hinside
    exact h ((Text.mem_trim_iff (by decide)).1 (hinside.subset (List.mem_singleton_self '-')))
  unfold ofToken?
  split
  · next hempty =>
    rw [List.isEmpty_iff.1 hempty]
    rfl
  · simp only [read?, hsplit, Option.bind_eq_bind]

theorem ofToken?_dash (h : '-' ∉ a) : ofToken? (a ++ '-' :: b) =
    (Text.readNat? (Text.trim a)).bind fun first =>
      (Text.readNat? (Text.trim b)).bind fun last => of? first last := by
  have hstart : '-' ∉ Text.trimStart a := fun hmem => h ((List.dropWhile_suffix _).subset hmem)
  have hsplit : Text.split? "-".toList (Text.trimStart a ++ '-' :: Text.trimEnd b) =
      some (Text.trimStart a, Text.trimEnd b) := Text.split?_singleton_append hstart _
  rw [ofToken?, trim_append_dash, if_neg (by simp)]
  simp only [read?, hsplit, Option.bind_eq_bind, Text.trim_trimStart, Text.trim_trimEnd]

theorem eq_of_dash {a' b' : Text} (ha : '-' ∉ a) (ha' : '-' ∉ a')
    (h : a ++ '-' :: b = a' ++ '-' :: b') : a = a' ∧ b = b' := by
  have hsplit := Text.split?_singleton_append ha b
  rw [h, Text.split?_singleton_append ha', Option.some.injEq, Prod.mk.injEq] at hsplit
  exact ⟨hsplit.1.symm, hsplit.2.symm⟩

/-- A token says a range if and only if it is the number of its only line, or the numbers of
its first and its last line with a dash between them. -/
theorem ofToken?_eq_some_iff : ofToken? t = some r ↔
    (Text.readNat? (Text.trim t) = some r.first ∧ r.first = r.last) ∨
      ∃ a b, t = a ++ '-' :: b ∧ Text.readNat? (Text.trim a) = some r.first ∧
        Text.readNat? (Text.trim b) = some r.last := by
  constructor
  · intro h
    by_cases hdash : '-' ∈ t
    · obtain ⟨a, b, rfl, ha⟩ := List.eq_append_cons_of_mem hdash
      rw [ofToken?_dash ha] at h
      obtain ⟨m, hm, h⟩ := Option.bind_eq_some_iff.1 h
      obtain ⟨n, hn, h⟩ := Option.bind_eq_some_iff.1 h
      obtain ⟨rfl, rfl⟩ := of?_eq_some.1 h
      exact .inr ⟨a, b, rfl, hm, hn⟩
    · rw [ofToken?_of_not_mem hdash] at h
      obtain ⟨n, hn, h⟩ := Option.bind_eq_some_iff.1 h
      obtain ⟨hfirst, hlast⟩ := of?_eq_some.1 h
      exact .inl ⟨hfirst ▸ hn, hfirst.trans hlast.symm⟩
  · rintro (⟨hread, hsame⟩ | ⟨a, b, rfl, hfirst, hlast⟩)
    · rw [ofToken?_of_not_mem (dash_not_mem hread), hread, Option.bind_some]
      exact of?_eq_some.2 ⟨rfl, hsame.symm⟩
    · rw [ofToken?_dash (dash_not_mem hfirst), hfirst, hlast, Option.bind_some, Option.bind_some]
      exact of?_eq_some.2 ⟨rfl, rfl⟩

/-! ## The tokens of a list -/

theorem readList_eq (spec : Text) : readList spec = (Text.splitOn ',' spec).filterMap ofToken? := by
  rw [readList, List.filterMap_map]
  rfl

/-- A list behind another one says what it says by itself. -/
theorem readList_append (a b : Text) : readList (a ++ ',' :: b) = readList a ++ readList b := by
  rw [readList_eq, readList_eq, readList_eq, Text.splitOn_append, List.filterMap_append]

theorem readList_of_not_mem (h : ',' ∉ t) : readList t = (ofToken? t).toList := by
  rw [readList_eq, Text.splitOn_of_not_mem h]
  cases hsaid : ofToken? t with
  | none => rw [List.filterMap_cons_none hsaid]; rfl
  | some r => rw [List.filterMap_cons_some hsaid]; rfl

/-- Every range counts from one, is in order, and fits into 64 bits. -/
theorem fits_of_mem_readList (h : r ∈ readList t) : r.last < Text.wordLimit := by
  rw [readList_eq] at h
  obtain ⟨token, -, hsaid⟩ := List.mem_filterMap.1 h
  rcases ofToken?_eq_some_iff.1 hsaid with ⟨hread, hsame⟩ | ⟨a, b, -, -, hlast⟩
  · exact hsame ▸ Text.readNumeral?_lt hread
  · exact Text.readNumeral?_lt hlast

/-! ## What is written -/

/-- A token is written for a range: the number of its only line, or the numbers of its first
and its last line with a dash between them; blanks may stand around the numbers. -/
inductive IsWritten (r : LineRange) : Text → Prop where
  | line {t : Text} (number : t.IsNumber r.first) (same : r.first = r.last) : IsWritten r t
  | lines {a b : Text} (first : a.IsNumber r.first) (last : b.IsNumber r.last) :
      IsWritten r (a ++ '-' :: b)

/-- A token is written for no range. -/
inductive IsMalformed : Text → Prop where
  /-- it has a letter, or a digit of another script -/
  | letter {t : Text} {c : Char} (mem : c ∈ t) (letter : Text.isAlphanumeric c = true)
      (noDigit : c.isDigit = false) : IsMalformed t
  /-- one of its bounds is zero or too large, whatever the others are -/
  | bound {t part : Text} {n : Nat} (mem : part ∈ Text.splitOn '-' t) (number : part.IsNumber n)
      (outside : n = 0 ∨ Text.wordLimit ≤ n) : IsMalformed t
  /-- its bounds are not in order -/
  | reversed {a b : Text} {m n : Nat} (first : a.IsNumber m) (last : b.IsNumber n)
      (order : n < m) : IsMalformed (a ++ '-' :: b)

/-- What may stand between two commas, and the range that it is written for, if it is written
for one. -/
inductive IsToken : Text → Option LineRange → Prop where
  | range {t : Text} {r : LineRange} (written : r.IsWritten t) (fits : r.last < Text.wordLimit) :
      IsToken t (some r)
  | empty {t : Text} (blank : Text.allBlank t = true) : IsToken t none
  | malformed {t : Text} (comma : ',' ∉ t) (h : IsMalformed t) : IsToken t none

theorem readNat?_trim_of_number (h : t.IsNumber n) (hread : Text.readNat? (Text.trim t) = some m) :
    m = n ∧ n < Text.wordLimit := by
  rw [h.readNat?_trim] at hread
  split at hread
  · next hn => exact ⟨(Option.some.inj hread).symm, hn⟩
  · cases hread

theorem IsWritten.ofToken?_eq (h : r.IsWritten t) (hfits : r.last < Text.wordLimit) :
    ofToken? t = some r := by
  have hfirst : r.first < Text.wordLimit := Nat.lt_of_le_of_lt r.first_le_last hfits
  rw [ofToken?_eq_some_iff]
  cases h with
  | line number same => exact .inl ⟨by rw [number.readNat?_trim, if_pos hfirst], same⟩
  | lines first last =>
    exact .inr ⟨_, _, rfl, by rw [first.readNat?_trim, if_pos hfirst],
      by rw [last.readNat?_trim, if_pos hfits]⟩

/-- The parts of a token that says a range are its bounds. -/
theorem bounds_of_ofToken? (h : ofToken? t = some r) (hmem : part ∈ Text.splitOn '-' t) :
    Text.readNat? (Text.trim part) = some r.first ∨ Text.readNat? (Text.trim part) = some r.last := by
  rcases ofToken?_eq_some_iff.1 h with ⟨hread, -⟩ | ⟨a, b, rfl, hfirst, hlast⟩
  · rw [Text.splitOn_of_not_mem (dash_not_mem hread), List.mem_singleton] at hmem
    exact .inl (hmem ▸ hread)
  · rw [Text.splitOn_append, Text.splitOn_of_not_mem (dash_not_mem hfirst),
      Text.splitOn_of_not_mem (dash_not_mem hlast), List.singleton_append, List.mem_pair] at hmem
    rcases hmem with rfl | rfl
    · exact .inl hfirst
    · exact .inr hlast

/-- The characters of a token that says a range. -/
theorem of_ofToken? (h : ofToken? t = some r) (hc : c ∈ t) :
    Text.isBlank c = true ∨ c = '+' ∨ c = '-' ∨ c.isDigit = true := by
  rcases ofToken?_eq_some_iff.1 h with ⟨hread, -⟩ | ⟨a, b, rfl, hfirst, hlast⟩
  · exact (of_readNat?_trim hread hc).imp_right (.imp_right .inr)
  · rcases List.mem_append.1 hc with hc | hc
    · exact (of_readNat?_trim hfirst hc).imp_right (.imp_right .inr)
    · rcases List.mem_cons.1 hc with rfl | hc
      · exact .inr (.inr (.inl rfl))
      · exact (of_readNat?_trim hlast hc).imp_right (.imp_right .inr)

theorem IsMalformed.ofToken?_eq (h : IsMalformed t) : ofToken? t = none := by
  rw [Option.eq_none_iff_forall_ne_some]
  intro r hr
  cases h with
  | letter mem letter noDigit =>
    rcases of_ofToken? hr mem with hblank | rfl | rfl | hdigit
    · exact Bool.false_ne_true ((Text.not_isAlphanumeric_of_isBlank hblank).symm.trans letter)
    · exact absurd letter (by decide +kernel)
    · exact absurd letter (by decide +kernel)
    · exact Bool.false_ne_true (noDigit.symm.trans hdigit)
  | bound mem number outside =>
    have hone := r.one_le
    have horder := r.first_le_last
    rcases bounds_of_ofToken? hr mem with hread | hread
    all_goals
      obtain ⟨rfl, hn⟩ := readNat?_trim_of_number number hread
      omega
  | @reversed a b m n first last order =>
    rcases ofToken?_eq_some_iff.1 hr with ⟨hread, -⟩ | ⟨a', b', hdash, hfirst, hlast⟩
    · exact dash_not_mem hread (List.mem_append_right a List.mem_cons_self)
    · obtain ⟨rfl, rfl⟩ := eq_of_dash (first.not_mem (by decide) (by decide)) (dash_not_mem hfirst) hdash
      have hm := (readNat?_trim_of_number first hfirst).1
      have hn := (readNat?_trim_of_number last hlast).1
      have horder := r.first_le_last
      omega

theorem IsToken.ofToken?_eq {o : Option LineRange} (h : IsToken t o) : ofToken? t = o := by
  cases h with
  | range written fits => exact written.ofToken?_eq fits
  | empty blank => rw [ofToken?, if_pos ((Text.isEmpty_trim t).trans blank)]
  | malformed comma h => exact h.ofToken?_eq

theorem IsToken.not_mem {o : Option LineRange} (h : IsToken t o) : ',' ∉ t := by
  cases h with
  | range written fits =>
    cases written with
    | line number same => exact number.not_mem (by decide) (by decide)
    | lines first last =>
      have ha := first.not_mem (c := ',') (by decide) (by decide)
      have hb := last.not_mem (c := ',') (by decide) (by decide)
      simp [ha, hb]
  | empty blank => exact fun hmem => absurd (List.all_eq_true.1 blank _ hmem) (by decide)
  | malformed comma h => exact comma

/-- Lists of ranges.  A list put behind another one with a comma between them says what both
say; every range that is read counts from one, is in order and fits into 64 bits; and of
tokens with commas between them, those that are written for a range are read as this range,
in order, whatever empty or malformed tokens stand between them. -/
theorem readList_of_tokens :
    (∀ a b : Text, readList (a ++ ',' :: b) = readList a ++ readList b) ∧
    (∀ (t : Text), ∀ r ∈ readList t, 1 ≤ r.first ∧ r.first ≤ r.last ∧ r.last < Text.wordLimit) ∧
    ∀ (ts : List Text) (os : List (Option LineRange)), List.Forall₂ IsToken ts os →
      readList (Text.join [','] ts) = os.reduceOption := by
  refine ⟨readList_append,
    fun t r hr => ⟨r.one_le, r.first_le_last, fits_of_mem_readList hr⟩, fun ts os h => ?_⟩
  induction h with
  | nil => rfl
  | @cons t o ts os ht hts ih =>
    have hone : readList t = o.toList := by rw [readList_of_not_mem ht.not_mem, ht.ofToken?_eq]
    have hjoin : readList (Text.join [','] (t :: ts)) =
        readList t ++ readList (Text.join [','] ts) := by
      cases ts with
      | nil => exact (List.append_nil _).symm
      | cons t' ts =>
        rw [Text.join, List.append_assoc, List.singleton_append, readList_append]
    rw [hjoin, hone, ih]
    cases o <;> rfl

/-- Between two ranges stand a letter, a bound that is a letter, a zero, a range that is not in
order, nothing at all and a bound of more than 64 bits. -/
theorem readList_of_tokens_betweenMalformed :
    let ts : List Text := ["1", " x", " 3-a", " 0", " 7-5", "", "18446744073709551616-", " 8 - 9"]
    let os : List (Option LineRange) := [of? 1 1, none, none, none, none, none, none, of? 8 9]
    List.Forall₂ IsToken ts os ∧ readList (Text.join [','] ts) = os.reduceOption := by
  intro ts os
  have hline : IsToken "1".toList (of? 1 1) := .range (.line (by decide +kernel) rfl) (by decide)
  have hletter : IsToken " x".toList none :=
    .malformed (by decide) (.letter (c := 'x') (by decide) (by decide +kernel) (by decide))
  have hbound : IsToken " 3-a".toList none :=
    .malformed (by decide) (.letter (c := 'a') (by decide) (by decide +kernel) (by decide))
  have hzero : IsToken " 0".toList none :=
    .malformed (by decide) (.bound (n := 0) List.mem_cons_self (by decide +kernel) (.inl rfl))
  have hreversed : IsToken " 7-5".toList none :=
    .malformed (by decide) (.reversed (a := " 7".toList) (b := "5".toList) (m := 7) (n := 5)
      (by decide +kernel) (by decide +kernel) (by decide))
  have hlarge : IsToken "18446744073709551616-".toList none :=
    .malformed (by decide) (.bound (n := 2 ^ 64) List.mem_cons_self (by decide +kernel)
      (.inr (by decide)))
  have hlines : IsToken " 8 - 9".toList (of? 8 9) :=
    .range (.lines (a := " 8 ".toList) (b := " 9".toList) (by decide +kernel) (by decide +kernel))
      (by decide)
  have htokens : List.Forall₂ IsToken ts os :=
    .cons hline <| .cons hletter <| .cons hbound <| .cons hzero <| .cons hreversed <|
      .cons (.empty rfl) <| .cons hlarge <| .cons hlines .nil
  exact ⟨htokens, readList_of_tokens.2.2 ts os htokens⟩

end LineRange

end PageHighlight
