/-
  Proofs/Annotation/Levels.lean --- the levels of an annotated source, said without
  the way they are found.

  WHAT THIS FILE IS FOR.  Levels are given line by line, to numbers that depend on
  the lines dropped so far, and a later level replaces an earlier one.
  `levels_ofSource` says what comes of it: a line that is kept has the level of the
  block that it opens, or else of the innermost block that is open before it; a line
  without such a level has the lowest one if the first line names its number; and no
  other number has a level.

  NUMBERS.  Kept lines are numbered in order, so no two of them have one number and a
  level that was given to a line stays (`displayNumber_lt`).
-/
import PageHighlight.Proofs.Annotation.OpenBlocks

set_option autoImplicit false

namespace PageHighlight

namespace LineToken

/-- The text that is kept of a line, unless it is dropped. -/
def kept? : LineToken → Option Text
  | code text | trailing text _ => some text
  | whole _ => none

/-! ## Only the first line holds ranges -/

theorem at?_false_ne_ranges (line before rest : Text) (rs : List LineRange) :
    at? line before rest false ≠ some (whole (.ranges rs)) := by
  intro h
  simp only [at?, Option.bind_eq_bind, Option.bind_eq_some_iff] at h
  obtain ⟨⟨lead, form⟩, -, ⟨d, tail⟩, -, h⟩ := h
  cases d <;> cases hlead : Text.allBlank lead <;>
    cases htail : (Text.trim tail).isEmpty <;> simp [hlead, htail] at h

theorem ofLine_false_ne_ranges (line : Text) (rs : List LineRange) :
    ofLine line false ≠ whole (.ranges rs) := by
  intro h
  unfold ofLine at h
  rcases Option.getD_eq_iff.1 h with hfound | ⟨-, hcode⟩
  · obtain ⟨⟨before, rest⟩, -, hat⟩ := List.exists_of_findSome?_eq_some hfound
    exact at?_false_ne_ranges line before rest rs hat
  · cases hcode

end LineToken

namespace AnnotatedSource

theorem tokens_succ_ne_ranges (ls : List Text) (i : Nat) (rs : List LineRange) :
    (tokens ls)[i + 1]? ≠ some (.whole (.ranges rs)) := by
  intro h
  cases ls with
  | nil => cases h
  | cons l ls =>
    simp only [tokens, List.getElem?_cons_succ] at h
    obtain ⟨line, -, hline⟩ := List.mem_map.1 (List.mem_of_getElem? h)
    exact LineToken.ofLine_false_ne_ranges line rs hline

/-! ## Numbers -/

/-- The number that line `i` has in the result if it is kept. -/
def displayNumber (toks : List LineToken) (i : Nat) : Nat :=
  ((toks.take i).filterMap (·.kept?)).length + 1

theorem displayNumber_mono (toks : List LineToken) {i k : Nat} (h : i ≤ k) :
    displayNumber toks i ≤ displayNumber toks k := by
  have hsub : ((toks.take i).filterMap (·.kept?)).Sublist ((toks.take k).filterMap (·.kept?)) :=
    (List.take_sublist_take_left h).filterMap _
  exact Nat.succ_le_succ hsub.length_le

/-- Later lines have greater numbers than a kept one. -/
theorem displayNumber_lt {toks : List LineToken} {i k : Nat} {t : LineToken} {text : Text}
    (ht : toks[i]? = some t) (hkept : t.kept? = some text) (h : i < k) :
    displayNumber toks i < displayNumber toks k := by
  have hsucc : displayNumber toks (i + 1) = displayNumber toks i + 1 := by
    unfold displayNumber
    rw [List.take_add_one, ht, Option.toList_some, List.filterMap_append, List.length_append]
    simp [hkept]
  have hle := displayNumber_mono toks (Nat.succ_le_of_lt h)
  rw [hsucc] at hle
  exact hle

/-! ## Levels of lines -/

/-- The level that a line has of its own: that of the block it opens, or of the
innermost block that is open before it. -/
def LineLevel (toks : List LineToken) (i : Nat) (level : Level) : Prop :=
  match toks[i]? with
  | some (.trailing _ (.start own)) => level = own
  | some (.code _) | some (.trailing _ .stop) => Innermost toks i level
  | _ => False

/-- The first line names this number in one of its ranges, and there are so many
lines. -/
def Ranged (toks : List LineToken) (lines n : Nat) : Prop :=
  ∃ rs r, toks[0]? = some (.whole (.ranges rs)) ∧ r ∈ rs ∧ r.first ≤ n ∧ n ≤ r.last ∧ n ≤ lines

theorem kept?_of_lineLevel {toks : List LineToken} {i : Nat} {level : Level}
    (h : LineLevel toks i level) : ∃ t text, toks[i]? = some t ∧ t.kept? = some text := by
  unfold LineLevel at h
  split at h
  · next ht => exact ⟨_, _, ht, rfl⟩
  · next ht => exact ⟨_, _, ht, rfl⟩
  · next ht => exact ⟨_, _, ht, rfl⟩
  · cases h

/-- No two lines with levels of their own have one number. -/
theorem displayNumber_lt_of_lineLevel {toks : List LineToken} {i k : Nat} {level : Level}
    (h : LineLevel toks i level) (hik : i < k) : displayNumber toks i < displayNumber toks k := by
  obtain ⟨t, text, ht, hkept⟩ := kept?_of_lineLevel h
  exact displayNumber_lt ht hkept hik

/-! ## Taking in one line -/

/-- The level of a line before which the innermost open block has the level
`outer`. -/
def levelWithin (outer : Option Level) : LineToken → Option Level
  | .trailing _ (.start own) => some own
  | .code _ | .trailing _ .stop => outer
  | _ => none

namespace Progress

theorem kept_advance (limit : Nat) (p : Progress) (t : LineToken) :
    (p.advance limit t).kept = t.kept?.toList ++ p.kept := by
  cases t with
  | code text => rfl
  | whole d => cases d <;> rfl
  | trailing code d => cases d <;> rfl

/-- Every line that was read was dropped or kept. -/
theorem read_advance (limit : Nat) (p : Progress) (t : LineToken)
    (h : p.read = p.dropped + p.kept.length) :
    (p.advance limit t).read =
      (p.advance limit t).dropped + (p.advance limit t).kept.length := by
  cases t with
  | code text => simp only [advance, List.length_cons]; omega
  | whole d => cases d <;> simp only [advance] <;> omega
  | trailing code d => cases d <;> simp only [advance, List.length_cons] <;> omega

theorem levels_advance (limit : Nat) (p : Progress) (t : LineToken) :
    (p.advance limit t).levels =
      match t with
      | .whole (.ranges rs) => rs.foldl (markRange limit) p.levels
      | t => p.mark (levelWithin p.openLevels.head? t) := by
  cases t with
  | code text => rfl
  | whole d => cases d <;> rfl
  | trailing code d => cases d <;> rfl

theorem kept_advanceAll (limit : Nat) (toks : List LineToken) (p : Progress) :
    (p.advanceAll limit toks).kept = (toks.filterMap (·.kept?)).reverse ++ p.kept := by
  induction toks generalizing p with
  | nil => rfl
  | cons t toks ih =>
    have hrest : (p.advanceAll limit (t :: toks)).kept =
        ((p.advance limit t).advanceAll limit toks).kept := rfl
    rw [hrest, ih, kept_advance]
    cases ht : t.kept? with
    | none => simp [ht]
    | some text => simp [ht]

theorem read_advanceAll (limit : Nat) (toks : List LineToken) (p : Progress)
    (h : p.read = p.dropped + p.kept.length) :
    (p.advanceAll limit toks).read =
      (p.advanceAll limit toks).dropped + (p.advanceAll limit toks).kept.length := by
  induction toks generalizing p with
  | nil => exact h
  | cons t toks ih => exact ih (p.advance limit t) (read_advance limit p t h)

/-- The number that is given to a line is its number in the result. -/
theorem displayLine_advanceAll (limit : Nat) (toks : List LineToken) (k : Nat) :
    (start.advanceAll limit (toks.take k)).displayLine = displayNumber toks k := by
  have hread := read_advanceAll limit (toks.take k) start rfl
  have hkept : (start.advanceAll limit (toks.take k)).kept.length =
      ((toks.take k).filterMap (·.kept?)).length := by
    rw [kept_advanceAll, List.length_append, List.length_reverse]
    rfl
  unfold displayLine displayNumber
  rw [hread, hkept]
  omega

/-! ## Marking -/

theorem get?_mark (p : Progress) (level : Option Level) (n : Nat) :
    (p.mark level).get? n =
      if p.displayLine = n ∧ level.isSome then level else p.levels.get? n := by
  cases level with
  | none => simp [mark]
  | some l =>
    simp only [mark, LevelMap.get?_insert, Option.isSome_some, and_true, eq_comm]

theorem get?_foldl_insert (ns : List Nat) (levels : LevelMap) (n : Nat) :
    LevelMap.get? n (ns.foldl (fun levels m => levels.insert m Level.one) levels) =
      if n ∈ ns then some Level.one else levels.get? n := by
  induction ns generalizing levels with
  | nil => simp
  | cons m ns ih =>
    rw [List.foldl_cons, ih, LevelMap.get?_insert]
    by_cases hmem : n ∈ ns <;> by_cases hm : n = m <;> simp [hmem, hm]

theorem get?_markRange (limit : Nat) (levels : LevelMap) (r : LineRange) (n : Nat) :
    (markRange limit levels r).get? n =
      if r.first ≤ n ∧ n ≤ r.last ∧ n ≤ limit then some Level.one else levels.get? n := by
  unfold markRange
  rw [get?_foldl_insert]
  have hmem : n ∈ List.range' r.first (min r.last limit + 1 - r.first) ↔
      r.first ≤ n ∧ n ≤ r.last ∧ n ≤ limit := by
    rw [List.mem_range'_1]
    omega
  simp only [hmem]

theorem get?_markRanges (limit : Nat) (rs : List LineRange) (levels : LevelMap) (n : Nat) :
    (rs.foldl (markRange limit) levels).get? n =
      if ∃ r ∈ rs, r.first ≤ n ∧ n ≤ r.last ∧ n ≤ limit then some Level.one
      else levels.get? n := by
  induction rs generalizing levels with
  | nil => simp
  | cons r rs ih =>
    rw [List.foldl_cons, ih, get?_markRange]
    by_cases hrs : ∃ r ∈ rs, r.first ≤ n ∧ n ≤ r.last ∧ n ≤ limit
    · rw [if_pos hrs, if_pos]
      obtain ⟨r', hmem, hr'⟩ := hrs
      exact ⟨r', List.mem_cons_of_mem _ hmem, hr'⟩
    · rw [if_neg hrs]
      simp only [List.mem_cons, exists_eq_or_imp, hrs, or_false]

end Progress

/-! ## Taking in all lines -/

/-- The level of a line, by the open blocks that were kept before it. -/
theorem lineLevel_iff (limit : Nat) {toks : List LineToken} {k : Nat} {t : LineToken}
    (ht : toks[k]? = some t) (level : Level) :
    LineLevel toks k level ↔
      levelWithin (Progress.start.advanceAll limit (toks.take k)).openLevels.head? t =
        some level := by
  have hk : k ≤ toks.length := Nat.le_of_lt (List.getElem?_eq_some_iff.1 ht).1
  unfold LineLevel
  rw [ht]
  cases t with
  | code text => exact (head?_openLevels limit toks hk level).symm
  | whole d => simp [levelWithin]
  | trailing code d =>
    cases d with
    | ranges rs => simp [levelWithin]
    | start own => simp [levelWithin, eq_comm]
    | stop => exact (head?_openLevels limit toks hk level).symm

theorem ranged_iff {toks : List LineToken} {rs : List LineRange}
    (h : toks[0]? = some (.whole (.ranges rs))) (lines n : Nat) :
    Ranged toks lines n ↔ ∃ r ∈ rs, r.first ≤ n ∧ n ≤ r.last ∧ n ≤ lines := by
  constructor
  · rintro ⟨rs', r, hrs, hmem, hr⟩
    rw [h] at hrs
    cases hrs
    exact ⟨r, hmem, hr⟩
  · rintro ⟨r, hmem, hr⟩
    exact ⟨rs, r, h, hmem, hr⟩

/-- What the levels are after the first `k` lines. -/
def Settled (toks : List LineToken) (lines k n : Nat) (level : Level) : Prop :=
  (∃ i < k, displayNumber toks i = n ∧ LineLevel toks i level) ∨
  ((∀ i < k, ∀ l, displayNumber toks i = n → ¬ LineLevel toks i l) ∧
    level = Level.one ∧ 0 < k ∧ Ranged toks lines n)

theorem not_settled_zero (toks : List LineToken) (lines n : Nat) (level : Level) :
    ¬ Settled toks lines 0 n level := by
  rintro (⟨i, hi, -⟩ | ⟨-, -, hpos, -⟩)
  · exact absurd hi (Nat.not_lt_zero i)
  · exact absurd hpos (Nat.lt_irrefl 0)

/-- A first line with ranges settles the level of the numbers in them. -/
theorem settled_one_of_ranges {toks : List LineToken} {rs : List LineRange}
    (h : toks[0]? = some (.whole (.ranges rs))) (lines n : Nat) (level : Level) :
    Settled toks lines 1 n level ↔ level = Level.one ∧ Ranged toks lines n := by
  have hnone : ∀ i < 1, ∀ l, ¬ LineLevel toks i l := by
    intro i hi l hl
    obtain rfl := Nat.lt_one_iff.1 hi
    obtain ⟨t, text, ht, hkept⟩ := kept?_of_lineLevel hl
    rw [h] at ht
    cases ht
    cases hkept
  constructor
  · rintro (⟨i, hi, -, hlevel⟩ | ⟨-, hlevel, -, hranged⟩)
    · exact absurd hlevel (hnone i hi level)
    · exact ⟨hlevel, hranged⟩
  · rintro ⟨hlevel, hranged⟩
    exact .inr ⟨fun i hi l _ => hnone i hi l, hlevel, Nat.one_pos, hranged⟩

/-- A line that gives its own number a level settles the level of that number. -/
theorem settled_succ_of_lineLevel {toks : List LineToken} {lines k n : Nat} {own : Level}
    (hn : displayNumber toks k = n) (hown : ∀ l, LineLevel toks k l ↔ own = l) (level : Level) :
    Settled toks lines (k + 1) n level ↔ own = level := by
  constructor
  · rintro (⟨i, hi, hin, hlevel⟩ | ⟨hnone, -⟩)
    · rcases Nat.lt_or_eq_of_le (Nat.le_of_lt_succ hi) with hlt | rfl
      · have := displayNumber_lt_of_lineLevel hlevel hlt
        omega
      · exact (hown level).1 hlevel
    · exact absurd ((hown own).2 rfl) (hnone k (Nat.lt_succ_self k) own hn)
  · intro h
    exact .inl ⟨k, Nat.lt_succ_self k, hn, (hown level).2 h⟩

/-- Any other line leaves the level of a number as it was. -/
theorem settled_succ_of_not_lineLevel {toks : List LineToken} {lines k n : Nat}
    (hk : ∀ l, displayNumber toks k = n → ¬ LineLevel toks k l)
    (hfirst : k = 0 → ¬ Ranged toks lines n) (level : Level) :
    Settled toks lines (k + 1) n level ↔ Settled toks lines k n level := by
  have hsome : (∃ i < k + 1, displayNumber toks i = n ∧ LineLevel toks i level) ↔
      ∃ i < k, displayNumber toks i = n ∧ LineLevel toks i level := by
    constructor
    · rintro ⟨i, hi, hin, hlevel⟩
      rcases Nat.lt_or_eq_of_le (Nat.le_of_lt_succ hi) with hlt | rfl
      · exact ⟨i, hlt, hin, hlevel⟩
      · exact absurd hlevel (hk level hin)
    · rintro ⟨i, hi, h⟩
      exact ⟨i, Nat.lt_succ_of_lt hi, h⟩
  have hnone : (∀ i < k + 1, ∀ l, displayNumber toks i = n → ¬ LineLevel toks i l) ↔
      ∀ i < k, ∀ l, displayNumber toks i = n → ¬ LineLevel toks i l := by
    constructor
    · intro h i hi
      exact h i (Nat.lt_succ_of_lt hi)
    · intro h i hi
      rcases Nat.lt_or_eq_of_le (Nat.le_of_lt_succ hi) with hlt | rfl
      · exact h i hlt
      · exact hk
  have hpos : (0 < k + 1 ∧ Ranged toks lines n) ↔ (0 < k ∧ Ranged toks lines n) := by
    constructor
    · rintro ⟨-, hr⟩
      exact ⟨Nat.pos_of_ne_zero fun h => hfirst h hr, hr⟩
    · rintro ⟨-, hr⟩
      exact ⟨Nat.succ_pos k, hr⟩
  unfold Settled
  rw [hsome, hnone, hpos]

/-- The levels that were given after the first `k` lines, if only the first one holds
ranges. -/
theorem get?_advanceAll {toks : List LineToken} (lines : Nat)
    (hranges : ∀ i rs, toks[i + 1]? ≠ some (.whole (.ranges rs))) (n : Nat) (level : Level)
    (k : Nat) (hk : k ≤ toks.length) :
    (Progress.start.advanceAll lines (toks.take k)).levels.get? n = some level ↔
      Settled toks lines k n level := by
  induction k with
  | zero =>
    refine iff_of_false (fun h => ?_) (not_settled_zero toks lines n level)
    cases h
  | succ k ih =>
    have ht : toks[k]? = some toks[k] := List.getElem?_eq_getElem hk
    have ih := ih (Nat.le_of_succ_le hk)
    have hline := lineLevel_iff lines ht
    have hnumber := Progress.displayLine_advanceAll lines toks k
    rw [Progress.advanceAll_take_succ lines _ ht, Progress.levels_advance]
    generalize Progress.start.advanceAll lines (toks.take k) = p at ih hline hnumber ⊢
    generalize toks[k] = t at ht hline ⊢
    split
    · next rs =>
      have hzero : k = 0 := by
        cases k with
        | zero => rfl
        | succ k => exact absurd ht (hranges k rs)
      subst hzero
      rw [Progress.get?_markRanges, settled_one_of_ranges ht, ranged_iff ht]
      split
      · next hr => simp [hr, eq_comm]
      · next hr => simp [hr, ih, not_settled_zero]
    · next hnot =>
      have hfirst : k = 0 → ¬ Ranged toks lines n := by
        rintro rfl ⟨rs, r, hrs, -⟩
        rw [ht] at hrs
        exact hnot rs (Option.some.inj hrs)
      rw [Progress.get?_mark, hnumber]
      split
      · next hown =>
        obtain ⟨hn, hsome⟩ := hown
        obtain ⟨own, hown⟩ := Option.isSome_iff_exists.1 hsome
        simp only [hown, Option.some_inj] at hline ⊢
        exact (settled_succ_of_lineLevel hn hline level).symm
      · next hown =>
        rw [ih, settled_succ_of_not_lineLevel ?_ hfirst]
        intro l hn hlevel
        refine hown ⟨hn, ?_⟩
        rw [(hline l).1 hlevel]
        rfl

/-! ## Annotated sources -/

/-- What the reader sees are the texts of the kept lines, in order; and the levels are
these: a line that is kept gives its number the level it has of its own, and every
other number that the first line names in a range, up to the number of lines, has the
lowest level. -/
theorem levels_ofSource (source : Text) :
    let toks := tokens (Text.lines source)
    (ofSource source).display = Text.unlines (toks.filterMap (·.kept?)) ∧
    ∀ n level, (ofSource source).levels.get? n = some level ↔
      (∃ i, displayNumber toks i = n ∧ LineLevel toks i level) ∨
      ((¬ ∃ i l, displayNumber toks i = n ∧ LineLevel toks i l) ∧
        level = Level.one ∧ Ranged toks (Text.lines source).length n) := by
  intro toks
  refine ⟨?_, ?_⟩
  · have hkept := Progress.kept_advanceAll (Text.lines source).length toks .start
    simp only [ofSource, Progress.start, List.append_nil] at hkept ⊢
    rw [hkept, List.reverse_reverse]
  · intro n level
    have hget := get?_advanceAll (Text.lines source).length
      (tokens_succ_ne_ranges (Text.lines source)) n level toks.length (Nat.le_refl _)
    rw [List.take_length] at hget
    have hlt : ∀ i l, LineLevel toks i l → i < toks.length := by
      intro i l hl
      obtain ⟨t, text, ht, -⟩ := kept?_of_lineLevel hl
      exact (List.getElem?_eq_some_iff.1 ht).1
    have hpos : Ranged toks (Text.lines source).length n → 0 < toks.length := by
      rintro ⟨rs, r, hrs, -⟩
      exact (List.getElem?_eq_some_iff.1 hrs).1
    refine hget.trans ?_
    constructor
    · rintro (⟨i, -, hi⟩ | ⟨hnone, hlevel, -, hranged⟩)
      · exact .inl ⟨i, hi⟩
      · refine .inr ⟨?_, hlevel, hranged⟩
        rintro ⟨i, l, hn, hl⟩
        exact hnone i (hlt i l hl) l hn hl
    · rintro (⟨i, hn, hl⟩ | ⟨hnone, hlevel, hranged⟩)
      · exact .inl ⟨i, hlt i level hl, hn, hl⟩
      · exact .inr ⟨fun i _ l hn hl => hnone ⟨i, l, hn, hl⟩, hlevel, hpos hranged, hranged⟩

end AnnotatedSource

end PageHighlight
