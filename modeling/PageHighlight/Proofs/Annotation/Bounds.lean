/-
  Proofs/Annotation/Bounds.lean --- how large the numbers are that taking in a source
  computes.

  WHAT THIS FILE IS FOR.  The number of a line is its place among all lines less the
  lines dropped before it, and it never gets below one, because no more lines are
  dropped than are read (`displayLine_afterLines`).  What gets a level is the line that
  is being read or a number in a range; `given` names both, and whichever it was, it is
  a number between one and the number of lines, and not above the number of kept lines
  unless a range named it (`bounds_ofSource`).

  RANGES.  A range may end at any number of 64 bits.  It is cut off at the number of
  lines before it is gone through, so it adds no more entries than there are lines.
-/
import Mathlib.Data.List.Perm.Subperm
import PageHighlight.Proofs.Annotation.Levels
import PageHighlight.Proofs.Annotation.Numbers

set_option autoImplicit false

namespace PageHighlight

/-! ## Entries of a map -/

namespace LevelMap

/-- Assign levels to lines, one after another. -/
def insertAll (es : List (Nat × Level)) (levels : LevelMap) : LevelMap :=
  es.foldl (fun levels e => levels.insert e.1 e.2) levels

theorem mem_insertAll {e : Nat × Level} {es : List (Nat × Level)} {levels : LevelMap}
    (he : e ∈ insertAll es levels) : e ∈ es ∨ e ∈ levels := by
  induction es generalizing levels with
  | nil => exact .inr he
  | cons d es ih =>
    rcases ih he with he | he
    · exact .inl (List.mem_cons_of_mem d he)
    · rcases mem_insert he with rfl | he
      · exact .inl List.mem_cons_self
      · exact .inr he

/-- A map has no more entries than there are numbers for them. -/
theorem IsNumbered.length_le {levels : LevelMap} (h : levels.IsNumbered) {n : Nat}
    (hn : ∀ e ∈ levels, e.1 ≤ n) : levels.length ≤ n := by
  have hnodup : (levels.map Prod.fst).Nodup := by
    refine List.pairwise_map.2 (h.ascending.imp fun hlt => ?_)
    exact Nat.ne_of_lt hlt
  have hsubset : levels.map Prod.fst ⊆ List.range' 1 n := by
    intro m hm
    obtain ⟨e, he, rfl⟩ := List.mem_map.1 hm
    have hone := h.one_le e he
    have hle := hn e he
    exact List.mem_range'_1.2 (by omega)
  calc levels.length
      = (levels.map Prod.fst).length := (List.length_map ..).symm
    _ ≤ (List.range' 1 n).length := (List.subperm_of_subset hnodup hsubset).length_le
    _ = n := List.length_range' ..

end LevelMap

namespace AnnotatedSource

/-! ## What a line gives levels to -/

namespace Progress

/-- The lines of a range, up to `limit`, with the lowest level. -/
def entries (limit : Nat) (r : LineRange) : List (Nat × Level) :=
  (List.range' r.first (min r.last limit + 1 - r.first)).map fun n => (n, Level.one)

/-- The numbers that a line gives levels to, with the levels: a line that is kept gives one
to its own number, a line of ranges gives the lowest one to every number in them. -/
def given (limit : Nat) (p : Progress) : LineToken → List (Nat × Level)
  | .whole (.ranges rs) => rs.flatMap (entries limit)
  | t => (levelWithin p.openLevels.head? t).toList.map fun l => (p.displayLine, l)

theorem markRange_eq_insertAll (limit : Nat) (levels : LevelMap) (r : LineRange) :
    markRange limit levels r = LevelMap.insertAll (entries limit r) levels := by
  rw [LevelMap.insertAll, entries, List.foldl_map]
  rfl

theorem markRanges_eq_insertAll (limit : Nat) (rs : List LineRange) (levels : LevelMap) :
    rs.foldl (markRange limit) levels = LevelMap.insertAll (rs.flatMap (entries limit)) levels := by
  rw [LevelMap.insertAll, List.foldl_flatMap]
  exact List.foldl_ext _ _ _ fun levels r _ => markRange_eq_insertAll limit levels r

theorem mark_eq_insertAll (p : Progress) (level : Option Level) :
    p.mark level = LevelMap.insertAll (level.toList.map fun l => (p.displayLine, l)) p.levels := by
  cases level with
  | none => rfl
  | some l => rfl

/-- Taking in a line gives levels to those numbers and to no others. -/
theorem levels_advance_eq_insertAll (limit : Nat) (p : Progress) (t : LineToken) :
    (p.advance limit t).levels = LevelMap.insertAll (p.given limit t) p.levels := by
  rw [levels_advance]
  cases t with
  | code text => exact mark_eq_insertAll p _
  | whole d =>
    cases d with
    | ranges rs => exact markRanges_eq_insertAll limit rs p.levels
    | start level => exact mark_eq_insertAll p none
    | stop => exact mark_eq_insertAll p none
  | trailing code d => cases d <;> exact mark_eq_insertAll p _

theorem mem_given_ranges {limit : Nat} {p : Progress} {rs : List LineRange} {e : Nat × Level}
    (he : e ∈ p.given limit (.whole (.ranges rs))) : 1 ≤ e.1 ∧ e.1 ≤ limit := by
  obtain ⟨r, -, he⟩ := List.mem_flatMap.1 he
  obtain ⟨n, hn, rfl⟩ := List.mem_map.1 he
  have hone := r.one_le
  have hbounds := List.mem_range'_1.1 hn
  dsimp only
  omega

/-- A line without ranges gives a level to its own number only, and only if it is kept. -/
theorem mem_given {limit : Nat} {p : Progress} {t : LineToken} {e : Nat × Level}
    (ht : ∀ rs, t ≠ .whole (.ranges rs)) (he : e ∈ p.given limit t) :
    e.1 = p.displayLine ∧ ∃ text, t.kept? = some text := by
  have hown {level : Option Level}
      (he : e ∈ level.toList.map fun l => (p.displayLine, l)) : e.1 = p.displayLine := by
    obtain ⟨l, -, rfl⟩ := List.mem_map.1 he
    rfl
  cases t with
  | code text => exact ⟨hown he, text, rfl⟩
  | whole d =>
    cases d with
    | ranges rs => exact absurd rfl (ht rs)
    | start level => cases he
    | stop => cases he
  | trailing code d => cases d <;> exact ⟨hown he, code, rfl⟩

theorem read_advance_eq (limit : Nat) (p : Progress) (t : LineToken) :
    (p.advance limit t).read = p.read + 1 := by
  cases t with
  | code text => rfl
  | whole d => cases d <;> rfl
  | trailing code d => cases d <;> rfl

theorem read_advanceAll_eq (limit : Nat) (toks : List LineToken) (p : Progress) :
    (p.advanceAll limit toks).read = p.read + toks.length := by
  induction toks generalizing p with
  | nil => rfl
  | cons t toks ih =>
    have hrest : (p.advanceAll limit (t :: toks)).read =
        ((p.advance limit t).advanceAll limit toks).read := rfl
    rw [hrest, ih, read_advance_eq, List.length_cons]
    omega

end Progress

/-! ## Sources -/

theorem length_tokens (ls : List Text) : (tokens ls).length = ls.length := by
  cases ls with
  | nil => rfl
  | cons l ls => rw [tokens, List.length_cons, List.length_map, List.length_cons]

/-- How far the first `k` lines of a source have been taken in. -/
def afterLines (source : Text) (k : Nat) : Progress :=
  Progress.start.advanceAll (Text.lines source).length ((tokens (Text.lines source)).take k)

section

variable (source : Text) {k : Nat} {t : LineToken}

theorem levels_eq_afterLines :
    (ofSource source).levels = (afterLines source (Text.lines source).length).levels := by
  unfold afterLines
  rw [List.take_of_length_le (Nat.le_of_eq (length_tokens _))]
  rfl

theorem afterLines_succ (ht : (tokens (Text.lines source))[k]? = some t) :
    afterLines source (k + 1) =
      (afterLines source k).advance (Text.lines source).length t :=
  Progress.advanceAll_take_succ _ _ ht

theorem read_afterLines (hk : k ≤ (Text.lines source).length) : (afterLines source k).read = k := by
  unfold afterLines
  rw [Progress.read_advanceAll_eq, List.length_take, length_tokens, Nat.min_eq_left hk]
  exact Nat.zero_add k

/-- Every line that was read was dropped or kept. -/
theorem read_eq_afterLines (k : Nat) :
    (afterLines source k).read =
      (afterLines source k).dropped + (afterLines source k).kept.length :=
  Progress.read_advanceAll _ _ .start rfl

theorem displayLine_eq_afterLines (k : Nat) :
    (afterLines source k).displayLine = (afterLines source k).kept.length + 1 := by
  have hread := read_eq_afterLines source k
  unfold Progress.displayLine
  omega

/-- No more lines are dropped than are read, so the number of a line is its place less the
lines dropped before it. -/
theorem displayLine_afterLines (hk : k ≤ (Text.lines source).length) :
    (afterLines source k).dropped ≤ k ∧
      (afterLines source k).displayLine + (afterLines source k).dropped = k + 1 := by
  have hread := read_eq_afterLines source k
  have hline := displayLine_eq_afterLines source k
  rw [read_afterLines source hk] at hread
  omega

/-- No more lines are kept than there are. -/
theorem length_kept_le (source : Text) :
    (afterLines source (Text.lines source).length).kept.length ≤ (Text.lines source).length := by
  have hread := read_eq_afterLines source (Text.lines source).length
  rw [read_afterLines source (Nat.le_refl _)] at hread
  omega

/-- The number of a line that is kept is not above the number of kept lines. -/
theorem displayLine_le (ht : (tokens (Text.lines source))[k]? = some t) {text : Text}
    (hkept : t.kept? = some text) :
    (afterLines source k).displayLine ≤
      (afterLines source (Text.lines source).length).kept.length := by
  have hk : k < (Text.lines source).length := by
    rw [← length_tokens]
    exact (List.getElem?_eq_some_iff.1 ht).1
  have hnumber (i : Nat) :
      (afterLines source i).displayLine = displayNumber (tokens (Text.lines source)) i :=
    Progress.displayLine_advanceAll _ _ i
  refine Nat.le_of_lt_succ ?_
  calc (afterLines source k).displayLine
      < (afterLines source (Text.lines source).length).displayLine := by
        rw [hnumber, hnumber]
        exact displayNumber_lt ht hkept hk
    _ = (afterLines source (Text.lines source).length).kept.length + 1 :=
        displayLine_eq_afterLines source _

/-- What line `k` gives levels to is within the bounds of the source. -/
theorem given_afterLines (ht : (tokens (Text.lines source))[k]? = some t) {e : Nat × Level}
    (he : e ∈ (afterLines source k).given (Text.lines source).length t) :
    1 ≤ e.1 ∧ e.1 ≤ (Text.lines source).length ∧
      ((∀ rs, t ≠ .whole (.ranges rs)) →
        e.1 ≤ (afterLines source (Text.lines source).length).kept.length) := by
  by_cases hranges : ∃ rs, t = .whole (.ranges rs)
  · obtain ⟨rs, rfl⟩ := hranges
    obtain ⟨hone, hle⟩ := Progress.mem_given_ranges he
    exact ⟨hone, hle, fun hne => absurd rfl (hne rs)⟩
  · have hne : ∀ rs, t ≠ .whole (.ranges rs) := fun rs h => hranges ⟨rs, h⟩
    obtain ⟨hline, text, hkept⟩ := Progress.mem_given hne he
    have hle := displayLine_le source ht hkept
    rw [hline]
    exact ⟨Nat.le_add_left 1 _, Nat.le_trans hle (length_kept_le source), fun _ => hle⟩

/-- Every entry was given by one of the lines. -/
theorem exists_given {e : Nat × Level} (hk : k ≤ (Text.lines source).length)
    (he : e ∈ (afterLines source k).levels) :
    ∃ i t, (tokens (Text.lines source))[i]? = some t ∧
      e ∈ (afterLines source i).given (Text.lines source).length t := by
  induction k with
  | zero => cases he
  | succ k ih =>
    have hlt : k < (tokens (Text.lines source)).length := by
      rw [length_tokens]
      exact hk
    have ht := List.getElem?_eq_getElem hlt
    rw [afterLines_succ source ht, Progress.levels_advance_eq_insertAll] at he
    rcases LevelMap.mem_insertAll he with he | he
    · exact ⟨k, _, ht, he⟩
    · exact ih (Nat.le_of_succ_le hk) he

end

/-- Before every line, no more lines were dropped than read, and its number is its place less
the dropped ones.  What a line gives levels to counts from one and is not above the number of
lines, nor above the number of kept lines if it is not a line of ranges.  So every entry is
within the lines, there are no more entries than lines, and their levels are from 1 to 4. -/
theorem bounds_ofSource (source : Text) :
    let lines := (Text.lines source).length
    let kept := (afterLines source lines).kept.length
    (∀ k ≤ lines, (afterLines source k).read = k ∧ (afterLines source k).dropped ≤ k ∧
      (afterLines source k).displayLine + (afterLines source k).dropped = k + 1) ∧
    (∀ k t, (tokens (Text.lines source))[k]? = some t →
      (afterLines source (k + 1)).levels =
        LevelMap.insertAll ((afterLines source k).given lines t) (afterLines source k).levels ∧
      ∀ e ∈ (afterLines source k).given lines t,
        1 ≤ e.1 ∧ e.1 ≤ lines ∧ ((∀ rs, t ≠ .whole (.ranges rs)) → e.1 ≤ kept)) ∧
    (ofSource source).levels = (afterLines source lines).levels ∧
    (∀ e ∈ (ofSource source).levels, 1 ≤ e.1 ∧ e.1 ≤ lines ∧ 1 ≤ e.2.val ∧ e.2.val ≤ 4) ∧
    (ofSource source).levels.length ≤ lines := by
  intro lines kept
  have hentries : ∀ e ∈ (ofSource source).levels, 1 ≤ e.1 ∧ e.1 ≤ lines := by
    intro e he
    rw [levels_eq_afterLines] at he
    obtain ⟨i, t, ht, hgiven⟩ := exists_given source (Nat.le_refl _) he
    obtain ⟨hone, hle, -⟩ := given_afterLines source ht hgiven
    exact ⟨hone, hle⟩
  refine ⟨fun k hk => ⟨read_afterLines source hk, displayLine_afterLines source hk⟩,
    fun k t ht => ⟨?_, fun e he => given_afterLines source ht he⟩, levels_eq_afterLines source,
    fun e he => ?_, ?_⟩
  · rw [afterLines_succ source ht]
    exact Progress.levels_advance_eq_insertAll _ _ t
  · obtain ⟨hone, hle⟩ := hentries e he
    exact ⟨hone, hle, e.2.one_le, e.2.le_four⟩
  · exact (isNumbered_levels source).length_le fun e he => (hentries e he).2

/-- A source of three lines whose first line names nearly every number of 64 bits; the last one
opens a block. -/
def nearlyAllNumbers : Text :=
  "# @highlight: 2-18446744073709551615\na\nb # @highlight-start[3]"

theorem bounds_ofSource_nearlyAllNumbers :
    (ofSource nearlyAllNumbers).levels.length ≤ 3 ∧
    (afterLines nearlyAllNumbers 2).displayLine + (afterLines nearlyAllNumbers 2).dropped = 3 ∧
    2 ≤ (afterLines nearlyAllNumbers 3).kept.length := by
  obtain ⟨hlines, hgiven, -, -, hlength⟩ := bounds_ofSource nearlyAllNumbers
  have hlast := hgiven 2 (.trailing "b" (.start (Level.clamp 3))) (by decide +kernel)
  exact ⟨hlength, (hlines 2 (by decide)).2.2,
    (hlast.2 (2, Level.clamp 3) (by decide +kernel)).2.2 nofun⟩

end AnnotatedSource

end PageHighlight
