/-
  Proofs/Annotation/Numbers.lean --- the numbers to which an annotated source gives
  levels.

  WHAT THIS FILE IS FOR.  Levels are given to numbers by lines of code, by trailing
  directives and by ranges that name any numbers whatever.  Whoever gave them, the
  numbers count from one, and none occurs twice (`isNumbered_levels`); so those who use
  the levels may take them one by one, and may count lines from zero instead.
-/
import PageHighlight.AnnotatedSource

set_option autoImplicit false

namespace PageHighlight

/-! ## Numbers in order -/

/-- The numbers count from one, and none occurs twice. -/
structure LevelMap.IsNumbered (levels : LevelMap) : Prop where
  ascending : levels.Ascending
  one_le : ∀ e ∈ levels, 1 ≤ e.1

namespace LevelMap

theorem isNumbered_nil : IsNumbered [] := ⟨.nil, fun e he => by cases he⟩

theorem IsNumbered.insert {levels : LevelMap} (h : levels.IsNumbered) {n : Nat} (hn : 1 ≤ n)
    (l : Level) : (LevelMap.insert n l levels).IsNumbered := by
  refine ⟨h.ascending.insert n l, fun e he => ?_⟩
  rcases mem_insert he with rfl | he
  · exact hn
  · exact h.one_le e he

theorem IsNumbered.tail {e : Nat × Level} {levels : LevelMap}
    (h : LevelMap.IsNumbered (e :: levels)) : LevelMap.IsNumbered levels :=
  ⟨h.ascending.of_cons, fun d hd => h.one_le d (List.mem_cons_of_mem _ hd)⟩

theorem IsNumbered.filter {levels : LevelMap} (h : levels.IsNumbered) (keep : Nat × Level → Bool) :
    LevelMap.IsNumbered (List.filter keep levels) :=
  ⟨h.ascending.filter keep, fun e he => h.one_le e (List.mem_filter.1 he).1⟩

theorem get?_filter {levels : LevelMap} (keep : Nat → Bool) {n : Nat} (hn : keep n = true) :
    get? n (List.filter (fun e => keep e.1) levels) = get? n levels := by
  have hsame : (fun e : Nat × Level => decide (keep e.1 = true ∧ decide (e.1 = n) = true)) =
      fun e => decide (e.1 = n) := by
    funext e
    by_cases he : e.1 = n <;> simp [he, hn]
  rw [get?, get?, List.find?_filter, hsame]

theorem get?_eq_none_of_forall_ne {levels : LevelMap} {n : Nat} (h : ∀ e ∈ levels, e.1 ≠ n) :
    get? n levels = none := by
  rw [get?, Option.map_eq_none_iff, List.find?_eq_none]
  simpa using h

end LevelMap

/-! ## The numbers of an annotated source -/

namespace AnnotatedSource

namespace Progress

theorem isNumbered_mark {p : Progress} (h : p.levels.IsNumbered) (level : Option Level) :
    (p.mark level).IsNumbered := by
  cases level with
  | none => exact h
  | some l => exact h.insert (Nat.le_add_left 1 _) l

theorem isNumbered_markRange {levels : LevelMap} (h : levels.IsNumbered) (limit : Nat)
    (r : LineRange) : (markRange limit levels r).IsNumbered := by
  unfold markRange
  have hlines : ∀ n ∈ List.range' r.first (min r.last limit + 1 - r.first), 1 ≤ n := by
    intro n hn
    exact Nat.le_trans r.one_le (List.mem_range'_1.1 hn).1
  generalize List.range' r.first (min r.last limit + 1 - r.first) = ns at hlines
  induction ns generalizing levels with
  | nil => exact h
  | cons n ns ih =>
    rw [List.foldl_cons]
    exact ih (h.insert (hlines n List.mem_cons_self) Level.one)
      fun m hm => hlines m (List.mem_cons_of_mem _ hm)

theorem isNumbered_markRanges {levels : LevelMap} (h : levels.IsNumbered) (limit : Nat)
    (rs : List LineRange) : (rs.foldl (markRange limit) levels).IsNumbered := by
  induction rs generalizing levels with
  | nil => exact h
  | cons r rs ih => exact ih (isNumbered_markRange h limit r)

/-- Every line that is taken in leaves the numbers of the levels in order. -/
theorem isNumbered_advance {p : Progress} (h : p.levels.IsNumbered) (limit : Nat)
    (t : LineToken) : (p.advance limit t).levels.IsNumbered := by
  cases t with
  | code text => exact isNumbered_mark h _
  | whole d =>
    cases d with
    | ranges rs => exact isNumbered_markRanges h limit rs
    | start level => exact h
    | stop => exact h
  | trailing code d =>
    cases d with
    | ranges rs => exact h
    | start level => exact isNumbered_mark h (some level)
    | stop => exact isNumbered_mark h _

theorem isNumbered_advanceAll {p : Progress} (h : p.levels.IsNumbered) (limit : Nat)
    (ts : List LineToken) : (p.advanceAll limit ts).levels.IsNumbered := by
  induction ts generalizing p with
  | nil => exact h
  | cons t ts ih => exact ih (isNumbered_advance h limit t)

end Progress

theorem isNumbered_levels (source : Text) : (ofSource source).levels.IsNumbered :=
  Progress.isNumbered_advanceAll LevelMap.isNumbered_nil _ _

end AnnotatedSource

end PageHighlight
