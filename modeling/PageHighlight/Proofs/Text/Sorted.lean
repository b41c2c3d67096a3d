/-
  Proofs/Text/Sorted.lean --- lists of texts as sets.

  WHAT THIS FILE IS FOR.  A set of texts is written in ascending order, each text once
  (`Text.Ascending`), and this is the only list that writes it so
  (`Text.Ascending.eq_of_mem_iff`).  There are two ways to it: leave out the repetitions
  and sort, or sort and leave out every text that its neighbour repeats
  (`Text.sort_distinct_eq_destutter`).

  REPETITIONS.  Without its repetitions a list keeps its members in the order in which
  they come first (`Text.pairwise_idxOf_distinct`).
-/
import Mathlib.Data.Char
import Mathlib.Data.List.Destutter
import Mathlib.Data.List.Induction
import Mathlib.Data.List.Sort
import PageHighlight.Text.Basic

set_option autoImplicit false

namespace PageHighlight

namespace Text

/-! ## The order of texts -/

theorem le_total (s t : Text) : (le s t || le t s) = true := by
  induction s generalizing t with
  | nil => simp [le]
  | cons a s ih =>
    cases t with
    | nil => simp [le]
    | cons b t =>
      have hst := ih t
      rcases lt_trichotomy a b with h | rfl | h
      · simp [le, h]
      · simpa [le] using hst
      · simp [le, h]

theorem le_trans (s t u : Text) (hst : le s t = true) (htu : le t u = true) :
    le s u = true := by
  induction s generalizing t u with
  | nil => rfl
  | cons a s ih =>
    cases t with
    | nil => simp [le] at hst
    | cons b t =>
      cases u with
      | nil => simp [le] at htu
      | cons c u =>
        simp only [le, Bool.or_eq_true, decide_eq_true_eq, Bool.and_eq_true, beq_iff_eq]
          at hst htu ⊢
        rcases hst with hab | ⟨rfl, hst⟩
        · rcases htu with hbc | ⟨rfl, -⟩
          · exact .inl (hab.trans hbc)
          · exact .inl hab
        · rcases htu with hac | ⟨rfl, htu⟩
          · exact .inl hac
          · exact .inr ⟨rfl, ih t u hst htu⟩

theorem le_antisymm (s t : Text) (hst : le s t = true) (hts : le t s = true) : s = t := by
  induction s generalizing t with
  | nil =>
    cases t with
    | nil => rfl
    | cons b t => simp [le] at hts
  | cons a s ih =>
    cases t with
    | nil => simp [le] at hst
    | cons b t =>
      simp only [le, Bool.or_eq_true, decide_eq_true_eq, Bool.and_eq_true, beq_iff_eq] at hst hts
      rcases hst with hab | ⟨rfl, hst⟩
      · rcases hts with hba | ⟨rfl, -⟩
        · exact absurd (hab.trans hba) (lt_irrefl a)
        · exact absurd hab (lt_irrefl b)
      · rcases hts with haa | ⟨-, hts⟩
        · exact absurd haa (lt_irrefl a)
        · rw [ih t hst hts]

instance : Std.Antisymm fun s t : Text => le s t = true := ⟨le_antisymm⟩

/-! ## Sorting -/

theorem perm_sort (ts : List Text) : (sort ts).Perm ts := ts.mergeSort_perm le

theorem pairwise_sort (ts : List Text) : (sort ts).Pairwise fun s t => le s t = true :=
  List.pairwise_mergeSort le_trans le_total ts

/-- Sorting forgets the order. -/
theorem sort_congr {ts us : List Text} (h : ts.Perm us) : sort ts = sort us :=
  List.Perm.eq_of_pairwise (fun s t _ _ => le_antisymm s t) (pairwise_sort ts) (pairwise_sort us)
    ((perm_sort ts).trans (h.trans (perm_sort us).symm))

theorem perm_of_sort_eq {ts us : List Text} (h : sort ts = sort us) : ts.Perm us :=
  (perm_sort ts).symm.trans (h ▸ perm_sort us)

/-- The texts stand in ascending order, and none of them is repeated. -/
structure Ascending (ts : List Text) : Prop where
  pairwise : ts.Pairwise fun s t => le s t = true
  nodup : ts.Nodup

namespace Ascending

theorem nil : Ascending [] := ⟨.nil, .nil⟩

theorem sort {ts : List Text} (h : ts.Nodup) : Ascending (sort ts) :=
  ⟨pairwise_sort ts, (perm_sort ts).nodup_iff.2 h⟩

/-- A set is written in one way. -/
theorem eq_of_mem_iff {ts us : List Text} (ht : Ascending ts) (hu : Ascending us)
    (h : ∀ t, t ∈ ts ↔ t ∈ us) : ts = us :=
  List.Perm.eq_of_pairwise (fun s t _ _ => le_antisymm s t) ht.pairwise hu.pairwise
    ((List.perm_ext_iff_of_nodup ht.nodup hu.nodup).2 h)

/-- Texts in ascending order are sorted already. -/
theorem sort_eq {ts : List Text} (h : Ascending ts) : Text.sort ts = ts :=
  eq_of_mem_iff (.sort h.nodup) h fun _ => (perm_sort ts).mem_iff

end Ascending

/-! ## Lists without repetitions -/

section Distinct

variable {α : Type} [BEq α]

theorem distinct_concat_eq (xs : List α) (x : α) :
    distinct (xs ++ [x]) =
      if (distinct xs).contains x then distinct xs else distinct xs ++ [x] := by
  unfold distinct
  rw [List.foldl_append]
  rfl

variable [LawfulBEq α]

theorem mem_distinct {xs : List α} {x : α} : x ∈ distinct xs ↔ x ∈ xs := by
  induction xs using List.reverseRecOn with
  | nil => rfl
  | append_singleton xs y ih =>
    rw [distinct_concat_eq, List.mem_append, List.mem_singleton]
    split
    · next hy =>
      have hy : y ∈ distinct xs := List.contains_iff_mem.1 hy
      rw [ih]
      exact ⟨.inl, fun h => h.elim id fun h => ih.1 (h ▸ hy)⟩
    · rw [List.mem_append, List.mem_singleton, ih]

theorem distinct_concat (xs : List α) (x : α) [Decidable (x ∈ xs)] :
    distinct (xs ++ [x]) = if x ∈ xs then distinct xs else distinct xs ++ [x] := by
  simp only [distinct_concat_eq, List.contains_iff_mem, mem_distinct]

/-- The members that are left stand in the order in which they come first. -/
theorem pairwise_idxOf_distinct (xs : List α) :
    (distinct xs).Pairwise fun x y => xs.idxOf x < xs.idxOf y := by
  classical
  induction xs using List.reverseRecOn with
  | nil => exact .nil
  | append_singleton xs z ih =>
    have hsame : ∀ x ∈ distinct xs, (xs ++ [z]).idxOf x = xs.idxOf x := fun x hx =>
      List.idxOf_append_of_mem (mem_distinct.1 hx)
    have hbefore : (distinct xs).Pairwise fun x y => (xs ++ [z]).idxOf x < (xs ++ [z]).idxOf y :=
      ih.imp_of_mem fun {x y} hx hy hxy => by rwa [hsame x hx, hsame y hy]
    rw [distinct_concat]
    split
    · exact hbefore
    · next hz =>
      refine List.pairwise_append.2 ⟨hbefore, List.pairwise_singleton _ z, fun x hx y hy => ?_⟩
      rw [List.mem_singleton.1 hy, hsame x hx, List.idxOf_append_of_notMem hz]
      exact Nat.lt_of_lt_of_le (List.idxOf_lt_length_of_mem (mem_distinct.1 hx))
        (Nat.le_add_right _ _)

theorem nodup_distinct (xs : List α) : (distinct xs).Nodup :=
  (pairwise_idxOf_distinct xs).imp fun hlt heq => by
    rw [heq] at hlt
    exact Nat.lt_irrefl _ hlt

theorem head?_distinct (xs : List α) : (distinct xs).head? = xs.head? := by
  classical
  induction xs using List.reverseRecOn with
  | nil => rfl
  | append_singleton xs z ih =>
    rw [distinct_concat]
    split
    · next hz => rw [ih, List.head?_append_of_ne_nil xs (List.ne_nil_of_mem hz)]
    · rw [List.head?_append, List.head?_append, ih]

end Distinct

theorem ascending_sort_distinct (ts : List Text) : Ascending (sort (distinct ts)) :=
  .sort (nodup_distinct ts)

theorem mem_sort_distinct {ts : List Text} {t : Text} : t ∈ sort (distinct ts) ↔ t ∈ ts :=
  (perm_sort _).mem_iff.trans mem_distinct

/-- Lists without their repetitions, sorted, are the same if and only if they have the same
members. -/
theorem sort_distinct_eq_iff {ts us : List Text} :
    sort (distinct ts) = sort (distinct us) ↔ ∀ t, t ∈ ts ↔ t ∈ us := by
  constructor
  · intro h t
    rw [← mem_sort_distinct, h, mem_sort_distinct]
  · intro h
    refine (ascending_sort_distinct ts).eq_of_mem_iff (ascending_sort_distinct us) fun t => ?_
    rw [mem_sort_distinct, mem_sort_distinct, h]

/-- Sorting brings the repetitions of a text together, so that it is enough to compare
neighbours. -/
theorem sort_distinct_eq_destutter (ts : List Text) :
    sort (distinct ts) = (sort ts).destutter (· ≠ ·) := by
  have hdedup : (sort ts).destutter (· ≠ ·) = (sort ts).dedup :=
    (pairwise_sort ts).destutter_eq_dedup
  have hascending : Ascending (sort ts).dedup :=
    ⟨(pairwise_sort ts).sublist (sort ts).dedup_sublist, (sort ts).nodup_dedup⟩
  rw [hdedup]
  refine (ascending_sort_distinct ts).eq_of_mem_iff hascending fun t => ?_
  rw [mem_sort_distinct, List.mem_dedup, (perm_sort ts).mem_iff]

end Text

end PageHighlight
