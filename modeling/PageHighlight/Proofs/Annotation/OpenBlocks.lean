/-
  Proofs/Annotation/OpenBlocks.lean --- which blocks of levels are open before a line.

  WHAT THIS FILE IS FOR.  A line that opens a block and the line that closes it match
  like brackets.  Whether a block is open can be said without a stack: it is, as long
  as no more blocks were closed after its first line than were opened after it
  (`IsOpenBefore`).  While lines are taken in, the levels of the open blocks are kept
  as a list, innermost first; `nested_advanceAll` says that the list has exactly the
  open ones, the latest first.

  THE INVARIANT.  Of the lines after the `m`-th listed block, `m` more open a block
  than close one (`Nested.balance`).  So a line that closes a block closes the first
  one of the list and no other.
-/
import PageHighlight.AnnotatedSource

set_option autoImplicit false

namespace PageHighlight

namespace LineToken

/-- The level of the block that a line opens, if it opens one. -/
def opened? : LineToken → Option Level
  | whole (.start level) | trailing _ (.start level) => some level
  | _ => none

/-- Whether a line opens a block. -/
def opens (t : LineToken) : Bool := t.opened?.isSome

/-- Whether a line closes a block. -/
def closes : LineToken → Bool
  | whole .stop | trailing _ .stop => true
  | _ => false

theorem not_closes_of_opened? {t : LineToken} {level : Level} (h : t.opened? = some level) :
    t.closes = false := by
  unfold opened? at h
  split at h
  · rfl
  · rfl
  · cases h

end LineToken

namespace AnnotatedSource

/-! ## Lines between two others -/

/-- The lines after line `s` and before line `k`. -/
def between (toks : List LineToken) (s k : Nat) : List LineToken := (toks.take k).drop (s + 1)

/-- How many lines after line `s` and before line `k` open a block. -/
def openings (toks : List LineToken) (s k : Nat) : Nat := (between toks s k).countP (·.opens)

/-- How many lines after line `s` and before line `k` close a block. -/
def closings (toks : List LineToken) (s k : Nat) : Nat := (between toks s k).countP (·.closes)

section Between

variable {toks : List LineToken} {s k : Nat} {t : LineToken}

theorem between_succ (hk : toks[k]? = some t) (hs : s < k) :
    between toks s (k + 1) = between toks s k ++ [t] := by
  have hlt : k < toks.length := (List.getElem?_eq_some_iff.1 hk).1
  unfold between
  rw [List.take_add_one, hk, Option.toList_some, List.drop_append_of_le_length]
  rw [List.length_take]
  omega

theorem between_self (toks : List LineToken) (k : Nat) : between toks k (k + 1) = [] := by
  unfold between
  rw [List.drop_eq_nil_iff, List.length_take]
  omega

theorem openings_succ (hk : toks[k]? = some t) (hs : s < k) :
    openings toks s (k + 1) = openings toks s k + if t.opens then 1 else 0 := by
  unfold openings
  rw [between_succ hk hs, List.countP_append, List.countP_singleton]

theorem closings_succ (hk : toks[k]? = some t) (hs : s < k) :
    closings toks s (k + 1) = closings toks s k + if t.closes then 1 else 0 := by
  unfold closings
  rw [between_succ hk hs, List.countP_append, List.countP_singleton]

theorem openings_self (toks : List LineToken) (k : Nat) : openings toks k (k + 1) = 0 := by
  rw [openings, between_self, List.countP_nil]

theorem closings_self (toks : List LineToken) (k : Nat) : closings toks k (k + 1) = 0 := by
  rw [closings, between_self, List.countP_nil]

end Between

/-! ## Open blocks -/

/-- Line `s` opens a block that is still open before line `i`: up to no line between
them were more blocks closed after line `s` than opened. -/
def IsOpenBefore (toks : List LineToken) (s i : Nat) : Prop :=
  s < i ∧ (∃ t, toks[s]? = some t ∧ t.opens = true) ∧
    ∀ j, s < j → j < i → closings toks s (j + 1) ≤ openings toks s (j + 1)

/-- The block that was opened last of those that are open before line `i` has this
level. -/
def Innermost (toks : List LineToken) (i : Nat) (level : Level) : Prop :=
  ∃ s t, IsOpenBefore toks s i ∧ (∀ s', IsOpenBefore toks s' i → s' ≤ s) ∧
    toks[s]? = some t ∧ t.opened? = some level

theorem not_isOpenBefore_zero (toks : List LineToken) (s : Nat) : ¬ IsOpenBefore toks s 0 :=
  fun h => Nat.not_lt_zero s h.1

/-- The open blocks before the next line: those that are still open, and the one that
this line opens. -/
theorem isOpenBefore_succ {toks : List LineToken} {k : Nat} {t : LineToken}
    (hk : toks[k]? = some t) (s : Nat) :
    IsOpenBefore toks s (k + 1) ↔
      (s = k ∧ t.opens = true) ∨
      (IsOpenBefore toks s k ∧ closings toks s (k + 1) ≤ openings toks s (k + 1)) := by
  constructor
  · rintro ⟨hs, ⟨u, hu, hopens⟩, hcount⟩
    rcases Nat.lt_or_eq_of_le (Nat.le_of_lt_succ hs) with hlt | rfl
    · refine .inr ⟨⟨hlt, ⟨u, hu, hopens⟩, ?_⟩, hcount k hlt (Nat.lt_succ_self k)⟩
      intro j hj hjk
      exact hcount j hj (Nat.lt_succ_of_lt hjk)
    · rw [hk] at hu
      cases hu
      exact .inl ⟨rfl, hopens⟩
  · rintro (⟨rfl, hopens⟩ | ⟨⟨hs, hu, hcount⟩, hlast⟩)
    · refine ⟨Nat.lt_succ_self s, ⟨t, hk, hopens⟩, ?_⟩
      intro j hj hjs
      omega
    · refine ⟨Nat.lt_succ_of_lt hs, hu, ?_⟩
      intro j hj hjk
      rcases Nat.lt_or_eq_of_le (Nat.le_of_lt_succ hjk) with hlt | rfl
      · exact hcount j hj hlt
      · exact hlast

/-! ## The list of open blocks -/

/-- The blocks that are open before line `k`, the latest first, each with its first
line and its level. -/
structure Nested (toks : List LineToken) (k : Nat) (blocks : List (Nat × Level)) : Prop where
  opened : ∀ b ∈ blocks, ∃ t, toks[b.1]? = some t ∧ t.opened? = some b.2
  listed : ∀ s, IsOpenBefore toks s k ↔ ∃ level, (s, level) ∈ blocks
  latestFirst : blocks.Pairwise fun b c => c.1 < b.1
  balance : ∀ m b, blocks[m]? = some b → openings toks b.1 k = closings toks b.1 k + m

namespace Nested

variable {toks : List LineToken} {k : Nat} {t : LineToken} {blocks : List (Nat × Level)}

theorem zero (toks : List LineToken) : Nested toks 0 [] where
  opened b hb := by cases hb
  listed s := ⟨fun h => absurd h (not_isOpenBefore_zero toks s), fun ⟨_, h⟩ => by cases h⟩
  latestFirst := .nil
  balance m b hb := by cases hb

theorem lt (h : Nested toks k blocks) {b : Nat × Level} (hb : b ∈ blocks) : b.1 < k :=
  ((h.listed b.1).2 ⟨b.2, hb⟩).1

/-- A line that neither opens nor closes a block changes nothing. -/
theorem keep (h : Nested toks k blocks) (hk : toks[k]? = some t) (ho : t.opens = false)
    (hc : t.closes = false) : Nested toks (k + 1) blocks := by
  refine ⟨h.opened, ?_, h.latestFirst, ?_⟩
  · intro s
    rw [isOpenBefore_succ hk, ← h.listed]
    constructor
    · rintro (⟨-, hopens⟩ | ⟨hopen, -⟩)
      · rw [ho] at hopens
        cases hopens
      · exact hopen
    · intro hopen
      refine .inr ⟨hopen, ?_⟩
      obtain ⟨level, hmem⟩ := (h.listed s).1 hopen
      obtain ⟨m, hm⟩ := List.mem_iff_getElem?.1 hmem
      have hbalance := h.balance m _ hm
      rw [openings_succ hk hopen.1, closings_succ hk hopen.1, ho, hc]
      simp only at hbalance
      simp only [Bool.false_eq_true, if_false]
      omega
  · intro m b hb
    have hlt := h.lt (List.mem_of_getElem? hb)
    rw [openings_succ hk hlt, closings_succ hk hlt, ho, hc]
    exact h.balance m b hb

/-- A line that opens a block puts it first. -/
theorem push (h : Nested toks k blocks) (hk : toks[k]? = some t) {level : Level}
    (ho : t.opened? = some level) : Nested toks (k + 1) ((k, level) :: blocks) := by
  have hopens : t.opens = true := by
    rw [LineToken.opens, ho]
    rfl
  have hcloses : t.closes = false := LineToken.not_closes_of_opened? ho
  refine ⟨?_, ?_, ?_, ?_⟩
  · intro b hb
    rcases List.mem_cons.1 hb with rfl | hb
    · exact ⟨t, hk, ho⟩
    · exact h.opened b hb
  · intro s
    rw [isOpenBefore_succ hk]
    constructor
    · rintro (⟨rfl, -⟩ | ⟨hopen, -⟩)
      · exact ⟨level, List.mem_cons_self⟩
      · obtain ⟨level', hmem⟩ := (h.listed s).1 hopen
        exact ⟨level', List.mem_cons_of_mem _ hmem⟩
    · rintro ⟨level', hmem⟩
      rcases List.mem_cons.1 hmem with he | hmem
      · cases he
        exact .inl ⟨rfl, hopens⟩
      · have hopen := (h.listed s).2 ⟨level', hmem⟩
        obtain ⟨m, hm⟩ := List.mem_iff_getElem?.1 hmem
        have hbalance := h.balance m _ hm
        refine .inr ⟨hopen, ?_⟩
        rw [openings_succ hk hopen.1, closings_succ hk hopen.1, hopens, hcloses]
        simp only at hbalance
        simp only [Bool.false_eq_true, if_false, if_true]
        omega
  · exact List.pairwise_cons.2 ⟨fun b hb => h.lt hb, h.latestFirst⟩
  · intro m b hb
    cases m with
    | zero =>
      cases hb
      rw [openings_self, closings_self]
    | succ m =>
      have hb' : blocks[m]? = some b := hb
      have hlt := h.lt (List.mem_of_getElem? hb')
      have hbalance := h.balance m b hb'
      rw [openings_succ hk hlt, closings_succ hk hlt, hopens, hcloses]
      simp only [Bool.false_eq_true, if_false, if_true]
      omega

/-- A line that closes a block closes the first one. -/
theorem pop (h : Nested toks k blocks) (hk : toks[k]? = some t) (hc : t.closes = true) :
    Nested toks (k + 1) blocks.tail := by
  have hopens : t.opens = false := by
    cases ho : t.opened? with
    | none => rw [LineToken.opens, ho]; rfl
    | some level =>
      rw [LineToken.not_closes_of_opened? ho] at hc
      cases hc
  -- A listed block stays open exactly if some block was opened after it.
  have still : ∀ m b, blocks[m]? = some b →
      (closings toks b.1 (k + 1) ≤ openings toks b.1 (k + 1) ↔ 0 < m) := by
    intro m b hb
    have hlt := h.lt (List.mem_of_getElem? hb)
    have hbalance := h.balance m b hb
    rw [openings_succ hk hlt, closings_succ hk hlt, hopens, hc]
    simp only [Bool.false_eq_true, if_false, if_true]
    omega
  refine ⟨fun b hb => h.opened b (List.mem_of_mem_tail hb), ?_, ?_, ?_⟩
  · intro s
    rw [isOpenBefore_succ hk]
    constructor
    · rintro (⟨-, ho⟩ | ⟨hopen, hcount⟩)
      · rw [hopens] at ho
        cases ho
      · obtain ⟨level, hmem⟩ := (h.listed s).1 hopen
        obtain ⟨m, hm⟩ := List.mem_iff_getElem?.1 hmem
        have hpos := (still m _ hm).1 hcount
        obtain ⟨m, rfl⟩ := Nat.exists_eq_succ_of_ne_zero (Nat.ne_of_gt hpos)
        refine ⟨level, List.mem_of_getElem? (i := m) ?_⟩
        rw [List.getElem?_tail]
        exact hm
    · rintro ⟨level, hmem⟩
      obtain ⟨m, hm⟩ := List.mem_iff_getElem?.1 hmem
      rw [List.getElem?_tail] at hm
      exact .inr ⟨(h.listed s).2 ⟨level, List.mem_of_mem_tail hmem⟩,
        (still (m + 1) _ hm).2 (Nat.succ_pos m)⟩
  · exact h.latestFirst.tail
  · intro m b hb
    rw [List.getElem?_tail] at hb
    have hlt := h.lt (List.mem_of_getElem? hb)
    have hbalance := h.balance (m + 1) b hb
    rw [openings_succ hk hlt, closings_succ hk hlt, hopens, hc]
    simp only [Bool.false_eq_true, if_false, if_true]
    omega

/-- The first listed block is the innermost one. -/
theorem head?_eq_some (h : Nested toks k blocks) (level : Level) :
    (blocks.map (·.2)).head? = some level ↔ Innermost toks k level := by
  cases blocks with
  | nil =>
    constructor
    · intro he
      cases he
    · rintro ⟨s, t, hopen, -⟩
      obtain ⟨_, hmem⟩ := (h.listed s).1 hopen
      cases hmem
  | cons b blocks =>
    obtain ⟨t, ht, hopened⟩ := h.opened b List.mem_cons_self
    have hopen : IsOpenBefore toks b.1 k := (h.listed b.1).2 ⟨b.2, List.mem_cons_self⟩
    have hlatest : ∀ s, IsOpenBefore toks s k → s ≤ b.1 := by
      intro s hs
      obtain ⟨level, hmem⟩ := (h.listed s).1 hs
      rcases List.mem_cons.1 hmem with he | hmem
      · exact Nat.le_of_eq (congrArg Prod.fst he)
      · exact Nat.le_of_lt ((List.pairwise_cons.1 h.latestFirst).1 _ hmem)
    rw [List.map_cons, List.head?_cons, Option.some_inj]
    constructor
    · rintro rfl
      exact ⟨b.1, t, hopen, hlatest, ht, hopened⟩
    · rintro ⟨s, t', hs, hlast, ht', hopened'⟩
      have hsame : s = b.1 := Nat.le_antisymm (hlatest s hs) (hlast b.1 hopen)
      subst hsame
      rw [ht] at ht'
      cases ht'
      rw [hopened] at hopened'
      exact Option.some.inj hopened'

end Nested

/-! ## What is taken in -/

namespace Progress

theorem advanceAll_take_succ (limit : Nat) (p : Progress) {toks : List LineToken} {k : Nat}
    {t : LineToken} (hk : toks[k]? = some t) :
    p.advanceAll limit (toks.take (k + 1)) =
      (p.advanceAll limit (toks.take k)).advance limit t := by
  unfold advanceAll
  rw [List.take_add_one, hk, Option.toList_some, List.foldl_append]
  rfl

/-- The levels of the open blocks after a line. -/
theorem openLevels_advance (limit : Nat) (p : Progress) (t : LineToken) :
    (p.advance limit t).openLevels =
      if t.closes then p.openLevels.tail else t.opened?.toList ++ p.openLevels := by
  cases t with
  | code text => rfl
  | whole d => cases d <;> rfl
  | trailing code d => cases d <;> rfl

end Progress

/-- The levels that are kept while lines are taken in are those of the open blocks,
innermost first. -/
theorem nested_advanceAll (limit : Nat) (toks : List LineToken) (k : Nat) (hk : k ≤ toks.length) :
    ∃ blocks, Nested toks k blocks ∧
      (Progress.start.advanceAll limit (toks.take k)).openLevels = blocks.map (·.2) := by
  induction k with
  | zero => exact ⟨[], Nested.zero toks, rfl⟩
  | succ k ih =>
    obtain ⟨blocks, hnested, hlevels⟩ := ih (Nat.le_of_succ_le hk)
    have ht : toks[k]? = some toks[k] := List.getElem?_eq_getElem hk
    rw [Progress.advanceAll_take_succ limit _ ht, Progress.openLevels_advance, hlevels]
    cases hcloses : toks[k].closes with
    | true => exact ⟨blocks.tail, hnested.pop ht hcloses, (List.map_tail).symm⟩
    | false =>
      cases hopened : toks[k].opened? with
      | none =>
        have hopens : toks[k].opens = false := by rw [LineToken.opens, hopened]; rfl
        exact ⟨blocks, hnested.keep ht hopens hcloses, rfl⟩
      | some level => exact ⟨(k, level) :: blocks, hnested.push ht hopened, rfl⟩

/-- The level that comes first is that of the innermost open block. -/
theorem head?_openLevels (limit : Nat) (toks : List LineToken) {k : Nat} (hk : k ≤ toks.length)
    (level : Level) :
    (Progress.start.advanceAll limit (toks.take k)).openLevels.head? = some level ↔
      Innermost toks k level := by
  obtain ⟨blocks, hnested, hlevels⟩ := nested_advanceAll limit toks k hk
  rw [hlevels]
  exact hnested.head?_eq_some level

end AnnotatedSource

end PageHighlight
