/-
  Level.lean --- emphasis levels, and which line of a block has which.

  WHAT THIS FILE IS FOR.  A line of a block may carry one of four levels of
  emphasis.  A `Level` cannot lie outside 1..4, so nothing downstream has to
  check it.  A `LevelMap` assigns levels to line numbers; it is kept in ascending
  order, and a later assignment to a line replaces the earlier one
  (`get?_insert`).
-/

set_option autoImplicit false

namespace PageHighlight

/-! ## Levels -/

/-- A level of emphasis, from 1 to 4. -/
structure Level where
  /-- The level as a number. -/
  val : Nat
  one_le : 1 ≤ val
  le_four : val ≤ 4
  deriving DecidableEq, Repr

namespace Level

/-- The lowest level, and the level of everything that names none. -/
def one : Level := ⟨1, by decide, by decide⟩

instance : Inhabited Level := ⟨one⟩

/-- The level with this number, if there is one. -/
def ofNat? (n : Nat) : Option Level :=
  if h : 1 ≤ n ∧ n ≤ 4 then some ⟨n, h.1, h.2⟩ else none

/-- The level nearest to a number. -/
def clamp (n : Nat) : Level := ⟨max 1 (min n 4), by omega, by omega⟩

@[ext] theorem ext {a b : Level} (h : a.val = b.val) : a = b := by
  cases a; cases b; cases h; rfl

@[simp] theorem ofNat?_val (l : Level) : ofNat? l.val = some l := by
  simp [ofNat?, l.one_le, l.le_four]

theorem ofNat?_eq_some {n : Nat} {l : Level} : ofNat? n = some l ↔ l.val = n := by
  constructor
  · intro h
    simp only [ofNat?] at h
    split at h
    · cases h; rfl
    · cases h
  · rintro rfl; exact ofNat?_val l

/-- Clamping leaves a level alone. -/
@[simp] theorem clamp_val (l : Level) : clamp l.val = l := by
  have := l.one_le
  have := l.le_four
  apply Level.ext
  show max 1 (min l.val 4) = l.val
  omega

end Level

/-! ## Levels of lines -/

/-- Line numbers with their levels, in ascending order of the numbers. -/
abbrev LevelMap : Type := List (Nat × Level)

namespace LevelMap

/-- Assign a level to a line, replacing the one it had. -/
def insert (n : Nat) (l : Level) : LevelMap → LevelMap
  | [] => [(n, l)]
  | (m, k) :: r =>
    if n < m then (n, l) :: (m, k) :: r
    else if n = m then (n, l) :: r
    else (m, k) :: insert n l r

/-- The level of a line. -/
def get? (n : Nat) (levels : LevelMap) : Option Level :=
  (levels.find? (·.1 = n)).map (·.2)

@[simp] theorem get?_nil (n : Nat) : get? n [] = none := rfl

theorem get?_cons (n m : Nat) (k : Level) (r : LevelMap) :
    get? n ((m, k) :: r) = if m = n then some k else get? n r := by
  unfold get?
  by_cases h : m = n <;> simp [h]

/-- A line has the level assigned to it last. -/
theorem get?_insert (m n : Nat) (l : Level) (levels : LevelMap) :
    get? m (insert n l levels) = if m = n then some l else get? m levels := by
  induction levels with
  | nil => simp [insert, get?_cons, eq_comm]
  | cons p r ih =>
    obtain ⟨k, v⟩ := p
    simp only [insert]
    split
    · simp only [get?_cons]
      by_cases h : m = n <;> by_cases h' : k = m <;> simp [h, h', eq_comm]
    · split
      · next h =>
        subst h
        simp only [get?_cons]
        by_cases h : n = m
        · simp [h]
        · have h' : ¬ m = n := fun e => h e.symm
          simp [h, h']
      · next h =>
        simp only [get?_cons, ih]
        by_cases hk : k = m
        · subst hk
          have : ¬ k = n := fun e => h e.symm
          simp [this]
        · simp [hk]

/-- The lines of a map are in strictly ascending order. -/
def Ascending (levels : LevelMap) : Prop := levels.Pairwise (·.1 < ·.1)

theorem mem_insert {p : Nat × Level} {n : Nat} {l : Level} {levels : LevelMap}
    (h : p ∈ insert n l levels) : p = (n, l) ∨ p ∈ levels := by
  induction levels with
  | nil => simpa [insert] using h
  | cons q r ih =>
    obtain ⟨k, v⟩ := q
    simp only [insert] at h
    split at h
    · simpa using h
    · split at h
      · rcases List.mem_cons.1 h with h | h
        · exact .inl h
        · exact .inr (List.mem_cons_of_mem _ h)
      · rcases List.mem_cons.1 h with h | h
        · exact .inr (h ▸ List.mem_cons_self)
        · exact (ih h).imp id (List.mem_cons_of_mem _)

theorem Ascending.insert {levels : LevelMap} (h : Ascending levels) (n : Nat) (l : Level) :
    Ascending (LevelMap.insert n l levels) := by
  induction levels with
  | nil => simp [Ascending, LevelMap.insert]
  | cons q r ih =>
    obtain ⟨k, v⟩ := q
    have hq := List.pairwise_cons.1 h
    simp only [LevelMap.insert]
    split
    · next hn =>
      refine List.pairwise_cons.2 ⟨?_, h⟩
      intro p hp
      rcases List.mem_cons.1 hp with hp | hp
      · subst hp; exact hn
      · exact Nat.lt_trans hn (hq.1 p hp)
    · split
      · next hn => subst hn; exact List.pairwise_cons.2 ⟨hq.1, hq.2⟩
      · next h1 h2 =>
        refine List.pairwise_cons.2 ⟨?_, ih hq.2⟩
        intro p hp
        rcases mem_insert hp with hp | hp
        · subst hp; show k < n; omega
        · exact hq.1 p hp

end LevelMap

end PageHighlight
