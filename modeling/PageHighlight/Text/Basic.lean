/-
  Text/Basic.lean --- texts as lists of characters: prefixes, first occurrences,
  splitting and joining.

  WHAT THIS FILE IS FOR.  Everything a page is made of is text, and almost every
  rule of the library cuts one: a line at a comment opener, a tag at its `>`, a
  list at its commas.  A text is a list of characters, so each cut is a function
  on lists and says what it keeps: the pieces of a cut, put together again, are
  the text (`split?_eq_some`, `join_splitOn`).

  POSITIONS.  Lines and columns that the library reports count UTF-8 bytes
  (`byteLength`); nothing else depends on an encoding.
-/

set_option autoImplicit false

namespace PageHighlight

/-- A text: a list of Unicode scalar values. -/
abbrev Text : Type := List Char

instance : Coe String Text := ⟨String.toList⟩

namespace Text

/-! ## Size -/

/-- The number of bytes of the UTF-8 encoding of a text. -/
def byteLength (t : Text) : Nat := t.foldr (fun c n => c.utf8Size + n) 0

@[simp] theorem byteLength_nil : byteLength [] = 0 := rfl

@[simp] theorem byteLength_cons (c : Char) (t : Text) :
    byteLength (c :: t) = c.utf8Size + byteLength t := rfl

@[simp] theorem byteLength_append (s t : Text) :
    byteLength (s ++ t) = byteLength s + byteLength t := by
  induction s with
  | nil => simp
  | cons c s ih => rw [List.cons_append, byteLength_cons, byteLength_cons, ih, Nat.add_assoc]

/-! ## Prefixes and suffixes -/

/-- What follows `start` in `t`, if `t` begins with it. -/
def dropPrefix? (start : Text) (t : Text) : Option Text :=
  if start.isPrefixOf t then some (t.drop start.length) else none

/-- What precedes `tail` in `t`, if `t` ends with it. -/
def dropSuffix? (tail : Text) (t : Text) : Option Text :=
  if tail.isSuffixOf t then some (t.take (t.length - tail.length)) else none

theorem dropPrefix?_eq_some {start t r : Text} :
    dropPrefix? start t = some r ↔ t = start ++ r := by
  unfold dropPrefix?
  constructor
  · intro h
    split at h
    · next hp =>
      rw [List.isPrefixOf_iff_prefix] at hp
      obtain ⟨u, rfl⟩ := hp
      simp at h
      simp [h]
    · cases h
  · rintro rfl
    have : start.isPrefixOf (start ++ r) = true := by
      rw [List.isPrefixOf_iff_prefix]; exact ⟨r, rfl⟩
    simp [this]

theorem dropSuffix?_eq_some {tail t r : Text} :
    dropSuffix? tail t = some r ↔ t = r ++ tail := by
  unfold dropSuffix?
  constructor
  · intro h
    split at h
    · next hp =>
      rw [List.isSuffixOf_iff_suffix] at hp
      obtain ⟨u, rfl⟩ := hp
      simp at h
      simp [h]
    · cases h
  · rintro rfl
    have : tail.isSuffixOf (r ++ tail) = true := by
      rw [List.isSuffixOf_iff_suffix]; exact ⟨r, rfl⟩
    simp [this]

/-! ## Occurrences -/

/-- The first occurrence of `pattern`: what stands before and after it. -/
def split? (pattern : Text) : Text → Option (Text × Text)
  | [] => if pattern.isEmpty then some ([], []) else none
  | c :: r =>
    match dropPrefix? pattern (c :: r) with
    | some after => some ([], after)
    | none => (split? pattern r).map fun p => (c :: p.1, p.2)

/-- The pieces of a cut, with the pattern between them, are the text. -/
theorem split?_eq_some {pattern t a b : Text} (h : split? pattern t = some (a, b)) :
    t = a ++ pattern ++ b := by
  induction t generalizing a b with
  | nil =>
    simp only [split?] at h
    split at h
    · next hp => simp at h hp; simp [h, hp]
    · cases h
  | cons c r ih =>
    simp only [split?] at h
    split at h
    · next after hd =>
      rw [dropPrefix?_eq_some] at hd
      simp at h
      simp [← h.1, ← h.2, hd]
    · obtain ⟨p, hp, he⟩ := Option.map_eq_some_iff.1 h
      have := ih (a := p.1) (b := p.2) hp
      simp at he
      rw [this, ← he.1, ← he.2]
      simp

/-- Every place where `pattern` begins, left to right: the text before the place,
and the text from the place on. -/
def occurrences (pattern : Text) : Text → List (Text × Text)
  | [] => []
  | c :: r =>
    let later := (occurrences pattern r).map fun p => (c :: p.1, p.2)
    if pattern.isPrefixOf (c :: r) then ([], c :: r) :: later else later

/-- Every place cuts the text in two. -/
theorem append_of_mem_occurrences {pattern t a b : Text} (h : (a, b) ∈ occurrences pattern t) :
    t = a ++ b := by
  induction t generalizing a b with
  | nil => simp [occurrences] at h
  | cons c r ih =>
    have later : (a, b) ∈ (occurrences pattern r).map (fun p => (c :: p.1, p.2)) →
        c :: r = a ++ b := by
      intro hm
      obtain ⟨p, hp, he⟩ := List.mem_map.1 hm
      simp at he
      have := ih (a := p.1) (b := p.2) hp
      rw [← he.1, ← he.2, List.cons_append, ← this]
    simp only [occurrences] at h
    split at h
    · rcases List.mem_cons.1 h with h | h
      · simp at h; simp [h]
      · exact later h
    · exact later h

/-- Whether `pattern` occurs in a text. -/
def hasInfix (pattern t : Text) : Bool := (split? pattern t).isSome

/-! ## Splitting and joining -/

/-- The pieces between the separators, in order; a text without a separator is
one piece. -/
def splitOn (sep : Char) : Text → List Text
  | [] => [[]]
  | c :: r =>
    if c = sep then [] :: splitOn sep r
    else
      match splitOn sep r with
      | [] => [[c]]
      | p :: ps => (c :: p) :: ps

/-- The pieces, in order, with `sep` between neighbours. -/
def join (sep : Text) : List Text → Text
  | [] => []
  | [p] => p
  | p :: q :: ps => p ++ sep ++ join sep (q :: ps)

/-- The lines of a text; a final line break opens an empty last line. -/
def lines (t : Text) : List Text := splitOn '\n' t

/-- The text of a list of lines. -/
def unlines (ls : List Text) : Text := join ['\n'] ls

theorem splitOn_ne_nil (sep : Char) (t : Text) : splitOn sep t ≠ [] := by
  induction t with
  | nil => simp [splitOn]
  | cons c r ih =>
    simp only [splitOn]
    split
    · simp
    · split <;> simp

/-- Joining the pieces with the separator between them gives the text back. -/
theorem join_splitOn (sep : Char) (t : Text) : join [sep] (splitOn sep t) = t := by
  induction t with
  | nil => rfl
  | cons c r ih =>
    simp only [splitOn]
    split
    · next h =>
      cases hs : splitOn sep r with
      | nil => exact absurd hs (splitOn_ne_nil sep r)
      | cons p ps => rw [hs] at ih; simp [join, ih, h]
    · cases hs : splitOn sep r with
      | nil => exact absurd hs (splitOn_ne_nil sep r)
      | cons p ps =>
        rw [hs] at ih
        cases ps with
        | nil => simpa [join] using ih
        | cons q qs => simpa [join] using ih

/-- The text of the lines of a text is the text. -/
theorem unlines_lines (t : Text) : unlines (lines t) = t := join_splitOn '\n' t

/-! ## ASCII letter case -/

/-- A text with its ASCII capitals made small; every other character stays. -/
def asciiLower (t : Text) : Text := t.map Char.toLower

/-! ## Order -/

/-- The order of texts by code point, a proper prefix first. -/
def le : Text → Text → Bool
  | [], _ => true
  | _ :: _, [] => false
  | a :: s, b :: t => a < b || (a == b && le s t)

/-- The texts of a list in ascending order. -/
def sort (ts : List Text) : List Text := ts.mergeSort le

/-- A list without later repetitions. -/
def distinct {α : Type} [BEq α] (xs : List α) : List α :=
  xs.foldl (fun seen x => if seen.contains x then seen else seen ++ [x]) []

end Text

end PageHighlight
