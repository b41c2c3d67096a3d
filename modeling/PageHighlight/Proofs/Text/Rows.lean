/-
  Proofs/Text/Rows.lean --- the rows of a text, by the bytes that stand on them.

  WHAT THIS FILE IS FOR.  Lines of a text are counted in two ways: a byte is on the row that
  as many line breaks stand before (`Text.rowAt`), and a row begins behind the lines before
  it, each with its line break (`Text.rowStart`).  The two agree: a row begins at or before
  a byte if and only if the byte is on this row or on a later one (`Text.rowStart_le_iff`).
-/
import PageHighlight.Text.Basic

set_option autoImplicit false

namespace PageHighlight

namespace Text

variable {source : Text} {byte byte' row : Nat}

/-! ## Lines -/

theorem length_splitOn_cons (sep c : Char) (t : Text) :
    (splitOn sep (c :: t)).length = (splitOn sep t).length + if c = sep then 1 else 0 := by
  rw [splitOn]
  split
  · rfl
  · cases h : splitOn sep t with
    | nil => exact absurd h (splitOn_ne_nil sep t)
    | cons p ps => rfl

/-- The offset at which a row begins: the size of the lines before it, each with its line
break. -/
def rowStart (source : Text) (row : Nat) : Nat :=
  byteLength (((lines source).take row).flatMap (· ++ ['\n']))

@[simp] theorem rowStart_zero (source : Text) : rowStart source 0 = 0 := rfl

theorem rowStart_break_cons (t : Text) (row : Nat) :
    rowStart ('\n' :: t) (row + 1) = 1 + rowStart t row := by
  have hsize : '\n'.utf8Size = 1 := rfl
  simp [rowStart, lines, splitOn, hsize]

theorem rowStart_cons {c : Char} (h : c ≠ '\n') (t : Text) (row : Nat) :
    rowStart (c :: t) (row + 1) = c.utf8Size + rowStart t (row + 1) := by
  unfold rowStart lines
  rw [splitOn, if_neg h]
  cases hlines : splitOn '\n' t with
  | nil => exact absurd hlines (splitOn_ne_nil '\n' t)
  | cons l ls => simp

/-! ## Line breaks -/

/-- The offsets of the line breaks of a text that begins at an offset. -/
def breaksFrom : Nat → Text → List Nat
  | _, [] => []
  | offset, c :: r =>
    if c = '\n' then offset :: breaksFrom (offset + c.utf8Size) r
    else breaksFrom (offset + c.utf8Size) r

/-- The row that a byte is on: the number of line breaks before it. -/
def rowAt (source : Text) (byte : Nat) : Nat := (breaksFrom 0 source).countP (· < byte)

/-- The column of a byte, counted in bytes from the beginning of its row. -/
def column (source : Text) (byte : Nat) : Nat := byte - rowStart source (rowAt source byte)

theorem length_breaksFrom (offset : Nat) (source : Text) :
    (breaksFrom offset source).length + 1 = (lines source).length := by
  induction source generalizing offset with
  | nil => rfl
  | cons c r ih =>
    have hrest := ih (offset + c.utf8Size)
    rw [lines, length_splitOn_cons, breaksFrom]
    unfold lines at hrest
    split
    · simp only [List.length_cons]
      omega
    · omega

theorem le_of_mem_breaksFrom {offset o : Nat} (h : o ∈ breaksFrom offset source) : offset ≤ o := by
  induction source generalizing offset with
  | nil => cases h
  | cons c r ih =>
    rw [breaksFrom] at h
    split at h
    · rcases List.mem_cons.1 h with rfl | h
      · exact Nat.le_refl _
      · exact Nat.le_of_add_right_le (ih h)
    · exact Nat.le_of_add_right_le (ih h)

theorem pairwise_breaksFrom (offset : Nat) (source : Text) :
    (breaksFrom offset source).Pairwise (· < ·) := by
  induction source generalizing offset with
  | nil => exact .nil
  | cons c r ih =>
    rw [breaksFrom]
    split
    · refine List.pairwise_cons.2 ⟨fun o ho => ?_, ih _⟩
      have hsize := c.utf8Size_pos
      have hle := le_of_mem_breaksFrom ho
      omega
    · exact ih _

/-- The next row begins behind a line break. -/
theorem rowStart_succ {offset o i : Nat} (h : (breaksFrom offset source)[i]? = some o) :
    offset + rowStart source (i + 1) = o + 1 := by
  induction source generalizing offset i with
  | nil => cases h
  | cons c r ih =>
    rw [breaksFrom] at h
    by_cases hc : c = '\n'
    · subst hc
      rw [if_pos rfl] at h
      rw [rowStart_break_cons]
      cases i with
      | zero =>
        obtain rfl : offset = o := Option.some.inj h
        rfl
      | succ i =>
        have hrest : offset + 1 + rowStart r (i + 1) = o + 1 := ih h
        omega
    · rw [if_neg hc] at h
      rw [rowStart_cons hc, ← Nat.add_assoc]
      exact ih h

/-! ## Rows of bytes -/

theorem countP_lt_eq_zero {os : List Nat} (h : ∀ o ∈ os, byte ≤ o) : os.countP (· < byte) = 0 :=
  List.countP_eq_zero.2 fun o ho => by simpa using h o ho

/-- In an ascending list those that are less than a bound stand at its beginning. -/
theorem lt_countP_iff {os : List Nat} (hos : os.Pairwise (· < ·)) {i o : Nat}
    (h : os[i]? = some o) : i < os.countP (· < byte) ↔ o < byte := by
  induction os generalizing i with
  | nil => cases h
  | cons first os ih =>
    obtain ⟨hfirst, hrest⟩ := List.pairwise_cons.1 hos
    rw [List.countP_cons]
    by_cases hlt : first < byte
    · rw [if_pos (decide_eq_true hlt), Nat.lt_add_one_iff]
      cases i with
      | zero =>
        obtain rfl : first = o := Option.some.inj h
        exact iff_of_true (Nat.zero_le _) hlt
      | succ i => exact ih hrest (i := i) h
    · have hnone : os.countP (· < byte) = 0 :=
        countP_lt_eq_zero fun o' ho' => Nat.le_of_lt (Nat.lt_of_le_of_lt (Nat.not_lt.1 hlt)
          (hfirst o' ho'))
      have hge : byte ≤ o := by
        cases i with
        | zero => exact Option.some.inj h ▸ Nat.not_lt.1 hlt
        | succ i =>
          have hgt := hfirst o (List.mem_of_getElem? h)
          omega
      rw [if_neg (by simpa using hlt), hnone]
      exact iff_of_false (Nat.not_lt_zero i) (Nat.not_lt.2 hge)

theorem rowAt_lt_length (source : Text) (byte : Nat) :
    rowAt source byte < (lines source).length := by
  have hle : rowAt source byte ≤ (breaksFrom 0 source).length := List.countP_le_length
  have hlength := length_breaksFrom 0 source
  omega

/-- A row begins at or before a byte if and only if the byte is on it or on a later one. -/
theorem rowStart_le_iff (h : row < (lines source).length) :
    rowStart source row ≤ byte ↔ row ≤ rowAt source byte := by
  cases row with
  | zero => simp
  | succ row =>
    have hlength := length_breaksFrom 0 source
    have hrow : (breaksFrom 0 source)[row]? = some (breaksFrom 0 source)[row] :=
      List.getElem?_eq_getElem (by omega)
    have hstart := rowStart_succ hrow
    have hcount : row < rowAt source byte ↔ (breaksFrom 0 source)[row] < byte :=
      lt_countP_iff (pairwise_breaksFrom 0 source) hrow
    rw [Nat.zero_add] at hstart
    rw [hstart, Nat.succ_le_iff, Nat.succ_le_iff, hcount]

theorem rowAt_mono (h : byte ≤ byte') : rowAt source byte ≤ rowAt source byte' :=
  List.countP_mono_left fun o _ ho => by
    simp only [decide_eq_true_eq] at ho ⊢
    omega

end Text

end PageHighlight
