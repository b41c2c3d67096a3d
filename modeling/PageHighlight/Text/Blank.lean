/-
  Text/Blank.lean --- blank characters, and texts without the blanks at their
  ends.

  WHAT THIS FILE IS FOR.  A blank is a character with the Unicode property
  White_Space.  Directives, ranges, attribute lists and language tags are all
  read "up to blanks", and they all mean this set; HTML attributes alone are
  separated by the five ASCII blanks.
-/
import PageHighlight.Text.Basic

set_option autoImplicit false

namespace PageHighlight

namespace Text

/-- The code points with the property White_Space, as closed intervals. -/
def blankRanges : List (Nat × Nat) :=
  [(0x9, 0xD), (0x20, 0x20), (0x85, 0x85), (0xA0, 0xA0), (0x1680, 0x1680), (0x2000, 0x200A),
   (0x2028, 0x2029), (0x202F, 0x202F), (0x205F, 0x205F), (0x3000, 0x3000)]

/-- Whether a code point lies in one of a list of closed intervals. -/
def inRanges (ranges : List (Nat × Nat)) (c : Char) : Bool :=
  ranges.any fun r => r.1 ≤ c.toNat && c.toNat ≤ r.2

/-- A blank character: one with the property White_Space. -/
def isBlank (c : Char) : Bool := inRanges blankRanges c

/-- The blanks that separate HTML attributes: space, tab, line feed, form feed
and carriage return. -/
def isAsciiBlank (c : Char) : Bool :=
  c = ' ' || c = '\t' || c = '\n' || c = '\x0C' || c = '\r'

theorem isBlank_of_isAsciiBlank {c : Char} (h : isAsciiBlank c = true) : isBlank c = true := by
  simp only [isAsciiBlank, Bool.or_eq_true, decide_eq_true_eq] at h
  rcases h with (((h | h) | h) | h) | h <;> subst h <;> decide

/-- A text without its leading blanks. -/
def trimStart (t : Text) : Text := t.dropWhile isBlank

/-- A text without its characters at the end that satisfy `p`. -/
def dropEndWhile (p : Char → Bool) (t : Text) : Text := (t.reverse.dropWhile p).reverse

/-- A text without its trailing blanks. -/
def trimEnd (t : Text) : Text := dropEndWhile isBlank t

/-- A text without the blanks at its ends. -/
def trim (t : Text) : Text := trimEnd (trimStart t)

/-- Whether a text holds nothing but blanks. -/
def allBlank (t : Text) : Bool := t.all isBlank

/-- The words of a text: its longest pieces without blanks. -/
def words (t : Text) : List Text :=
  let (word, ws) := t.foldr
    (fun c (acc : Text × List Text) =>
      if isBlank c then ([], if acc.1.isEmpty then acc.2 else acc.1 :: acc.2)
      else (c :: acc.1, acc.2))
    ([], [])
  if word.isEmpty then ws else word :: ws

/-- Trimming at the end cuts off a run of blanks. -/
theorem trimEnd_append (t : Text) : ∃ w, allBlank w = true ∧ t = trimEnd t ++ w := by
  refine ⟨(t.reverse.takeWhile isBlank).reverse, ?_, ?_⟩
  · simp [allBlank]
  · unfold trimEnd dropEndWhile
    rw [← List.reverse_append, List.takeWhile_append_dropWhile, List.reverse_reverse]

end Text

end PageHighlight
