/-
  Proofs/FilePath.lean --- when two spellings name the same place.

  WHAT THIS FILE IS FOR.  What a path says is kept if one of two separators in a row is left
  out, or a step to the directory itself behind a separator, or the separator at the end
  (`FilePath.Drops`).  These are all the ways to spell a path differently: two spellings have
  the same steps if and only if they come from each other by them (`FilePath.steps_eq_iff`).
-/
import Mathlib.Data.List.Basic
import Mathlib.Logic.Relation
import PageHighlight.FilePath
import PageHighlight.Proofs.Text.Occurrences

set_option autoImplicit false

namespace PageHighlight

namespace FilePath

/-! ## Spellings -/

/-- A spelling of a path with one thing left out that says nothing. -/
inductive Drops : Text → Text → Prop
  /-- of two separators in a row one is left out -/
  | separator (p q : Text) : Drops (p ++ "//".toList ++ q) (p ++ "/".toList ++ q)
  /-- a step to the directory itself is left out behind a separator -/
  | here (p q : Text) : Drops (p ++ "/./".toList ++ q) (p ++ "/".toList ++ q)
  /-- such a step is left out at the end -/
  | lastHere (p : Text) : Drops (p ++ "/.".toList) (p ++ "/".toList)
  /-- the separator at the end is left out, unless it is the root -/
  | lastSeparator (p : Text) : p ≠ [] → Drops (p ++ "/".toList) p

/-- Two spellings name the same place. -/
def Alike : Text → Text → Prop := Relation.EqvGen Drops

/-! ## Pieces -/

/-- The pieces between separators, but for the empty ones. -/
def pieces (p : Text) : List Text := (Text.splitOn '/' p).filter fun s => !s.isEmpty

/-- The pieces that are no steps to the directory itself. -/
def proper (p : Text) : List Text := (pieces p).filter fun s => !decide (s = ['.'])

theorem pieces_append (p q : Text) : pieces (p ++ '/' :: q) = pieces p ++ pieces q := by
  rw [pieces, Text.splitOn_append, List.filter_append]
  rfl

theorem proper_append (p q : Text) : proper (p ++ '/' :: q) = proper p ++ proper q := by
  rw [proper, pieces_append, List.filter_append]
  rfl

theorem pieces_of_not_mem {x : Text} (h : '/' ∉ x) (hx : x ≠ []) : pieces x = [x] := by
  rw [pieces, Text.splitOn_of_not_mem h]
  cases x with
  | nil => exact absurd rfl hx
  | cons c x => rfl

/-- A relative path has a piece. -/
theorem pieces_ne_nil {p : Text} (hp : p ≠ []) (hroot : p.head? ≠ some '/') : pieces p ≠ [] := by
  cases p with
  | nil => exact absurd rfl hp
  | cons c r =>
    have hc : c ≠ '/' := fun h => hroot (by rw [h]; rfl)
    unfold pieces
    rw [Text.splitOn, if_neg hc]
    cases Text.splitOn '/' r with
    | nil => exact List.cons_ne_nil _ _
    | cons s ss => exact List.cons_ne_nil _ _

/-! ## Steps -/

/-- The step to the directory itself with which a relative path begins. -/
def lead (p : Text) : List Text :=
  if (pieces p).head? = some ['.'] ∧ p.head? ≠ some '/' then [['.']] else []

theorem steps_eq (p : Text) : steps p = ⟨decide (p.head? = some '/'), lead p ++ proper p⟩ := by
  unfold steps
  dsimp only
  split
  next s hs =>
    change (pieces p).head? = some s at hs
    rw [lead, hs]
    by_cases hroot : p.head? = some '/'
    · simp [hroot, proper, pieces]
    · by_cases hhere : s = ['.']
      · simp [hroot, hhere, proper, pieces]
      · simp [hhere, proper, pieces]
  next hs =>
    change (pieces p).head? = none at hs
    rw [lead, hs]
    rfl

theorem head?_append_separator (p x : Text) :
    (p ++ '/' :: x).head? = p.head?.or (some '/') := by
  rw [List.head?_append, List.head?_cons]

/-- What a path begins with does not depend on what stands behind a separator. -/
theorem lead_append (p x : Text) : lead (p ++ '/' :: x) = lead p := by
  unfold lead
  rw [head?_append_separator, pieces_append]
  cases p with
  | nil => rw [if_neg fun h => h.2 rfl, if_neg fun h => nomatch h.1]
  | cons c r =>
    by_cases hroot : (c :: r).head? = some '/'
    · simp [hroot]
    · rw [List.head?_append_of_ne_nil _ (pieces_ne_nil (List.cons_ne_nil c r) hroot)]
      rfl

/-- Behind a separator, only the proper pieces count. -/
theorem steps_append_congr (p : Text) {x y : Text} (h : proper x = proper y) :
    steps (p ++ '/' :: x) = steps (p ++ '/' :: y) := by
  rw [steps_eq, steps_eq, lead_append, lead_append, proper_append, proper_append, h,
    head?_append_separator, head?_append_separator]

theorem steps_append_separator {p : Text} (hp : p ≠ []) : steps (p ++ ['/']) = steps p := by
  have hpieces : pieces (p ++ ['/']) = pieces p := by
    rw [pieces_append]
    exact List.append_nil _
  have hhead : (p ++ ['/']).head? = p.head? := List.head?_append_of_ne_nil _ hp
  rw [steps_eq, steps_eq, lead, lead, proper, proper, hpieces, hhead]

/-- What is left out does not change the steps. -/
theorem Drops.steps_eq {p q : Text} (h : Drops p q) : steps p = steps q := by
  cases h with
  | separator p q =>
    rw [List.append_assoc, List.append_assoc]
    exact steps_append_congr p (proper_append [] q)
  | here p q =>
    rw [List.append_assoc, List.append_assoc]
    exact steps_append_congr p (proper_append ['.'] q)
  | lastHere p => exact steps_append_congr p rfl
  | lastSeparator p hp => exact steps_append_separator hp

theorem Alike.steps_eq {p q : Text} (h : Alike p q) : steps p = steps q := by
  induction h with
  | rel p q hdrops => exact hdrops.steps_eq
  | refl p => rfl
  | symm p q _ ih => exact ih.symm
  | trans p q r _ _ ih ih' => exact ih.trans ih'

/-! ## The shortest spelling -/

/-- Steps as a path. -/
def Steps.write (s : Steps) : Text :=
  (if s.absolute then ['/'] else []) ++ Text.join ['/'] s.names

theorem Drops.alike {p q : Text} (h : Drops p q) : Alike p q := .rel p q h

/-- What is alike stays alike if the same is put behind it. -/
theorem Alike.append {p q : Text} (h : Alike p q) (x : Text) :
    Alike (p ++ '/' :: x) (q ++ '/' :: x) := by
  induction h with
  | refl p => exact .refl _
  | symm p q _ ih => exact .symm _ _ ih
  | trans p q r _ _ ih ih' => exact .trans _ _ _ ih ih'
  | rel p q hdrops =>
    cases hdrops with
    | separator p q =>
      have h := Drops.separator p (q ++ '/' :: x)
      simp only [← List.append_assoc] at h
      exact h.alike
    | here p q =>
      have h := Drops.here p (q ++ '/' :: x)
      simp only [← List.append_assoc] at h
      exact h.alike
    | lastHere p =>
      have h := Drops.here p x
      have h' := Drops.separator p x
      rw [List.append_assoc] at h h' ⊢
      rw [List.append_assoc p]
      exact .trans _ _ _ h.alike (.symm _ _ h'.alike)
    | lastSeparator q hq =>
      have h := Drops.separator q x
      rw [List.append_assoc, List.append_assoc] at h
      rw [List.append_assoc]
      exact h.alike

theorem join_concat {names : List Text} (h : names ≠ []) (x : Text) :
    Text.join ['/'] (names ++ [x]) = Text.join ['/'] names ++ '/' :: x := by
  induction names with
  | nil => exact absurd rfl h
  | cons n names ih =>
    cases names with
    | nil => simp [Text.join]
    | cons n' names =>
      have hrest := ih (List.cons_ne_nil n' names)
      simp only [List.cons_append, Text.join] at hrest ⊢
      rw [hrest]
      simp

theorem alike_append_here (p x : Text) (hx : x = [] ∨ x = ['.']) :
    Alike (p ++ '/' :: x) (p ++ ['/']) := by
  rcases hx with rfl | rfl
  · exact .refl _
  · exact (Drops.lastHere p).alike

/-- A path that is not empty has a name or begins at the root. -/
theorem names_ne_nil {p : Text} (hp : p ≠ []) (hroot : p.head? ≠ some '/') :
    (steps p).names ≠ [] := by
  rw [steps_eq]
  cases hpieces : pieces p with
  | nil => exact absurd hpieces (pieces_ne_nil hp hroot)
  | cons s ss =>
    by_cases hs : s = ['.']
    · simp [lead, hpieces, hs, hroot]
    · simp [lead, proper, hpieces, hs]

theorem steps_append_name {p x : Text} (hslash : '/' ∉ x) (hx : x ≠ []) (hhere : x ≠ ['.']) :
    steps (p ++ '/' :: x) =
      ⟨decide (p.head?.or (some '/') = some '/'), (steps p).names ++ [x]⟩ := by
  have hproper : proper x = [x] := by
    rw [proper, pieces_of_not_mem hslash hx]
    simp [hhere]
  rw [steps_eq, steps_eq, lead_append, proper_append, hproper, head?_append_separator,
    List.append_assoc]

/-- A name put behind a path comes last in its shortest spelling. -/
theorem alike_write_append {p x : Text} (h : Alike p (steps p).write) (hslash : '/' ∉ x)
    (hx : x ≠ []) (hhere : x ≠ ['.']) :
    Alike (p ++ '/' :: x) (steps (p ++ '/' :: x)).write := by
  have hsteps := steps_append_name (p := p) hslash hx hhere
  have happend := h.append x
  by_cases hp : p = []
  · subst hp
    rw [hsteps]
    exact .refl _
  · have hor : p.head?.or (some '/') = p.head? := by
      cases p with
      | nil => exact absurd rfl hp
      | cons c r => rfl
    rw [hsteps, hor]
    by_cases hnames : (steps p).names = []
    · have hroot : p.head? = some '/' := by
        by_contra hroot
        exact names_ne_nil hp hroot hnames
      have hwrite : (steps p).write = ['/'] := by
        rw [Steps.write, hnames, steps_eq]
        simp [hroot, Text.join]
      rw [hwrite] at happend
      rw [hnames, hroot]
      exact .trans _ _ _ happend (Drops.separator [] x).alike
    · have hwrite : Steps.write ⟨decide (p.head? = some '/'), (steps p).names ++ [x]⟩ =
          (steps p).write ++ '/' :: x := by
        rw [Steps.write, Steps.write, join_concat hnames, ← List.append_assoc, steps_eq]
      rw [hwrite]
      exact happend

/-- A path without separators is spelled in one way. -/
theorem write_of_not_mem {p : Text} (h : '/' ∉ p) : (steps p).write = p := by
  by_cases hp : p = []
  · subst hp
    rfl
  · have hroot : p.head? ≠ some '/' := fun hhead => h (List.mem_of_mem_head? hhead)
    by_cases hhere : p = ['.']
    · subst hhere
      rfl
    · rw [steps_eq, lead, proper, pieces_of_not_mem h hp]
      simp [Steps.write, Text.join, hroot, hhere]

theorem exists_last_piece {p : Text} (h : '/' ∈ p) : ∃ q x, p = q ++ '/' :: x ∧ '/' ∉ x := by
  obtain ⟨x, q, hreverse, hx⟩ := List.eq_append_cons_of_mem (List.mem_reverse.2 h)
  refine ⟨q.reverse, x.reverse, ?_, by rwa [List.mem_reverse]⟩
  have hp := congrArg List.reverse hreverse
  simpa using hp

/-- Every path is another spelling of the shortest one. -/
theorem alike_write (p : Text) : Alike p (steps p).write := by
  induction hn : p.length using Nat.strongRecOn generalizing p with
  | ind n ih =>
    by_cases hslash : '/' ∈ p
    · -- what stands behind the last separator says nothing, or it is the last name
      obtain ⟨q, x, rfl, hx⟩ := exists_last_piece hslash
      have hq : Alike q (steps q).write := ih q.length (by simp [← hn]) q rfl
      by_cases hname : x = [] ∨ x = ['.']
      · have hsteps : steps (q ++ '/' :: x) = steps (q ++ ['/']) :=
          steps_append_congr q (by rcases hname with rfl | rfl <;> rfl)
        have hdrop := alike_append_here q x hname
        rw [hsteps]
        by_cases hempty : q = []
        · subst hempty
          exact hdrop
        · rw [steps_append_separator hempty]
          exact .trans _ _ _ hdrop (.trans _ _ _ (Drops.lastSeparator q hempty).alike hq)
      · rw [not_or] at hname
        exact alike_write_append hq hx hname.1 hname.2
    · rw [write_of_not_mem hslash]
      exact .refl p

/-- Two spellings have the same steps if and only if they name the same place. -/
theorem steps_eq_iff {p q : Text} : steps p = steps q ↔ Alike p q := by
  refine ⟨fun h => ?_, Alike.steps_eq⟩
  have hq := alike_write q
  rw [← h] at hq
  exact .trans _ _ _ (alike_write p) (.symm _ _ hq)

end FilePath

end PageHighlight
