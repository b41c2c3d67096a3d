/-
  Proofs/Highlight/Runs.lean --- the runs of a line are its longest pieces of one kind.

  WHAT THIS FILE IS FOR.  A line is cut where the kind of its characters changes.
  `SpanLine.IsCut` says what such a cut is: pieces that are not empty and put together are
  the line, neighbours of different kinds, and every character of the kind that the spans
  give to the column at which it begins.  There is just one, and the runs are it
  (`SpanLine.eq_runs_iff`); the spans may overlap, lie in any order, be empty, begin inside
  of a character, or lie behind the line.

  BY OFFSETS.  `SpanLine.cutFrom` goes through the line once, and carries along where the
  run that is open begins, and its kind.  It cuts the runs out of the line between two
  offsets, and never cuts a character in two (`SpanLine.cutFrom_eq`).
-/
import Mathlib.Data.List.Chain
import PageHighlight.Highlight
import PageHighlight.Proofs.Text.Bytes

set_option autoImplicit false

namespace PageHighlight

namespace SpanLine

variable {spans : SpanLine} {col : Nat} {line : Text} {rs : List (Text × TokenKind)}

/-! ## Kinds -/

/-- The characters of a text that begins at a column are all of one kind. -/
def IsOf (spans : SpanLine) (col : Nat) (t : Text) (k : TokenKind) : Prop :=
  ∀ u c v, t = u ++ c :: v → k = kindAt spans (col + Text.byteLength u)

/-- Runs that begin at a column are of the kind of their characters. -/
def Agree (spans : SpanLine) (col : Nat) (rs : List (Text × TokenKind)) : Prop :=
  ∀ before r after, rs = before ++ r :: after →
    IsOf spans (col + Text.byteLength (before.flatMap (·.1))) r.1 r.2

theorem isOf_cons_iff {c : Char} {t : Text} {k : TokenKind} :
    IsOf spans col (c :: t) k ↔ k = kindAt spans col ∧ IsOf spans (col + c.utf8Size) t k := by
  constructor
  · intro h
    refine ⟨h [] c t rfl, fun u d v ht => ?_⟩
    rw [Nat.add_assoc]
    exact h (c :: u) d v (by rw [ht, List.cons_append])
  · rintro ⟨hfirst, hrest⟩ u d v ht
    cases u with
    | nil => exact hfirst
    | cons e u =>
      obtain ⟨rfl, ht'⟩ := List.cons.inj ht
      rw [Text.byteLength_cons, ← Nat.add_assoc]
      exact hrest u d v ht'

theorem isOf_nil (spans : SpanLine) (col : Nat) (k : TokenKind) : IsOf spans col [] k := by
  intro u c v h
  simp at h

theorem agree_nil (spans : SpanLine) (col : Nat) : Agree spans col [] := by
  intro before r after h
  simp at h

theorem agree_cons_iff {r : Text × TokenKind} :
    Agree spans col (r :: rs) ↔
      IsOf spans col r.1 r.2 ∧ Agree spans (col + Text.byteLength r.1) rs := by
  constructor
  · intro h
    refine ⟨h [] r rs rfl, fun before r' after hrs => ?_⟩
    have hlater := h (r :: before) r' after (by rw [hrs, List.cons_append])
    rwa [List.flatMap_cons, Text.byteLength_append, ← Nat.add_assoc] at hlater
  · rintro ⟨hfirst, hrest⟩ before r' after hrs
    cases before with
    | nil =>
      obtain ⟨rfl, -⟩ := List.cons.inj hrs
      exact hfirst
    | cons r'' before =>
      obtain ⟨rfl, hrs'⟩ := List.cons.inj hrs
      rw [List.flatMap_cons, Text.byteLength_append, ← Nat.add_assoc]
      exact hrest before r' after hrs'

/-! ## Cuts -/

/-- A cut of a line that begins at a column into its longest pieces of one kind. -/
structure IsCut (spans : SpanLine) (col : Nat) (line : Text) (rs : List (Text × TokenKind)) :
    Prop where
  /-- The pieces, put together, are the line. -/
  text : rs.flatMap (·.1) = line
  /-- No piece is empty. -/
  nonempty : ∀ r ∈ rs, r.1 ≠ []
  /-- Neighbours are of different kinds. -/
  changes : rs.IsChain fun r r' => r.2 ≠ r'.2
  /-- Every piece is of the kind of its characters. -/
  kinds : Agree spans col rs

theorem isCut_nil (spans : SpanLine) (col : Nat) : IsCut spans col [] [] :=
  ⟨rfl, nofun, .nil, agree_nil spans col⟩

/-- Runs with a piece of one kind in front; it is one run with the first if that is of the
same kind. -/
def prepend (t : Text) (k : TokenKind) : List (Text × TokenKind) → List (Text × TokenKind)
  | [] => [(t, k)]
  | (t', k') :: rs => if k' = k then (t ++ t', k') :: rs else (t, k) :: (t', k') :: rs

theorem runsFrom_cons (spans : SpanLine) (col : Nat) (c : Char) (line : Text) :
    runsFrom spans col (c :: line) =
      prepend [c] (kindAt spans col) (runsFrom spans (col + c.utf8Size) line) := by
  rw [runsFrom]
  rcases runsFrom spans (col + c.utf8Size) line with _ | ⟨⟨t, k⟩, rs⟩ <;> rfl

/-- A cut of what follows a character, with the character put in front. -/
theorem IsCut.cons {c : Char} (h : IsCut spans (col + c.utf8Size) line rs) :
    IsCut spans col (c :: line) (prepend [c] (kindAt spans col) rs) := by
  have hone : IsOf spans col [c] (kindAt spans col) := isOf_cons_iff.2 ⟨rfl, isOf_nil _ _ _⟩
  cases rs with
  | nil =>
    obtain rfl : [] = line := h.text
    exact ⟨rfl, by simp [prepend], .singleton _, agree_cons_iff.2 ⟨hone, agree_nil _ _⟩⟩
  | cons r rs =>
    obtain ⟨t, k⟩ := r
    have htext : c :: line = c :: (t ++ rs.flatMap (·.1)) := congrArg (c :: ·) h.text.symm
    rw [prepend]
    split
    · next hk =>
      subst hk
      obtain ⟨hfirst, hrest⟩ := agree_cons_iff.1 h.kinds
      refine ⟨htext.symm, ?_, ?_, agree_cons_iff.2 ⟨isOf_cons_iff.2 ⟨rfl, hfirst⟩, ?_⟩⟩
      · exact List.forall_mem_cons.2
          ⟨List.cons_ne_nil c t, fun r hr => h.nonempty r (List.mem_cons_of_mem _ hr)⟩
      · exact List.isChain_cons.2 (List.isChain_cons.1 h.changes)
      · rwa [Text.byteLength_append, ← Nat.add_assoc]
    · next hk =>
      refine ⟨htext.symm, ?_, .cons_cons (Ne.symm hk) h.changes, agree_cons_iff.2 ⟨hone, h.kinds⟩⟩
      exact List.forall_mem_cons.2 ⟨List.cons_ne_nil c [], h.nonempty⟩

theorem isCut_runsFrom (spans : SpanLine) (col : Nat) (line : Text) :
    IsCut spans col line (runsFrom spans col line) := by
  induction line generalizing col with
  | nil => exact isCut_nil spans col
  | cons c line ih =>
    rw [runsFrom_cons]
    exact (ih (col + c.utf8Size)).cons

/-- There is no other cut. -/
theorem IsCut.eq_runsFrom (h : IsCut spans col line rs) : rs = runsFrom spans col line := by
  induction line generalizing col rs with
  | nil =>
    cases rs with
    | nil => rfl
    | cons r rs =>
      exact absurd (List.append_eq_nil_iff.1 h.text).1 (h.nonempty r List.mem_cons_self)
  | cons c line ih =>
    cases rs with
    | nil => exact absurd h.text (by simp)
    | cons r rs =>
      obtain ⟨t, k⟩ := r
      obtain ⟨hfirst, hrest⟩ := agree_cons_iff.1 h.kinds
      have hlater : ∀ r ∈ rs, r.1 ≠ [] := fun r hr => h.nonempty r (List.mem_cons_of_mem _ hr)
      cases t with
      | nil => exact absurd rfl (h.nonempty _ List.mem_cons_self)
      | cons d t =>
        obtain ⟨rfl, htext⟩ := List.cons.inj h.text
        obtain ⟨rfl, hof⟩ := isOf_cons_iff.1 hfirst
        rw [runsFrom_cons]
        cases t with
        | nil =>
          -- the character is a run of its own, and the next one is of another kind
          have hcut : IsCut spans (col + d.utf8Size) line rs :=
            ⟨htext, hlater, (List.isChain_cons.1 h.changes).2, hrest⟩
          rw [← ih hcut]
          cases rs with
          | nil => rfl
          | cons r rs =>
            obtain ⟨t', k'⟩ := r
            rw [prepend, if_neg]
            exact Ne.symm ((List.isChain_cons.1 h.changes).1 (t', k') rfl)
        | cons e t =>
          -- the run goes on behind the character
          have hcut : IsCut spans (col + d.utf8Size) line ((e :: t, kindAt spans col) :: rs) := by
            refine ⟨htext, List.forall_mem_cons.2 ⟨List.cons_ne_nil e t, hlater⟩,
              List.isChain_cons.2 (List.isChain_cons.1 h.changes), agree_cons_iff.2 ⟨hof, ?_⟩⟩
            rwa [Text.byteLength_cons, ← Nat.add_assoc] at hrest
          rw [← ih hcut, prepend, if_pos rfl]
          rfl

/-- A character of texts that are put together is in one of them. -/
theorem exists_run_of_flatMap_eq {u v : Text} {c : Char} (h : rs.flatMap (·.1) = u ++ c :: v) :
    ∃ before r after x y, rs = before ++ r :: after ∧ r.1 = x ++ c :: y ∧
      u = before.flatMap (·.1) ++ x := by
  induction rs generalizing u with
  | nil => exact absurd h (by simp)
  | cons r rs ih =>
    have later : ∀ w, u = r.1 ++ w → rs.flatMap (·.1) = w ++ c :: v →
        ∃ before r' after x y, r :: rs = before ++ r' :: after ∧ r'.1 = x ++ c :: y ∧
          u = before.flatMap (·.1) ++ x := by
      rintro w rfl hw
      obtain ⟨before, r', after, x, y, rfl, hr', rfl⟩ := ih hw
      exact ⟨r :: before, r', after, x, y, rfl, hr', by simp⟩
    rw [List.flatMap_cons] at h
    rcases List.append_eq_append_iff.1 h with ⟨w, hu, hrest⟩ | ⟨w, hr, hrest⟩
    · exact later w hu hrest
    · cases w with
      | nil => exact later [] (by simpa using hr.symm) (by simpa using hrest.symm)
      | cons d w =>
        obtain ⟨rfl, -⟩ := List.cons.inj hrest
        exact ⟨[], r, rs, u, w, rfl, hr, rfl⟩

/-- Every character lies in a run, which is of the kind of the column at which it begins. -/
theorem IsCut.exists_run (h : IsCut spans col line rs) {u v : Text} {c : Char}
    (hline : line = u ++ c :: v) :
    ∃ before r after x y, rs = before ++ r :: after ∧ r.1 = x ++ c :: y ∧
      u = before.flatMap (·.1) ++ x ∧ r.2 = kindAt spans (col + Text.byteLength u) := by
  obtain ⟨before, r, after, x, y, hrs, hr, rfl⟩ := exists_run_of_flatMap_eq (h.text.trans hline)
  refine ⟨before, r, after, x, y, hrs, hr, rfl, ?_⟩
  rw [Text.byteLength_append, ← Nat.add_assoc]
  exact h.kinds before r after hrs x c y hr

/-! ## By offsets -/

/-- The runs of a line, cut out of it between offsets; `none` if one cannot be cut out.  The
run that is open begins at `start` and is of the kind `current`, if there is one; what is
left of the line begins at `col`. -/
def cutFrom (spans : SpanLine) (line : Text) (start : Nat) (current : Option TokenKind) :
    Nat → Text → Option (List (Text × TokenKind))
  | _, [] =>
    match current with
    | none => some []
    | some k => (Text.slice? start (Text.byteLength line) line).map fun t => [(t, k)]
  | col, c :: rest =>
    let kind := kindAt spans col
    match current with
    | none => cutFrom spans line start (some kind) (col + c.utf8Size) rest
    | some k =>
      if k = kind then cutFrom spans line start (some k) (col + c.utf8Size) rest
      else
        (Text.slice? start col line).bind fun t =>
          (cutFrom spans line col (some kind) (col + c.utf8Size) rest).map fun rs => (t, k) :: rs

theorem prepend_append (t u : Text) (k : TokenKind) (rs : List (Text × TokenKind)) :
    prepend (t ++ u) k rs = prepend t k (prepend u k rs) := by
  rcases rs with _ | ⟨⟨t', k'⟩, rs⟩
  · simp [prepend]
  · by_cases hk : k' = k <;> simp [prepend, hk]

theorem prepend_of_ne {k k' : TokenKind} (h : k ≠ k') (t u : Text)
    (rs : List (Text × TokenKind)) :
    prepend t k (prepend u k' rs) = (t, k) :: prepend u k' rs := by
  rcases rs with _ | ⟨⟨t', k''⟩, rs⟩
  · simp [prepend, h.symm]
  · by_cases hk : k'' = k' <;> simp [prepend, hk, h.symm]

/-- The run that is open goes on to the place where the loop stands. -/
theorem cutFrom_open {a b rest : Text} (h : line = a ++ (b ++ rest)) (k : TokenKind) :
    cutFrom spans line (Text.byteLength a) (some k) (Text.byteLength (a ++ b)) rest =
      some (prepend b k (runsFrom spans (Text.byteLength (a ++ b)) rest)) := by
  induction rest generalizing a b k with
  | nil =>
    have hslice : Text.slice? (Text.byteLength a) (Text.byteLength line) line = some b :=
      Text.slice?_eq_some.2 ⟨a, [], h, rfl, by rw [h]; simp⟩
    rw [cutFrom, hslice]
    rfl
  | cons c rest ih =>
    have hnext : Text.byteLength (a ++ b) + c.utf8Size = Text.byteLength (a ++ (b ++ [c])) := by
      simp [Nat.add_assoc]
    rw [cutFrom, runsFrom_cons, hnext]
    split
    · next hk =>
      rw [ih (by rw [h]; simp), ← hk, prepend_append]
    · next hk =>
      have hslice : Text.slice? (Text.byteLength a) (Text.byteLength (a ++ b)) line = some b :=
        Text.slice?_eq_some.2 ⟨a, c :: rest, h, rfl, (Text.byteLength_append a b).symm⟩
      have hrest := ih (a := a ++ b) (b := [c]) (by rw [h]; simp)
        (kindAt spans (Text.byteLength (a ++ b)))
      rw [List.append_assoc] at hrest
      rw [hslice, Option.bind_some, hrest, Option.map_some, prepend_of_ne hk]

/-- Going through the line once, with the run that is open carried along, cuts out the
runs. -/
theorem cutFrom_eq (spans : SpanLine) (line : Text) :
    cutFrom spans line 0 none 0 line = some (runs spans line) := by
  cases line with
  | nil => rfl
  | cons c line =>
    have hopen := @cutFrom_open spans (c :: line) [] [c] line rfl (kindAt spans 0)
    rw [cutFrom, runs, runsFrom_cons]
    simpa using hopen

/-! ## Runs -/

/-- The runs of a line are its one cut into pieces that are not empty and put together are
the line, with neighbours of different kinds, each piece of the kind of all of its
characters.  Every character lies in a run, which is of the kind that the spans give to the
column at which it begins.  Each run is the piece of the line between two offsets at which
characters begin or end, and going through the line once cuts out the runs. -/
theorem eq_runs_iff (spans : SpanLine) (line : Text) :
    (∀ rs, rs = runs spans line ↔ IsCut spans 0 line rs) ∧
    (∀ u c v, line = u ++ c :: v →
      ∃ before r after x y, runs spans line = before ++ r :: after ∧ r.1 = x ++ c :: y ∧
        u = before.flatMap (·.1) ++ x ∧ r.2 = kindAt spans (Text.byteLength u)) ∧
    (∀ before r after, runs spans line = before ++ r :: after →
      let start := Text.byteLength (before.flatMap (·.1))
      Text.slice? start (start + Text.byteLength r.1) line = some r.1) ∧
    cutFrom spans line 0 none 0 line = some (runs spans line) := by
  have hcut : IsCut spans 0 line (runs spans line) := isCut_runsFrom spans 0 line
  refine ⟨fun rs => ⟨?_, IsCut.eq_runsFrom⟩, fun u c v hline => ?_, fun before r after hruns => ?_,
    cutFrom_eq spans line⟩
  · rintro rfl
    exact hcut
  · obtain ⟨before, r, after, x, y, hruns, hr, hu, hkind⟩ := hcut.exists_run hline
    rw [Nat.zero_add] at hkind
    exact ⟨before, r, after, x, y, hruns, hr, hu, hkind⟩
  · have hline := hcut.text
    rw [hruns, List.flatMap_append, List.flatMap_cons] at hline
    exact Text.slice?_eq_some.2
      ⟨before.flatMap (·.1), after.flatMap (·.1), hline.symm, rfl, rfl⟩

/-- The first span begins inside of `é`, which is of the kind of the second; the third is
empty. -/
example : runs [⟨1, 4, .string⟩, ⟨0, 2, .number⟩, ⟨7, 3, .comment⟩] "éx!" =
    [("é".toList, .number), ("x!".toList, .string)] := by
  decide

end SpanLine

end PageHighlight
