/-
  Proofs/Highlight/Spans.lean --- a byte of a source is of the kind of the outermost
  highlighted node that has it.

  WHAT THIS FILE IS FOR.  The highlighted nodes of a tree are cut at the line breaks, and
  the pieces sorted by rows; on a row the first piece that has a column decides its kind.
  `Tree.kindAt_spanLines_iff` says what that comes to: the kind of a byte is that of the
  outermost highlighted node that has it, and there is one such node at most.

  WHICH TREES.  `Tree.IsWellFormed`: nodes lie in their parents, one behind the other, all
  of them in the source, and tell the rows of the bytes at which they begin and end.  Nodes
  may be empty, begin and end inside of a character, and end at the beginning of a row.

  HOW.  The piece of a node on a row has the byte of that row that the node has
  (`Tree.kindIn_pieces`); so of the pieces in pre-order the first that has the byte belongs
  to a node none of whose parents has it, and two nodes without a parent that has the byte
  do not both have it.
-/
import PageHighlight.Proofs.Highlight.Lines

set_option autoImplicit false

namespace PageHighlight

namespace Tree

variable {source : Text} {lang : Language} {byte row : Nat}

/-! ## Nodes -/

/-- The name of a node. -/
def name : Tree → Text
  | node name _ _ _ _ _ => name

/-- The first byte of a node. -/
def startByte : Tree → Nat
  | node _ startByte _ _ _ _ => startByte

/-- The byte after the last of a node. -/
def stopByte : Tree → Nat
  | node _ _ stopByte _ _ _ => stopByte

/-- The row of the first byte of a node. -/
def startRow : Tree → Nat
  | node _ _ _ startRow _ _ => startRow

/-- The row of the byte after the last of a node. -/
def stopRow : Tree → Nat
  | node _ _ _ _ stopRow _ => stopRow

/-- The parts of a node. -/
def children : Tree → List Tree
  | node _ _ _ _ _ children => children

/-- The kind of a node. -/
def kind (lang : Language) (n : Tree) : TokenKind := TokenKind.ofNode lang n.name

/-- A node is highlighted if it is of some kind, and has no parts or reads best in one
colour. -/
def IsHighlighted (lang : Language) (n : Tree) : Prop :=
  n.kind lang ≠ .plain ∧ (n.children = [] ∨ n.name ∈ uniform)

instance (lang : Language) (n : Tree) : Decidable (n.IsHighlighted lang) :=
  inferInstanceAs (Decidable (_ ∧ (_ ∨ _)))

/-- A node has a byte. -/
def Has (n : Tree) (byte : Nat) : Prop := n.startByte ≤ byte ∧ byte < n.stopByte

/-- A highlighted node has a byte. -/
def Shows (lang : Language) (byte : Nat) (n : Tree) : Prop := n.IsHighlighted lang ∧ n.Has byte

instance (lang : Language) (byte : Nat) (n : Tree) : Decidable (n.Shows lang byte) :=
  inferInstanceAs (Decidable (_ ∧ (_ ∧ _)))

/-- A node of a tree, and the nodes above it, from the root down. -/
inductive Node : Tree → List Tree → Tree → Prop where
  | root (t : Tree) : Node t [] t
  | part {t c n : Tree} {above : List Tree} (hc : c ∈ t.children) (hn : Node c above n) :
      Node t (t :: above) n

/-- The outermost highlighted node of a tree that has a byte, and the nodes above it. -/
structure IsOutermost (lang : Language) (byte : Nat) (t : Tree) (above : List Tree) (n : Tree) :
    Prop where
  node : Node t above n
  shows : n.Shows lang byte
  first : ∀ a ∈ above, ¬ a.Shows lang byte

/-- The kind of a byte, as a tree tells it: that of the outermost highlighted node that has
it, and none in particular if there is no such node. -/
def Tells (lang : Language) (byte : Nat) (t : Tree) (k : TokenKind) : Prop :=
  (∃ above n, IsOutermost lang byte t above n ∧ n.kind lang = k) ∨
    k = .plain ∧ ∀ above n, Node t above n → ¬ n.Shows lang byte

mutual

/-- A tree between two bytes of a source, with the rows on which its nodes begin and end. -/
def Fits (source : Text) (low high : Nat) : Tree → Prop
  | node _ startByte stopByte startRow stopRow children =>
    (low ≤ startByte ∧ startByte ≤ stopByte ∧ stopByte ≤ high) ∧
      (startRow = Text.rowAt source startByte ∧ stopRow = Text.rowAt source stopByte) ∧
      FitAll source startByte stopByte children

/-- Trees between two bytes of a source, one behind the other. -/
def FitAll (source : Text) (low high : Nat) : List Tree → Prop
  | [] => True
  | t :: ts => Fits source low high t ∧ FitAll source t.stopByte high ts

end

mutual

instance decidableFits (source : Text) (low high : Nat) : ∀ t, Decidable (Fits source low high t)
  | node _ startByte stopByte _ _ children =>
    have := decidableFitAll source startByte stopByte children
    inferInstanceAs (Decidable (_ ∧ _ ∧ _))

instance decidableFitAll (source : Text) (low high : Nat) :
    ∀ ts, Decidable (FitAll source low high ts)
  | [] => inferInstanceAs (Decidable True)
  | t :: ts =>
    have := decidableFits source low high t
    have := decidableFitAll source t.stopByte high ts
    inferInstanceAs (Decidable (_ ∧ _))

end

/-- A tree of a source: nodes lie in their parents and one behind the other, all of them in
the source, and tell the rows of their bytes. -/
def IsWellFormed (source : Text) (t : Tree) : Prop := Fits source 0 (Text.byteLength source) t

instance (source : Text) (t : Tree) : Decidable (t.IsWellFormed source) :=
  decidableFits source 0 (Text.byteLength source) t

/-! ## The piece of a node on a row -/

theorem getElem?_starts_ofSource (h : row < (Text.lines source).length) :
    (Layout.ofSource source).starts[row]? = some (Text.rowStart source row) := by
  rw [starts_ofSource]
  cases row with
  | zero => rfl
  | succ row =>
    have hlength := Text.length_breaksFrom 0 source
    have hrow : (Text.breaksFrom 0 source)[row]? = some (Text.breaksFrom 0 source)[row] :=
      List.getElem?_eq_getElem (by omega)
    have hstart := Text.rowStart_succ hrow
    rw [Nat.zero_add] at hstart
    rw [List.getElem?_cons_succ, List.getElem?_map, hrow, Option.map_some, hstart]

theorem start_ofSource (h : row < (Text.lines source).length) :
    (Layout.ofSource source).start row = Text.rowStart source row := by
  rw [Layout.start, List.getD_eq_getElem?_getD, getElem?_starts_ofSource h, Option.getD_some]

theorem stop_ofSource (h : row + 1 < (Text.lines source).length) :
    (Layout.ofSource source).stop row = Text.rowStart source (row + 1) := by
  rw [Layout.stop, List.getD_eq_getElem?_getD, getElem?_starts_ofSource h, Option.getD_some]

/-- The kind that pieces give to a byte: that of the first piece on its row that has it. -/
def kindIn (source : Text) (byte : Nat) (ms : List (Nat × Span)) : Option TokenKind :=
  ms.findSome? fun m =>
    if m.1 = Text.rowAt source byte ∧ m.2.covers (Text.column source byte) = true then
      some m.2.kind
    else none

theorem kindIn_append (source : Text) (byte : Nat) (ms ms' : List (Nat × Span)) :
    kindIn source byte (ms ++ ms') = (kindIn source byte ms).or (kindIn source byte ms') :=
  List.findSome?_append

/-- The spans of its row tell the kind that the pieces give to a byte. -/
theorem kindAt_filterMap (source : Text) (byte : Nat) (ms : List (Nat × Span)) :
    SpanLine.kindAt (ms.filterMap fun m => if m.1 = Text.rowAt source byte then some m.2 else none)
        (Text.column source byte) =
      (kindIn source byte ms).getD .plain := by
  induction ms with
  | nil => rfl
  | cons m ms ih =>
    rw [List.filterMap_cons, kindIn, List.findSome?_cons]
    by_cases hrow : m.1 = Text.rowAt source byte
    · by_cases hcovers : m.2.covers (Text.column source byte) = true
      · simp [hrow, hcovers, SpanLine.kindAt]
      · simpa [hrow, hcovers, SpanLine.kindAt, kindIn] using ih
    · simpa [hrow, kindIn] using ih

/-- If all pieces are of one kind, it is that of the bytes that they have. -/
theorem kindIn_of_kind {ms : List (Nat × Span)} {k : TokenKind} (h : ∀ m ∈ ms, m.2.kind = k) :
    kindIn source byte ms =
      if ∃ m ∈ ms, m.1 = Text.rowAt source byte ∧
          m.2.covers (Text.column source byte) = true
        then some k else none := by
  induction ms with
  | nil => simp [kindIn]
  | cons m ms ih =>
    have hrest := ih fun m' hm' => h m' (List.mem_cons_of_mem _ hm')
    rw [kindIn, List.findSome?_cons]
    by_cases hm : m.1 = Text.rowAt source byte ∧
        m.2.covers (Text.column source byte) = true
    · rw [if_pos hm, if_pos ⟨m, List.mem_cons_self, hm⟩, h m List.mem_cons_self]
    · simp only [if_neg hm, List.exists_mem_cons_iff, or_iff_right hm]
      exact hrest

theorem mem_pieces {layout : Layout} {k : TokenKind} {s e sr er : Nat} {m : Nat × Span} :
    m ∈ pieces layout k s e sr er ↔
      (sr ≤ m.1 ∧ m.1 ≤ min er (layout.lineCount - 1)) ∧
        spanOn? layout k s e sr er m.1 = some m.2 := by
  obtain ⟨row, span⟩ := m
  simp only [pieces, List.mem_filterMap, List.mem_range'_1, Option.map_eq_some_iff, Prod.mk.injEq]
  constructor
  · rintro ⟨row', hrow', span', hspan, rfl, rfl⟩
    exact ⟨by omega, hspan⟩
  · rintro ⟨hrow, hspan⟩
    exact ⟨row, by omega, span, hspan, rfl, rfl⟩

theorem kind_of_spanOn? {layout : Layout} {k : TokenKind} {s e sr er : Nat} {span : Span}
    (h : spanOn? layout k s e sr er row = some span) : span.kind = k := by
  obtain ⟨-, hspan⟩ := Option.ite_none_right_eq_some.1 h
  rw [← Option.some.inj hspan]

theorem exists_spanOn?_iff {layout : Layout} {k : TokenKind} {s e sr er col : Nat} :
    (∃ span, spanOn? layout k s e sr er row = some span ∧ span.covers col = true) ↔
      (if row = sr then s - layout.start row else 0) ≤ col ∧
        col < if row = er then e - layout.start row else layout.stop row - layout.start row := by
  unfold spanOn?
  generalize (if row = sr then s - layout.start row else 0) = start
  generalize (if row = er then e - layout.start row else layout.stop row - layout.start row) = stop
  simp only [Option.ite_none_right_eq_some, Option.some.injEq]
  constructor
  · rintro ⟨span, ⟨hlt, rfl⟩, hcovers⟩
    simpa [Span.covers] using hcovers
  · rintro ⟨hstart, hstop⟩
    exact ⟨⟨start, stop, k⟩, ⟨Nat.lt_of_le_of_lt hstart hstop, rfl⟩, by
      simp [Span.covers, hstart, hstop]⟩

/-- A range has a piece on the rows from its first to its last. -/
theorem exists_piece_iff {layout : Layout} {k : TokenKind} {s e sr er col : Nat} :
    (∃ m ∈ pieces layout k s e sr er, m.1 = row ∧ m.2.covers col = true) ↔
      (sr ≤ row ∧ row ≤ min er (layout.lineCount - 1)) ∧
        (if row = sr then s - layout.start row else 0) ≤ col ∧
        col < if row = er then e - layout.start row else layout.stop row - layout.start row := by
  rw [← exists_spanOn?_iff (k := k)]
  constructor
  · rintro ⟨m, hm, rfl, hcovers⟩
    obtain ⟨hrows, hspan⟩ := mem_pieces.1 hm
    exact ⟨hrows, m.2, hspan, hcovers⟩
  · rintro ⟨hrows, span, hspan, hcovers⟩
    exact ⟨(row, span), mem_pieces.2 ⟨hrows, hspan⟩, rfl, hcovers⟩

/-- On the row of a byte, the piece of a range has the byte if and only if the range has
it. -/
theorem exists_piece_ofSource_iff {k : TokenKind} {s e : Nat} :
    (∃ m ∈ pieces (Layout.ofSource source) k s e (Text.rowAt source s) (Text.rowAt source e),
      m.1 = Text.rowAt source byte ∧
        m.2.covers (Text.column source byte) = true) ↔
      s ≤ byte ∧ byte < e := by
  have hrow := Text.rowAt_lt_length source byte
  have hlast := Text.rowAt_lt_length source e
  have hmono : ∀ b b', b ≤ b' → Text.rowAt source b ≤ Text.rowAt source b' :=
    fun _ _ h => Text.rowAt_mono h
  have hbegins : ∀ b, Text.rowStart source (Text.rowAt source byte) ≤ b ↔
      Text.rowAt source byte ≤ Text.rowAt source b := fun b => Text.rowStart_le_iff hrow
  have hends : Text.rowAt source byte < Text.rowAt source e →
      byte < (Layout.ofSource source).stop (Text.rowAt source byte) := by
    intro hlt
    rw [stop_ofSource (Nat.lt_of_le_of_lt hlt hlast), ← Nat.not_le, Text.rowStart_le_iff (by omega)]
    omega
  have hbyte := (hbegins byte).2 (Nat.le_refl _)
  have hs := hbegins s
  have he := hbegins e
  have hbefore := hmono s byte
  have hbehind := hmono byte s
  have hwithin := hmono byte e
  have hbeyond := hmono e byte
  rw [exists_piece_iff, start_ofSource hrow, lineCount_ofSource, Text.column]
  -- the row is the first of the range or not, and the last or not
  split <;> split <;> omega

/-- The pieces of a range tell its kind for the bytes that it has. -/
theorem kindIn_pieces (k : TokenKind) (s e : Nat) :
    kindIn source byte
        (pieces (Layout.ofSource source) k s e (Text.rowAt source s) (Text.rowAt source e)) =
      if s ≤ byte ∧ byte < e then some k else none := by
  rw [kindIn_of_kind fun m hm => kind_of_spanOn? (mem_pieces.1 hm).2]
  exact if_congr exists_piece_ofSource_iff rfl rfl

/-! ## The outermost node -/

theorem Fits.bounds {low high : Nat} {t : Tree} (h : Fits source low high t) :
    low ≤ t.startByte ∧ t.startByte ≤ t.stopByte ∧ t.stopByte ≤ high := by
  cases t
  exact h.1

theorem Fits.rows {low high : Nat} {t : Tree} (h : Fits source low high t) :
    t.startRow = Text.rowAt source t.startByte ∧ t.stopRow = Text.rowAt source t.stopByte := by
  cases t
  exact h.2.1

theorem Fits.parts {low high : Nat} {t : Tree} (h : Fits source low high t) :
    FitAll source t.startByte t.stopByte t.children := by
  cases t
  exact h.2.2

theorem FitAll.exists_fits {low high : Nat} {ts : List Tree} (h : FitAll source low high ts)
    {t : Tree} (ht : t ∈ ts) : ∃ low', low ≤ low' ∧ Fits source low' high t := by
  induction ts generalizing low with
  | nil => cases ht
  | cons t' ts ih =>
    rcases List.mem_cons.1 ht with rfl | ht
    · exact ⟨low, Nat.le_refl _, h.1⟩
    · obtain ⟨low', hlow, hfits⟩ := ih h.2 ht
      obtain ⟨hstart, hstop, -⟩ := h.1.bounds
      exact ⟨low', by omega, hfits⟩

/-- Two trees of a list do not have one byte both. -/
theorem FitAll.eq_of_has {low high : Nat} {ts : List Tree} (h : FitAll source low high ts)
    {t t' : Tree} (ht : t ∈ ts) (ht' : t' ∈ ts) (hhas : t.Has byte) (hhas' : t'.Has byte) :
    t = t' := by
  induction ts generalizing low with
  | nil => cases ht
  | cons first ts ih =>
    have apart : ∀ later ∈ ts, first.Has byte → ¬ later.Has byte := by
      intro later hlater hfirst hagain
      obtain ⟨low', hlow, hfits⟩ := h.2.exists_fits hlater
      have hstart := hfits.bounds.1
      unfold Has at hfirst hagain
      omega
    rcases List.mem_cons.1 ht with rfl | hlater <;> rcases List.mem_cons.1 ht' with rfl | hlater'
    · rfl
    · exact absurd hhas' (apart t' hlater' hhas)
    · exact absurd hhas (apart t hlater hhas')
    · exact ih h.2 hlater hlater'

/-- What a node of a tree has the tree has. -/
theorem Node.has {t n : Tree} {above : List Tree} (hn : Node t above n) {low high : Nat}
    (h : Fits source low high t) (hhas : n.Has byte) : t.Has byte := by
  induction hn generalizing low high with
  | root t => exact hhas
  | @part t c n above hc hn ih =>
    obtain ⟨low', hlow, hfits⟩ := h.parts.exists_fits hc
    have hchas := ih hfits hhas
    have hbounds := hfits.bounds
    unfold Has at hchas ⊢
    omega

/-- If a highlighted node has a byte, there is an outermost one. -/
theorem Node.exists_isOutermost {t n : Tree} {above : List Tree} (hn : Node t above n)
    (h : n.Shows lang byte) : ∃ above' n', IsOutermost lang byte t above' n' := by
  induction hn with
  | root t => exact ⟨[], t, .root t, h, nofun⟩
  | @part t c n above hc hn ih =>
    by_cases ht : t.Shows lang byte
    · exact ⟨[], t, .root t, ht, nofun⟩
    · obtain ⟨above', n', hn', hshows, hfirst⟩ := ih h
      exact ⟨t :: above', n', .part hc hn', hshows, List.forall_mem_cons.2 ⟨ht, hfirst⟩⟩

/-- An outermost node is the tree itself, if it is highlighted and has the byte, and one of a
part of it otherwise. -/
theorem isOutermost_iff {t n : Tree} {above : List Tree} :
    IsOutermost lang byte t above n ↔
      (t.Shows lang byte ∧ above = [] ∧ n = t) ∨
      (¬ t.Shows lang byte ∧ ∃ c ∈ t.children, ∃ above', above = t :: above' ∧
        IsOutermost lang byte c above' n) := by
  constructor
  · rintro ⟨hnode, hshows, hfirst⟩
    cases hnode with
    | root => exact .inl ⟨hshows, rfl, rfl⟩
    | @part t c n above hc hn =>
      obtain ⟨ht, hfirst⟩ := List.forall_mem_cons.1 hfirst
      exact .inr ⟨ht, c, hc, above, rfl, hn, hshows, hfirst⟩
  · rintro (⟨ht, rfl, rfl⟩ | ⟨ht, c, hc, above, rfl, hn, hshows, hfirst⟩)
    · exact ⟨.root n, ht, nofun⟩
    · exact ⟨.part hc hn, hshows, List.forall_mem_cons.2 ⟨ht, hfirst⟩⟩

/-- There is one outermost node at most. -/
theorem IsOutermost.unique {t n n' : Tree} {above above' : List Tree} {low high : Nat}
    (h : Fits source low high t) (hn : IsOutermost lang byte t above n)
    (hn' : IsOutermost lang byte t above' n') : above = above' ∧ n = n' := by
  have hnode := hn.node
  induction hnode generalizing above' low high with
  | root t =>
    rcases isOutermost_iff.1 hn' with ⟨-, rfl, rfl⟩ | ⟨ht, -⟩
    · exact ⟨rfl, rfl⟩
    · exact absurd hn.shows ht
  | @part t c n above hc hnode ih =>
    have hnot := hn.first t List.mem_cons_self
    have hpart : IsOutermost lang byte c above n :=
      ⟨hnode, hn.shows, fun a ha => hn.first a (List.mem_cons_of_mem _ ha)⟩
    rcases isOutermost_iff.1 hn' with ⟨ht, -⟩ | ⟨-, c', hc', above', rfl, hpart'⟩
    · exact absurd ht hnot
    · obtain ⟨low', -, hfits⟩ := h.parts.exists_fits hc
      obtain ⟨low'', -, hfits'⟩ := h.parts.exists_fits hc'
      obtain rfl : c = c' := h.parts.eq_of_has hc hc' (hnode.has hfits hn.shows.2)
        (hpart'.node.has hfits' hpart'.shows.2)
      obtain ⟨rfl, rfl⟩ := ih hfits hpart hpart'
      exact ⟨rfl, rfl⟩

/-! ## The first piece -/

theorem marks_eq (lang : Language) (layout : Layout) (t : Tree) :
    marks lang layout t =
      (if t.IsHighlighted lang then
        pieces layout (t.kind lang) t.startByte t.stopByte t.startRow t.stopRow else []) ++
        marksList lang layout t.children := by
  obtain ⟨name, s, e, sr, er, children⟩ := t
  have hhighlighted : (node name s e sr er children).IsHighlighted lang ↔
      TokenKind.ofNode lang name ≠ .plain ∧ (children = [] ∨ uniform.contains name = true) := by
    rw [List.contains_iff_mem]
    rfl
  rw [marks]
  exact congrArg (· ++ marksList lang layout children) (if_congr hhighlighted.symm rfl rfl)

/-- The pieces of a tree tell its own kind for the bytes that it shows, and for the others
what the pieces of its parts tell. -/
theorem kindIn_marks {low high : Nat} {t : Tree} (h : Fits source low high t) :
    kindIn source byte (marks lang (Layout.ofSource source) t) =
      if t.Shows lang byte then some (t.kind lang)
      else kindIn source byte (marksList lang (Layout.ofSource source) t.children) := by
  rw [marks_eq, kindIn_append, h.rows.1, h.rows.2]
  by_cases hhighlighted : t.IsHighlighted lang
  · rw [if_pos hhighlighted, kindIn_pieces]
    by_cases hhas : t.startByte ≤ byte ∧ byte < t.stopByte
    · rw [if_pos hhas, if_pos ⟨hhighlighted, hhas⟩, Option.some_or]
    · rw [if_neg hhas, if_neg fun hshows => hhas hshows.2, Option.none_or]
  · rw [if_neg hhighlighted, if_neg fun hshows => hhighlighted hshows.1]
    exact Option.none_or

mutual

/-- The pieces of a tree tell for a byte the kind of the outermost highlighted node that has
it. -/
theorem kindIn_marks_eq_some_iff {low high : Nat} {k : TokenKind} : ∀ {t : Tree},
    Fits source low high t →
      (kindIn source byte (marks lang (Layout.ofSource source) t) = some k ↔
        ∃ above n, IsOutermost lang byte t above n ∧ n.kind lang = k)
  | node name s e sr er children, h => by
    have hparts := kindIn_marksList_eq_some_iff (k := k) h.parts
    rw [kindIn_marks h]
    by_cases hshows : (node name s e sr er children).Shows lang byte
    · rw [if_pos hshows, Option.some.injEq]
      constructor
      · intro hk
        exact ⟨[], _, isOutermost_iff.2 (.inl ⟨hshows, rfl, rfl⟩), hk⟩
      · rintro ⟨above, n, hn, hk⟩
        rcases isOutermost_iff.1 hn with ⟨-, -, rfl⟩ | ⟨hnot, -⟩
        · exact hk
        · exact absurd hshows hnot
    · rw [if_neg hshows, hparts]
      constructor
      · rintro ⟨c, hc, above, n, hn, hk⟩
        exact ⟨_, n, isOutermost_iff.2 (.inr ⟨hshows, c, hc, above, rfl, hn⟩), hk⟩
      · rintro ⟨above, n, hn, hk⟩
        rcases isOutermost_iff.1 hn with ⟨hyes, -⟩ | ⟨-, c, hc, above', -, hn'⟩
        · exact absurd hyes hshows
        · exact ⟨c, hc, above', n, hn', hk⟩

/-- The pieces of trees tell for a byte the kind of the outermost highlighted node of one of
them that has it. -/
theorem kindIn_marksList_eq_some_iff {low high : Nat} {k : TokenKind} : ∀ {ts : List Tree},
    FitAll source low high ts →
      (kindIn source byte (marksList lang (Layout.ofSource source) ts) = some k ↔
        ∃ t ∈ ts, ∃ above n, IsOutermost lang byte t above n ∧ n.kind lang = k)
  | [], _ => by simp [marksList, kindIn]
  | t :: ts, h => by
    have hfirst := fun k => kindIn_marks_eq_some_iff (k := k) h.1
    have hlater := kindIn_marksList_eq_some_iff (k := k) h.2
    rw [marksList, kindIn_append, Option.or_eq_some_iff, hfirst, hlater]
    constructor
    · rintro (hn | ⟨-, t', ht', hn⟩)
      · exact ⟨t, List.mem_cons_self, hn⟩
      · exact ⟨t', List.mem_cons_of_mem _ ht', hn⟩
    · rintro ⟨t', ht', above, n, hn, hk⟩
      cases htells : kindIn source byte (marks lang (Layout.ofSource source) t) with
      | none =>
        rcases List.mem_cons.1 ht' with rfl | hlater
        · exact .inl ⟨above, n, hn, hk⟩
        · exact .inr ⟨rfl, t', hlater, above, n, hn, hk⟩
      | some k' =>
        -- the first tree has the byte, so it is the one that the node belongs to
        obtain ⟨above', n', hn', -⟩ := (hfirst k').1 htells
        obtain ⟨low', -, hfits⟩ := h.exists_fits ht'
        obtain rfl : t = t' := h.eq_of_has List.mem_cons_self ht' (hn'.node.has h.1 hn'.shows.2)
          (hn.node.has hfits hn.shows.2)
        exact .inl ⟨above, n, hn, hk⟩

end

/-- The pieces of a tree tell nothing for a byte if and only if no highlighted node has
it. -/
theorem kindIn_marks_eq_none_iff {low high : Nat} {t : Tree} (h : Fits source low high t) :
    kindIn source byte (marks lang (Layout.ofSource source) t) = none ↔
      ∀ above n, Node t above n → ¬ n.Shows lang byte := by
  rw [Option.eq_none_iff_forall_ne_some]
  constructor
  · intro hnone above n hn hshows
    obtain ⟨above', n', hn'⟩ := hn.exists_isOutermost hshows
    exact hnone (n'.kind lang) ((kindIn_marks_eq_some_iff h).2 ⟨above', n', hn', rfl⟩)
  · intro hnone k hk
    obtain ⟨above, n, hn, -⟩ := (kindIn_marks_eq_some_iff h).1 hk
    exact hnone above n hn.node hn.shows

/-! ## Kinds of bytes -/

theorem getElem?_spanLines (lang : Language) (source : Text) (t : Tree)
    (h : row < (Text.lines source).length) :
    (t.spanLines lang source)[row]? =
      some ((marks lang (Layout.ofSource source) t).filterMap fun m =>
        if m.1 = row then some m.2 else none) := by
  rw [← lineCount_ofSource] at h
  rw [spanLines, List.getElem?_map, List.getElem?_range h]
  rfl

/-- The spans of the lines of a source tell of every byte what the tree tells of it.  There
are spans for each line; those of the row of a byte give to its column the kind of the
outermost highlighted node that has the byte, and no kind in particular if no highlighted
node has it; and there is one outermost node at most. -/
theorem kindAt_spanLines_iff {t : Tree} (h : t.IsWellFormed source) (lang : Language) :
    (t.spanLines lang source).length = (Text.lines source).length ∧
    ∀ byte,
      (∃ spans, (t.spanLines lang source)[Text.rowAt source byte]? = some spans ∧
        ∀ k, spans.kindAt (Text.column source byte) = k ↔
          t.Tells lang byte k) ∧
      ∀ above n above' n', IsOutermost lang byte t above n → IsOutermost lang byte t above' n' →
        above = above' ∧ n = n' := by
  refine ⟨length_spanLines lang source t, fun byte =>
    ⟨⟨_, getElem?_spanLines lang source t (Text.rowAt_lt_length source byte), fun k => ?_⟩,
      fun above n above' n' hn hn' => hn.unique h hn'⟩⟩
  rw [kindAt_filterMap, Tells]
  cases htells : kindIn source byte (marks lang (Layout.ofSource source) t) with
  | none =>
    have hnone := (kindIn_marks_eq_none_iff h).1 htells
    rw [Option.getD_none, or_iff_right, and_iff_left hnone, eq_comm]
    rintro ⟨above, n, hn, -⟩
    exact hnone above n hn.node hn.shows
  | some k' =>
    obtain ⟨above, n, hn, rfl⟩ := (kindIn_marks_eq_some_iff h).1 htells
    rw [Option.getD_some, or_iff_left fun hnone => hnone.2 above n hn.node hn.shows]
    constructor
    · intro hk
      exact ⟨above, n, hn, hk⟩
    · rintro ⟨above', n', hn', hk⟩
      rw [(hn.unique h hn').2, hk]

/-- A string on two lines with a name in it, and a comment that ends where the last line
begins; `=` stands behind a character of two bytes. -/
def assignment : Tree :=
  node "module" 0 15 0 2
    [node "identifier" 0 2 0 0 [], node "=" 3 4 0 0 [],
     node "string" 5 10 0 1 [node "string_content" 6 8 0 1 [], node "identifier" 8 9 1 1 []],
     node "comment" 11 15 1 2 [], node "identifier" 15 15 2 2 []]

/-- The name in the string, its ninth byte, is of the kind of the string and not of that of a
name; the blank before the comment is of no kind in particular. -/
theorem kindAt_spanLines_assignment :
    assignment.IsWellFormed "é = \"a\nb\" # c\n" ∧
      (assignment.Tells .python 8 .string ∧ ¬ assignment.Tells .python 8 .variableName) ∧
      assignment.Tells .python 10 .plain := by
  have hwell : assignment.IsWellFormed "é = \"a\nb\" # c\n" := by decide
  obtain ⟨-, htells⟩ := kindAt_spanLines_iff hwell .python
  obtain ⟨⟨spans, hspans, hkind⟩, -⟩ := htells 8
  obtain ⟨⟨spans', hspans', hkind'⟩, -⟩ := htells 10
  obtain rfl : [⟨0, 2, .string⟩, ⟨0, 1, .variableName⟩, ⟨3, 7, .comment⟩] = spans :=
    Option.some.inj (.trans (by decide +kernel) hspans)
  obtain rfl : [⟨0, 2, .string⟩, ⟨0, 1, .variableName⟩, ⟨3, 7, .comment⟩] = spans' :=
    Option.some.inj (.trans (by decide +kernel) hspans')
  have hstring := (hkind .string).1 (by decide)
  have hname : ¬ assignment.Tells .python 8 .variableName := fun htells =>
    absurd ((hkind .variableName).2 htells) (by decide)
  exact ⟨hwell, ⟨hstring, hname⟩, (hkind' .plain).1 (by decide)⟩

end Tree

end PageHighlight
