/-
  Proofs/Markup/Reading.lean --- what a reader of written markup comes upon.

  WHAT THIS FILE IS FOR.  A reader who knows nothing of how a text was made takes every
  `<` for the beginning of a tag and the next `>` for its end; the rest is text.
  `Piece.readAll` is this reader.  For markup whose names could stand in a tag at all
  (`Markup.IsNamed`) it comes upon the start tags, the end tags and the escaped texts
  that were meant and upon nothing else (`readAll_write`), whatever the texts and the
  values of attributes are.

  WHAT IS READ OFF.  That tags nest, that every `<` and `>` belongs to a tag, and that
  the text between the tags decodes to the content, are then facts about
  `Markup.pieces`, which follow the tree.
-/
import PageHighlight.Proofs.Page.Tag

set_option autoImplicit false

namespace PageHighlight

/-! ## Reading -/

/-- What a reader of HTML comes upon. -/
inductive Piece where
  /-- a start tag, with its attributes -/
  | start (name : Text) (attrs : List Attribute)
  /-- an end tag -/
  | stop (name : Text)
  /-- a character outside of tags, as it stands there -/
  | char (c : Char)
  deriving DecidableEq, Repr

namespace Piece

/-- A character of the name of a tag. -/
def inTagName (c : Char) : Bool := !Text.isAsciiBlank c

/-- The tag with this text between `<` and `>`. -/
def ofBody : Text → Piece
  | '/' :: name => stop name
  | body => start (body.takeWhile inTagName) (Tag.attributes (body.dropWhile inTagName))

/-- What a reader comes upon who has read this much of a tag, or is outside of tags; a
tag that never ends is none. -/
def readFrom : Option Text → Text → List Piece
  | _, [] => []
  | none, c :: r => if c = '<' then readFrom (some []) r else char c :: readFrom none r
  | some body, c :: r =>
    if c = '>' then ofBody body :: readFrom none r else readFrom (some (body ++ [c])) r

/-- What a reader comes upon in a text. -/
def readAll (t : Text) : List Piece := readFrom none t

/-! ## What can be seen of pieces -/

/-- Whether a piece is a tag. -/
def isTag : Piece → Bool
  | char _ => false
  | _ => true

/-- The start tag that a piece is. -/
def start? : Piece → Option (Text × List Attribute)
  | start name attrs => some (name, attrs)
  | _ => none

/-- The character that a piece is. -/
def char? : Piece → Option Char
  | char c => some c
  | _ => none

/-- The start tags, in order. -/
def starts (ps : List Piece) : List (Text × List Attribute) := ps.filterMap start?

/-- The text that is left when the tags are deleted. -/
def untagged (ps : List Piece) : Text := ps.filterMap char?

/-- Whether every element ends where it should, if these are the elements that are
open, the innermost one first. -/
def areNested : List Text → List Piece → Bool
  | names, [] => names.isEmpty
  | names, start name _ :: ps => areNested (name :: names) ps
  | [], stop _ :: _ => false
  | name :: names, stop name' :: ps => name = name' && areNested names ps
  | names, char _ :: ps => areNested names ps

@[simp] theorem starts_append (ps qs : List Piece) : starts (ps ++ qs) = starts ps ++ starts qs :=
  List.filterMap_append

@[simp] theorem untagged_append (ps qs : List Piece) :
    untagged (ps ++ qs) = untagged ps ++ untagged qs :=
  List.filterMap_append

@[simp] theorem starts_map_char (t : Text) : starts (t.map char) = [] := by
  simp [starts, start?]

@[simp] theorem untagged_map_char (t : Text) : untagged (t.map char) = t := by
  induction t with
  | nil => rfl
  | cons c t ih => exact congrArg (c :: ·) ih

@[simp] theorem areNested_map_char (names : List Text) (t : Text) (ps : List Piece) :
    areNested names (t.map char ++ ps) = areNested names ps := by
  induction t with
  | nil => rfl
  | cons c t ih =>
    rw [List.map_cons, List.cons_append, ← ih]
    cases names <;> rfl

/-! ## Texts and tags -/

theorem readAll_append_text {t : Text} (h : ∀ c ∈ t, c ≠ '<') (s : Text) :
    readAll (t ++ s) = t.map char ++ readAll s := by
  unfold readAll
  induction t with
  | nil => rfl
  | cons c t ih =>
    rw [List.cons_append, readFrom, if_neg (h c List.mem_cons_self),
      ih fun d hd => h d (List.mem_cons_of_mem _ hd)]
    rfl

/-- A tag ends at the first `>`. -/
theorem readFrom_append_body {body : Text} (h : '>' ∉ body) (before s : Text) :
    readFrom (some before) (body ++ '>' :: s) = ofBody (before ++ body) :: readAll s := by
  induction body generalizing before with
  | nil => rw [List.nil_append, readFrom, if_pos rfl, List.append_nil, readAll]
  | cons c body ih =>
    rw [List.mem_cons, not_or] at h
    have hc : ¬c = '>' := fun he => h.1 he.symm
    rw [List.cons_append, readFrom, if_neg hc, ih h.2, List.append_assoc, List.singleton_append]

theorem readAll_append_tag {body : Text} (h : '>' ∉ body) (s : Text) :
    readAll ('<' :: (body ++ '>' :: s)) = ofBody body :: readAll s := by
  rw [readAll, readFrom, if_pos rfl, readFrom_append_body h, List.nil_append]

end Piece

namespace Attribute

theorem inWrittenName_ne {c : Char} (h : inWrittenName c = true) :
    c ≠ '/' ∧ c ≠ '<' ∧ c ≠ '>' := by
  simp only [inWrittenName, Bool.not_eq_true', Bool.or_eq_false_iff, decide_eq_false_iff_not] at h
  obtain ⟨⟨⟨⟨⟨⟨⟨-, -⟩, hslash⟩, hlt⟩, hgt⟩, -⟩, -⟩, -⟩ := h
  exact ⟨hslash, hlt, hgt⟩

/-- Written attributes hold neither `<` nor `>`. -/
theorem mem_writeAll {as : List Attribute} (h : ∀ a ∈ as, IsName a.1) {c : Char}
    (hc : c ∈ writeAll as) : c ≠ '<' ∧ c ≠ '>' := by
  obtain ⟨a, ha, hin⟩ := List.mem_flatMap.1 hc
  simp only [write_eq, writeHere, List.mem_append, List.mem_cons, List.not_mem_nil,
    or_false] at hin
  rcases hin with rfl | (hname | rfl | rfl | hvalue) | rfl
  · decide
  · exact (inWrittenName_ne ((h a ha).2 c hname)).2
  · decide
  · decide
  · exact ⟨(Entity.mem_escape hvalue).1, (Entity.mem_escape hvalue).2.1⟩
  · decide

end Attribute

namespace Markup

open Attribute

/-- What stands between `<` and `>` in a written start tag is read as the tag. -/
theorem ofBody_writeAll {name : Text} (hname : IsName name) {as : List Attribute}
    (has : ∀ a ∈ as, IsName a.1) :
    Piece.ofBody (name ++ Attribute.writeAll as) = .start name as := by
  have hin : ∀ c ∈ name, Piece.inTagName c = true := by
    intro c hc
    simp [Piece.inTagName, not_isAsciiBlank_of_inWrittenName (hname.2 c hc)]
  have hhead : ∀ (d : Char) (as' : Text), Attribute.writeAll as = d :: as' →
      Piece.inTagName d = false := by
    intro d as' he
    cases as with
    | nil => cases he
    | cons a as =>
      rw [Attribute.writeAll_cons, write_eq, List.cons_append] at he
      cases he
      rfl
  have htake : (name ++ Attribute.writeAll as).takeWhile Piece.inTagName = name := by
    rw [List.takeWhile_append_of_pos hin]
    cases hw : Attribute.writeAll as with
    | nil => simp
    | cons d as' => simp [hhead d as' hw]
  have hdrop : (name ++ Attribute.writeAll as).dropWhile Piece.inTagName =
      Attribute.writeAll as := by
    rw [List.dropWhile_append_of_pos hin]
    cases hw : Attribute.writeAll as with
    | nil => rfl
    | cons d as' => simp [hhead d as' hw]
  obtain ⟨hne, hchars⟩ := hname
  cases name with
  | nil => exact absurd rfl hne
  | cons c name =>
    have hslash : c ≠ '/' := (inWrittenName_ne (hchars c List.mem_cons_self)).1
    rw [List.cons_append] at htake hdrop ⊢
    unfold Piece.ofBody
    split
    · next he =>
      cases he
      exact absurd rfl hslash
    · rw [htake, hdrop, Tag.attributes_writeAll fun a ha => (has a ha).isRead]

theorem readAll_startTag {name : Text} (hname : IsName name) {as : List Attribute}
    (has : ∀ a ∈ as, IsName a.1) (s : Text) :
    Piece.readAll (startTag name as ++ s) = .start name as :: Piece.readAll s := by
  have hbody : '>' ∉ name ++ Attribute.writeAll as := by
    rw [List.mem_append, not_or]
    exact ⟨fun hc => (inWrittenName_ne (hname.2 _ hc)).2.2 rfl,
      fun hc => (mem_writeAll has hc).2 rfl⟩
  have hwrite : startTag name as ++ s = '<' :: ((name ++ Attribute.writeAll as) ++ '>' :: s) := by
    simp [startTag]
  rw [hwrite, Piece.readAll_append_tag hbody, ofBody_writeAll hname has]

theorem readAll_endTag {name : Text} (hname : IsName name) (s : Text) :
    Piece.readAll (endTag name ++ s) = .stop name :: Piece.readAll s := by
  have hbody : '>' ∉ '/' :: name := by
    rw [List.mem_cons, not_or]
    exact ⟨by decide, fun hc => (inWrittenName_ne (hname.2 _ hc)).2.2 rfl⟩
  have hwrite : endTag name ++ s = '<' :: (('/' :: name) ++ '>' :: s) := by
    simp [endTag]
  rw [hwrite, Piece.readAll_append_tag hbody]
  rfl

/-! ## Trees -/

mutual

/-- The names in a piece of HTML could stand in tags. -/
def IsNamed : Markup → Prop
  | text _ => True
  | element name attrs ms => IsName name ∧ (∀ a ∈ attrs, IsName a.1) ∧ AreNamed ms

/-- And so on for several pieces. -/
def AreNamed : List Markup → Prop
  | [] => True
  | m :: ms => IsNamed m ∧ AreNamed ms

end

mutual

/-- What a reader should come upon in a piece of HTML. -/
def pieces : Markup → List Piece
  | text t => (Entity.escape t).map .char
  | element name attrs ms => .start name attrs :: piecesAll ms ++ [.stop name]

/-- And in several ones. -/
def piecesAll : List Markup → List Piece
  | [] => []
  | m :: ms => pieces m ++ piecesAll ms

end

mutual

/-- A reader comes upon what was written, whatever stands behind it. -/
theorem readAll_write_append : ∀ (m : Markup), m.IsNamed → ∀ s : Text,
    Piece.readAll (m.write ++ s) = m.pieces ++ Piece.readAll s
  | text t, _, s => by
    rw [write, pieces]
    exact Piece.readAll_append_text (fun c hc => (Entity.mem_escape hc).1) s
  | element name attrs ms, h, s => by
    obtain ⟨hname, hattrs, hms⟩ := h
    rw [write, List.append_assoc, List.append_assoc, readAll_startTag hname hattrs,
      readAll_writeAll_append ms hms, readAll_endTag hname, pieces]
    simp

theorem readAll_writeAll_append : ∀ (ms : List Markup), AreNamed ms → ∀ s : Text,
    Piece.readAll (writeAll ms ++ s) = piecesAll ms ++ Piece.readAll s
  | [], _, s => rfl
  | m :: ms, h, s => by
    rw [writeAll, List.append_assoc, readAll_write_append m h.1, readAll_writeAll_append ms h.2,
      piecesAll, List.append_assoc]

end

theorem readAll_write {m : Markup} (h : m.IsNamed) : Piece.readAll m.write = m.pieces := by
  have hread := readAll_write_append m h []
  rw [List.append_nil] at hread
  rw [hread]
  exact List.append_nil _

mutual

/-- Elements end where they should. -/
theorem areNested_pieces : ∀ (m : Markup) (names : List Text) (ps : List Piece),
    Piece.areNested names (m.pieces ++ ps) = Piece.areNested names ps
  | text t, names, ps => by
    rw [pieces, Piece.areNested_map_char]
  | element name attrs ms, names, ps => by
    simp only [pieces, List.cons_append, List.append_assoc, Piece.areNested,
      areNested_piecesAll ms, List.nil_append, decide_true, Bool.true_and]

theorem areNested_piecesAll : ∀ (ms : List Markup) (names : List Text) (ps : List Piece),
    Piece.areNested names (piecesAll ms ++ ps) = Piece.areNested names ps
  | [], _, _ => rfl
  | m :: ms, names, ps => by
    rw [piecesAll, List.append_assoc, areNested_pieces m, areNested_piecesAll ms]

end

mutual

/-- What is left without the tags is the escaped content. -/
theorem untagged_pieces : ∀ m : Markup, Piece.untagged m.pieces = Entity.escape m.content
  | text t => by
    rw [pieces, Piece.untagged_map_char, content]
  | element name attrs ms => by
    have hstart : Piece.untagged (pieces (element name attrs ms)) =
        Piece.untagged (piecesAll ms ++ [.stop name]) := rfl
    rw [hstart, Piece.untagged_append, untagged_piecesAll ms, content]
    exact List.append_nil _

theorem untagged_piecesAll : ∀ ms : List Markup,
    Piece.untagged (piecesAll ms) = Entity.escape (contentAll ms)
  | [] => rfl
  | m :: ms => by
    rw [piecesAll, Piece.untagged_append, untagged_pieces m, untagged_piecesAll ms, contentAll]
    exact List.flatMap_append.symm

end

/-! ## Angle brackets -/

/-- A text in which one of the two is missing. -/
theorem count_eq_zero_of_forall {t : Text} {c : Char} (h : ∀ d ∈ t, d ≠ c) : t.count c = 0 :=
  List.count_eq_zero.2 fun hc => h c hc rfl

theorem count_startTag {name : Text} (hname : IsName name) {as : List Attribute}
    (has : ∀ a ∈ as, IsName a.1) :
    (startTag name as).count '<' = 1 ∧ (startTag name as).count '>' = 1 := by
  have hlt : (name ++ Attribute.writeAll as).count '<' = 0 := count_eq_zero_of_forall fun d hd => by
    rcases List.mem_append.1 hd with hd | hd
    · exact (inWrittenName_ne (hname.2 d hd)).2.1
    · exact (mem_writeAll has hd).1
  have hgt : (name ++ Attribute.writeAll as).count '>' = 0 := count_eq_zero_of_forall fun d hd => by
    rcases List.mem_append.1 hd with hd | hd
    · exact (inWrittenName_ne (hname.2 d hd)).2.2
    · exact (mem_writeAll has hd).2
  have hwrite : startTag name as = ['<'] ++ (name ++ Attribute.writeAll as) ++ ['>'] := by
    simp [startTag]
  rw [hwrite]
  simp only [List.count_append, hlt, hgt]
  decide

theorem count_endTag {name : Text} (hname : IsName name) :
    (endTag name).count '<' = 1 ∧ (endTag name).count '>' = 1 := by
  have hlt : name.count '<' = 0 :=
    count_eq_zero_of_forall fun d hd => (inWrittenName_ne (hname.2 d hd)).2.1
  have hgt : name.count '>' = 0 :=
    count_eq_zero_of_forall fun d hd => (inWrittenName_ne (hname.2 d hd)).2.2
  have hwrite : endTag name = ['<', '/'] ++ name ++ ['>'] := rfl
  rw [hwrite]
  simp only [List.count_append, hlt, hgt]
  decide

theorem countP_isTag_map_char (t : Text) : (t.map Piece.char).countP Piece.isTag = 0 := by
  rw [List.countP_eq_zero]
  intro p hp
  obtain ⟨c, -, rfl⟩ := List.mem_map.1 hp
  simp [Piece.isTag]

theorem countP_isTag_element (name : Text) (attrs : List Attribute) (ms : List Markup) :
    (pieces (element name attrs ms)).countP Piece.isTag =
      1 + (piecesAll ms).countP Piece.isTag + 1 := by
  rw [pieces, List.countP_append, List.countP_cons, List.countP_singleton]
  simp only [Piece.isTag, if_true]
  omega

mutual

/-- Half of the tags are start tags. -/
theorem countP_isTag_pieces : ∀ m : Markup,
    m.pieces.countP Piece.isTag = 2 * (Piece.starts m.pieces).length
  | text t => by
    rw [pieces, countP_isTag_map_char, Piece.starts_map_char]
    rfl
  | element name attrs ms => by
    have hstarts : Piece.starts (pieces (element name attrs ms)) =
        (name, attrs) :: Piece.starts (piecesAll ms ++ [.stop name]) := rfl
    rw [hstarts, Piece.starts_append, List.length_cons, List.length_append, countP_isTag_element,
      countP_isTag_piecesAll ms]
    show 1 + 2 * (Piece.starts (piecesAll ms)).length + 1 = _
    simp only [Piece.starts, Piece.start?, List.filterMap_cons, List.filterMap_nil, List.length_nil]
    omega

theorem countP_isTag_piecesAll : ∀ ms : List Markup,
    (piecesAll ms).countP Piece.isTag = 2 * (Piece.starts (piecesAll ms)).length
  | [] => rfl
  | m :: ms => by
    rw [piecesAll, List.countP_append, Piece.starts_append, List.length_append,
      countP_isTag_pieces m, countP_isTag_piecesAll ms]
    omega

end

mutual

/-- Every `<` and every `>` belongs to a tag. -/
theorem count_write : ∀ m : Markup, m.IsNamed →
    m.write.count '<' = m.pieces.countP Piece.isTag ∧
      m.write.count '>' = m.pieces.countP Piece.isTag
  | text t, _ => by
    rw [write, pieces, countP_isTag_map_char]
    exact ⟨count_eq_zero_of_forall fun d hd => (Entity.mem_escape hd).1,
      count_eq_zero_of_forall fun d hd => (Entity.mem_escape hd).2.1⟩
  | element name attrs ms, h => by
    obtain ⟨hname, hattrs, hms⟩ := h
    obtain ⟨hlt, hgt⟩ := count_writeAll ms hms
    obtain ⟨hstartlt, hstartgt⟩ := count_startTag hname hattrs
    obtain ⟨hendlt, hendgt⟩ := count_endTag hname
    simp only [write, countP_isTag_element, List.count_append, hlt, hgt, hstartlt, hstartgt, hendlt,
      hendgt, and_self]

theorem count_writeAll : ∀ ms : List Markup, AreNamed ms →
    (writeAll ms).count '<' = (piecesAll ms).countP Piece.isTag ∧
      (writeAll ms).count '>' = (piecesAll ms).countP Piece.isTag
  | [], _ => ⟨rfl, rfl⟩
  | m :: ms, h => by
    obtain ⟨hlt, hgt⟩ := count_write m h.1
    obtain ⟨hlt', hgt'⟩ := count_writeAll ms h.2
    rw [writeAll, piecesAll, List.count_append, List.count_append, List.countP_append, hlt, hgt,
      hlt', hgt']
    exact ⟨rfl, rfl⟩

end

end Markup

end PageHighlight
