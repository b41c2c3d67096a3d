/-
  Proofs/Page/Readable.lean --- what readers make of a page that was written.

  WHAT THIS FILE IS FOR.  Texts and values of a page may hold anything; what is passed
  through must not hold the beginning of a tag that readers understand, and names must be
  such as tags can hold (`Page.IsReadable`).  Then what is read of the page is known
  (`Page.IsReadable.readAll_toHtml`), and the page that is made of it
  (`Page.IsReadable.ofHtml_toHtml_opened`).

  SEGMENTS.  Readers see runs of HTML where writers had several pieces, and one more run,
  maybe empty, at both ends and between neighbours: `Segment.merged`.  If blocks are
  rendered, what is around them is HTML to readers, too: `Page.opened`.  It is written
  again around whatever becomes of what was read of the block (`Page.toHtml_of_opened`).
-/
import PageHighlight.Proofs.Page.Slots

set_option autoImplicit false

namespace PageHighlight

/-! ## Segments as readers see them -/

namespace Segment

/-- The index of the slot of a block. -/
def block? : Segment → Option Nat
  | block i => some i
  | _ => none

/-- Whether a segment is HTML that is passed through. -/
def isHtml : Segment → Bool
  | html _ => true
  | _ => false

/-- The segments as readers see them: `run` is the HTML that was met last. -/
def mergedFrom : (run : Text) → List Segment → List Segment
  | run, [] => [html run]
  | run, html t :: ss => mergedFrom (run ++ t) ss
  | run, root :: ss => html run :: root :: mergedFrom [] ss
  | run, block i :: ss => html run :: block i :: mergedFrom [] ss

/-- The segments as readers see them: neighbouring pieces of HTML are one, and there
is one, maybe empty, before and behind everything else. -/
def merged (ss : List Segment) : List Segment := mergedFrom [] ss

/-- If segments tell the blocks from the `k`th on in order, the first they tell is this
one. -/
theorem next_block {i k n : Nat} {ss : List Segment}
    (h : (block i :: ss).filterMap block? = List.range' k (n - k)) :
    k = i ∧ i < n ∧ ss.filterMap block? = List.range' (i + 1) (n - (i + 1)) := by
  cases hcount : n - k with
  | zero =>
    rw [hcount] at h
    cases h
  | succ m =>
    rw [hcount, List.range'_succ] at h
    obtain ⟨hi, hrest⟩ := List.cons.inj h
    have hik : i = k := hi
    have hm : m = n - (i + 1) := by omega
    exact ⟨hik.symm, by omega, by rw [← hm, hik]; exact hrest⟩

end Segment

namespace Page

/-- What is written before the block in the slot at an index. -/
def openingOf (p : Page) (i : Nat) : Text := ((p.slots[i]?).map Slot.opening).getD []

/-- What is written behind it. -/
def closingOf (p : Page) (i : Nat) : Text := ((p.slots[i]?).map Slot.closing).getD []

/-- The segments as readers see them: `run` is the HTML that was met last, and what is
around a rendered block is HTML too. -/
def opened (p : Page) : (run : Text) → List Segment → List Segment
  | run, [] => [.html run]
  | run, .html t :: ss => opened p (run ++ t) ss
  | run, .root :: ss => .html run :: .root :: opened p [] ss
  | run, .block i :: ss => .html (run ++ p.openingOf i) :: .block i :: opened p (p.closingOf i) ss

/-- What readers find of a segment, if these are the blocks of the slots. -/
def foundAt (p : Page) (bs : List CodeBlock) : Segment → Part
  | .html t => .html t
  | .root => .root (Attribute.writeAll (Tag.withClasses p.root.classes p.root.attrs))
  | .block i => ((bs[i]?).map Part.block).getD (.html [])

/-- A page that can be written and read again: as for a page with pristine blocks only,
but for the blocks that are rendered. -/
structure IsReadable (p : Page) : Prop where
  slots : ∀ s ∈ p.slots, s.node.isRendered = false → s.IsPristine
  inOrder : p.segments.filterMap Segment.block? = List.range p.slots.length
  rootFirst : p.segments.Pairwise fun a b => b = .root → a.isHtml = true
  passedOver : ∀ t, .html t ∈ Segment.merged p.segments → t.IsPassedOver
  rootAttrs : Tag.AreOthers p.root.attrs

section Found

variable {p : Page} {bs : List CodeBlock}

theorem writeSegment_block {p : Page} {i : Nat} {s : Slot} (h : p.slots[i]? = some s) :
    p.writeSegment (.block i) = writeSlot s := by
  simp only [writeSegment, h]

/-- Every block that segments tell is in a slot, and there is one found in it. -/
def Tells (p : Page) (bs : List CodeBlock) (ss : List Segment) : Prop :=
  ∀ i, Segment.block i ∈ ss → ∃ s b, p.slots[i]? = some s ∧ bs[i]? = some b ∧ s.Holds b

theorem Tells.tail {seg : Segment} {ss : List Segment} (h : p.Tells bs (seg :: ss)) :
    p.Tells bs ss :=
  fun i hm => h i (List.mem_cons_of_mem _ hm)

theorem foundAt_block {i : Nat} {b : CodeBlock} (h : bs[i]? = some b) :
    p.foundAt bs (.block i) = .block b := by
  simp only [foundAt, h, Option.map_some, Option.getD_some]

theorem openingOf_eq {i : Nat} {s : Slot} (h : p.slots[i]? = some s) :
    p.openingOf i = s.opening := by
  simp only [openingOf, h, Option.map_some, Option.getD_some]

theorem closingOf_eq {i : Nat} {s : Slot} (h : p.slots[i]? = some s) :
    p.closingOf i = s.closing := by
  simp only [closingOf, h, Option.map_some, Option.getD_some]

/-- What readers find of segments is written as the segments are. -/
theorem flatMap_text_opened (ss : List Segment) (run : Text) (h : p.Tells bs ss) :
    ((p.opened run ss).map (p.foundAt bs)).flatMap Part.text =
      run ++ ss.flatMap p.writeSegment := by
  induction ss generalizing run with
  | nil => simp [opened, foundAt, Part.text]
  | cons seg ss ih =>
    have ih := fun run => ih run h.tail
    cases seg with
    | html t =>
      rw [opened, ih, List.flatMap_cons, ← List.append_assoc]
      rfl
    | root =>
      rw [opened, List.map_cons, List.map_cons, List.flatMap_cons, List.flatMap_cons, ih,
        List.flatMap_cons]
      simp [foundAt, Part.text, writeSegment, rootTag, Markup.startTag]
    | block i =>
      obtain ⟨s, b, hs, hb, hholds⟩ := h i List.mem_cons_self
      rw [opened, List.map_cons, List.map_cons, foundAt_block hb, List.flatMap_cons,
        List.flatMap_cons, ih, List.flatMap_cons, writeSegment_block hs, hholds.writeSlot_eq,
        openingOf_eq hs, closingOf_eq hs]
      simp [foundAt, Part.text]

/-- Blocks and HTML that is passed over are parts as readers find them, also behind
something that begins no tag. -/
theorem areBlocks_opened (ss : List Segment) {behind run : Text}
    (hbehind : ∀ t : Text, t.IsPassedOver → (behind ++ t).IsPassedOver) (htells : p.Tells bs ss)
    (hnoRoot : Segment.root ∉ ss)
    (hpassed : ∀ t, .html t ∈ Segment.mergedFrom run ss → t.IsPassedOver) :
    Part.AreBlocks ((p.opened (behind ++ run) ss).map (p.foundAt bs)) := by
  induction ss generalizing behind run with
  | nil => exact .last (hbehind run (hpassed run List.mem_cons_self))
  | cons seg ss ih =>
    have hnoRoot' : Segment.root ∉ ss := fun hm => hnoRoot (List.mem_cons_of_mem _ hm)
    cases seg with
    | html t =>
      rw [opened, List.append_assoc]
      exact ih hbehind htells.tail hnoRoot' hpassed
    | root => exact absurd List.mem_cons_self hnoRoot
    | block i =>
      obtain ⟨s, b, hs, hb, hholds⟩ := htells i List.mem_cons_self
      have hrun := hbehind run (hpassed run List.mem_cons_self)
      have hrest : Part.AreBlocks ((p.opened (s.closing ++ []) ss).map (p.foundAt bs)) :=
        ih (fun t ht => s.isPassedOver_closing_append ht) htells.tail hnoRoot'
          fun t hm => hpassed t (List.mem_cons_of_mem _ (List.mem_cons_of_mem _ hm))
      rw [List.append_nil] at hrest
      rw [opened, List.map_cons, List.map_cons, foundAt_block hb, openingOf_eq hs,
        closingOf_eq hs]
      exact .block (s.isPassedOver_append_opening hrun) hholds.isFound hrest

/-- So are those of a page with its root element, if it has one. -/
theorem areAll_opened (ss : List Segment) {run : Text}
    (hroot : ss.Pairwise fun a b => b = .root → a.isHtml = true) (htells : p.Tells bs ss)
    (hrootAttrs : Tag.AreOthers p.root.attrs)
    (hpassed : ∀ t, .html t ∈ Segment.mergedFrom run ss → t.IsPassedOver) :
    Part.AreAll ((p.opened run ss).map (p.foundAt bs)) := by
  have same : ∀ t : Text, t.IsPassedOver → Text.IsPassedOver ([] ++ t) := fun t ht => ht
  induction ss generalizing run with
  | nil => exact .rootless (areBlocks_opened [] same htells (by simp) hpassed)
  | cons seg ss ih =>
    obtain ⟨hfirst, hroot'⟩ := List.pairwise_cons.1 hroot
    cases seg with
    | html t => exact ih hroot' htells.tail hpassed
    | root =>
      refine .rooted (hpassed run List.mem_cons_self) (Tag.isName_of_mem_withClasses hrootAttrs)
        (areBlocks_opened ss same htells.tail (fun hm => ?_) fun t hm => ?_)
      · cases hfirst _ hm rfl
      · exact hpassed t (List.mem_cons_of_mem _ (List.mem_cons_of_mem _ hm))
    | block i =>
      refine .rootless (areBlocks_opened _ same htells (fun hm => ?_) hpassed)
      rcases List.mem_cons.1 hm with he | hm
      · cases he
      · cases hfirst _ hm rfl

theorem IsReadable.tells (h : p.IsReadable) (hbs : List.Forall₂ Slot.Holds p.slots bs) :
    p.Tells bs p.segments := by
  intro i hm
  have hi : i ∈ p.segments.filterMap Segment.block? := List.mem_filterMap.2 ⟨.block i, hm, rfl⟩
  rw [h.inOrder, List.mem_range] at hi
  have hi' : i < bs.length := hbs.length_eq ▸ hi
  exact ⟨_, _, List.getElem?_eq_getElem hi, List.getElem?_eq_getElem hi', hbs.get hi hi'⟩

/-- What is read of a page that was written: its segments, its rendered blocks taken
apart. -/
theorem IsReadable.readAll_toHtml (h : p.IsReadable)
    (hbs : List.Forall₂ Slot.Holds p.slots bs) :
    Part.readAll p.toHtml = (p.opened [] p.segments).map (p.foundAt bs) := by
  have htext := flatMap_text_opened p.segments [] (h.tells hbs)
  rw [List.nil_append] at htext
  rw [toHtml, ← htext]
  exact Part.readAll_flatMap_text
    (areAll_opened p.segments h.rootFirst (h.tells hbs) h.rootAttrs h.passedOver)

/-! ## The page that is read -/

/-- The root element that is read of a page that was written, if it has one. -/
def rootRead (p : Page) : RootElement :=
  ⟨Tag.classesOf (Tag.withClasses p.root.classes p.root.attrs), p.root.attrs⟩

theorem root_addPart_root (hrootAttrs : Tag.AreOthers p.root.attrs) (q : Page) :
    (q.addPart (p.foundAt bs .root)).root = p.rootRead := by
  have hread : Tag.attributes (Attribute.writeAll
        (Tag.withClasses p.root.classes p.root.attrs)) =
      Tag.withClasses p.root.classes p.root.attrs :=
    Tag.attributes_writeAll fun a ha => (Tag.isName_of_mem_withClasses hrootAttrs a ha).isRead
  simp only [foundAt, addPart, hread, rootRead, Tag.othersOf_withClasses hrootAttrs.ne]

/-- The next block, added to a page that has those before it. -/
theorem makesSlot_addPart_block {q : Page} {i : Nat} (hi : i < bs.length)
    (hq : List.Forall₂ CodeBlock.MakesSlot (bs.take i) q.slots) :
    q.slots.length = i ∧
      List.Forall₂ CodeBlock.MakesSlot (bs.take (i + 1)) (q.addPart (.block bs[i])).slots := by
  constructor
  · rw [← hq.length_eq, List.length_take]
    omega
  · rw [List.take_add_one, List.getElem?_eq_getElem hi, Option.toList_some]
    exact List.rel_append hq (.cons (bs[i].makesSlot_pushed (q.allocated + 1)) .nil)

/-- The parts of segments, added to a page that has the first `k` blocks, add the
segments and the other blocks. -/
theorem addAll_foundAt (hrootAttrs : Tag.AreOthers p.root.attrs) (ss : List Segment) {q : Page}
    {k : Nat} (hk : k ≤ bs.length)
    (hss : ss.filterMap Segment.block? = List.range' k (bs.length - k))
    (hq : List.Forall₂ CodeBlock.MakesSlot (bs.take k) q.slots) :
    let r := (ss.map (p.foundAt bs)).foldl addPart q
    r.segments = q.segments ++ ss ∧ List.Forall₂ CodeBlock.MakesSlot bs r.slots ∧
      r.root = if .root ∈ ss then p.rootRead else q.root := by
  induction ss generalizing q k with
  | nil =>
    have hlen : bs.length - k = 0 := by
      have := congrArg List.length hss
      simpa using this.symm
    have hall : bs.take k = bs := List.take_of_length_le (by omega)
    rw [hall] at hq
    exact ⟨by simp, hq, by simp⟩
  | cons seg ss ih =>
    simp only [List.map_cons, List.foldl_cons]
    cases seg with
    | html t =>
      obtain ⟨hseg, hslots, hroot⟩ := ih (q := q.addPart (.html t)) hk hss hq
      refine ⟨?_, hslots, ?_⟩
      · exact hseg.trans (by simp [addPart])
      · rw [foundAt, hroot]
        simp [addPart]
    | root =>
      obtain ⟨hseg, hslots, hroot⟩ := ih (q := q.addPart (p.foundAt bs .root)) hk hss hq
      refine ⟨?_, hslots, ?_⟩
      · exact hseg.trans (by simp [addPart, foundAt])
      · rw [hroot, root_addPart_root hrootAttrs]
        simp
    | block i =>
      obtain ⟨rfl, hlt, hrest⟩ := Segment.next_block hss
      obtain ⟨hlen, hadded⟩ := makesSlot_addPart_block hlt hq
      obtain ⟨hseg, hslots, hroot⟩ := ih hlt hrest hadded
      rw [foundAt_block (List.getElem?_eq_getElem hlt)]
      refine ⟨hseg.trans ?_, hslots, ?_⟩
      · simp [addPart, pushBlock, hlen]
      · rw [hroot]
        simp [addPart, pushBlock]

theorem filterMap_opened (p : Page) (ss : List Segment) (run : Text) :
    (p.opened run ss).filterMap Segment.block? = ss.filterMap Segment.block? := by
  induction ss generalizing run with
  | nil => rfl
  | cons seg ss ih =>
    cases seg <;> simp [opened, List.filterMap_cons, Segment.block?, ih]

theorem root_mem_opened (p : Page) (ss : List Segment) (run : Text) :
    Segment.root ∈ p.opened run ss ↔ Segment.root ∈ ss := by
  induction ss generalizing run with
  | nil => simp [opened]
  | cons seg ss ih =>
    cases seg <;> simp [opened, ih]

/-- The page that is read of a page that was written: its segments, its rendered blocks
taken apart, and a slot for each block that is found. -/
theorem IsReadable.ofHtml_toHtml_opened (h : p.IsReadable)
    (hbs : List.Forall₂ Slot.Holds p.slots bs) :
    (ofHtml p.toHtml).segments = p.opened [] p.segments ∧
      List.Forall₂ CodeBlock.MakesSlot bs (ofHtml p.toHtml).slots ∧
      (ofHtml p.toHtml).root = if .root ∈ p.segments then p.rootRead else ⟨[], []⟩ := by
  have hblocks : (p.opened [] p.segments).filterMap Segment.block? =
      List.range' 0 (bs.length - 0) := by
    rw [filterMap_opened, h.inOrder, List.range_eq_range', hbs.length_eq, Nat.sub_zero]
  obtain ⟨hsegments, hslots, hroot⟩ :=
    addAll_foundAt h.rootAttrs (p.opened [] p.segments) (q := empty) (Nat.zero_le _) hblocks .nil
  rw [← h.readAll_toHtml hbs] at hsegments hslots hroot
  simp only [root_mem_opened] at hroot
  exact ⟨hsegments, hslots, hroot⟩

/-! ## Writing it again -/

/-- What a page with the segments that were read writes for a segment of the page that
was written: what was around a block is around what is in its place. -/
def rewritten (p q : Page) : Segment → Text
  | .block i => p.openingOf i ++ (q.writeSegment (.block i) ++ p.closingOf i)
  | seg => q.writeSegment seg

theorem flatMap_opened (p q : Page) (ss : List Segment) (run : Text) :
    (p.opened run ss).flatMap q.writeSegment = run ++ ss.flatMap (p.rewritten q) := by
  induction ss generalizing run with
  | nil => simp [opened, writeSegment]
  | cons seg ss ih =>
    cases seg <;> simp [opened, writeSegment, rewritten, ih]

/-- What is in the place of a block is written as the block was if and only if it is
written as readers found it. -/
theorem rewritten_block_eq_iff {p q : Page} {i : Nat} {slot after : Slot} {b : CodeBlock}
    (hp : p.slots[i]? = some slot) (hq : q.slots[i]? = some after) (h : slot.Holds b) :
    p.rewritten q (.block i) = p.writeSegment (.block i) ↔ writeSlot after = b.text := by
  rw [rewritten, openingOf_eq hp, closingOf_eq hp, writeSegment_block hp, writeSegment_block hq,
    h.writeSlot_eq, List.append_right_inj, List.append_left_inj]

/-- A page with the segments that were read is written as the page that was, but for what
is in the places of the blocks now. -/
theorem toHtml_of_opened {p q : Page} (h : q.segments = p.opened [] p.segments) :
    q.toHtml = p.segments.flatMap (p.rewritten q) := by
  rw [toHtml, h, flatMap_opened, List.nil_append]

end Found

end Page

end PageHighlight
