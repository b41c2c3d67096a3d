/-
  Proofs/Page/RoundTrip.lean --- reading a page that was written gives it back.

  WHAT THIS FILE IS FOR.  A page whose blocks are all pristine is written as HTML and
  read again.  Texts and values may hold anything; what is passed through must not
  hold the beginning of a tag that readers understand, and names and classes must be
  such as tags can hold (`Page.IsPristine`).  Then the page that is read has the same
  root element and the same blocks, and is written as the same HTML
  (`ofHtml_toHtml`).

  HOW.  Nothing is written around a pristine block, so what readers make of the page is
  known as for other pages (`Page.IsReadable.ofHtml_toHtml_opened`), and the block in a
  slot is the one that was there (`Slot.IsPristine.sameBlock`).
-/
import PageHighlight.Proofs.Page.Readable

set_option autoImplicit false

namespace PageHighlight

/-! ## Pages that can be written and read again -/

/-- A page that can be written and read again: its root element, if it has one, comes
before its blocks, and its blocks come in order. -/
structure Page.IsPristine (p : Page) : Prop where
  slots : ∀ s ∈ p.slots, s.IsPristine
  inOrder : p.segments.filterMap Segment.block? = List.range p.slots.length
  rootFirst : p.segments.Pairwise fun a b => b = .root → a.isHtml = true
  passedOver : ∀ t, .html t ∈ Segment.merged p.segments → t.IsPassedOver
  rootClasses : ∀ c ∈ p.root.classes, Text.IsWord c
  rootAttrs : Tag.AreOthers p.root.attrs

/-- Two slots whose blocks read and write the same. -/
structure Slot.SameBlock (s s' : Slot) : Prop where
  classes : s'.node.classes = s.node.classes
  content : s'.node.content = s.node.content
  codeAttrs : s'.codeAttrs = s.codeAttrs
  preTag : s'.preTag = s.preTag

/-- What is read of a pristine block is the block that was written. -/
theorem Slot.IsPristine.sameBlock {s s' : Slot} (h : s.IsPristine)
    (hs' : s.codeBlock.MakesSlot s') : s.SameBlock s' := by
  obtain ⟨t, ht⟩ := h.source
  obtain ⟨as, -, hattrs, htag⟩ := h.exists_preAttrs
  have hread : Tag.attributes s.codeBlock.codeAttrs =
      Tag.withClasses s.node.classes s.codeAttrs :=
    Tag.attributes_writeAll fun a ha => (Tag.isName_of_mem_withClasses h.codeAttrs a ha).isRead
  have hsource : s.codeBlock.source = Entity.escape t := by
    simp only [Slot.codeBlock, ht]
  refine ⟨?_, ?_, ?_, ?_⟩
  · rw [hs'.classes, hread]
    exact Tag.classesOf_withClasses h.classes h.codeAttrs.ne
  · rw [hs'.content, hsource, Entity.decode_escape, ht]
  · rw [hs'.codeAttrs, hread]
    exact Tag.othersOf_withClasses h.codeAttrs.ne _
  · rw [hs'.preTag, hattrs, htag]

theorem Slot.SameBlock.isPristine {s s' : Slot} (h : s.SameBlock s') (hs : s.IsPristine) :
    s'.IsPristine where
  source := h.content ▸ hs.source
  classes := h.classes ▸ hs.classes
  codeAttrs := h.codeAttrs ▸ hs.codeAttrs
  preTag := h.preTag ▸ hs.preTag

namespace Page

theorem IsPristine.isReadable {p : Page} (h : p.IsPristine) : p.IsReadable where
  slots s hs _ := h.slots s hs
  inOrder := h.inOrder
  rootFirst := h.rootFirst
  passedOver := h.passedOver
  rootAttrs := h.rootAttrs

theorem IsPristine.holds {p : Page} (h : p.IsPristine) :
    List.Forall₂ Slot.Holds p.slots (p.slots.map Slot.codeBlock) :=
  List.forall₂_map_right_iff.2 (List.forall₂_same.2 fun s hs => .pristine (h.slots s hs))

/-- Nothing is written around its blocks. -/
theorem IsPristine.around {p : Page} (h : p.IsPristine) (i : Nat) :
    p.openingOf i = [] ∧ p.closingOf i = [] := by
  cases hs : p.slots[i]? with
  | none => simp [openingOf, closingOf, hs]
  | some s =>
    obtain ⟨t, ht⟩ := (h.slots s (List.mem_of_getElem? hs)).source
    simp [openingOf_eq hs, closingOf_eq hs, Slot.opening, Slot.closing, ht]

/-! ## Writing again -/

theorem writeSlot_congr {s s' : Slot} (h : s.SameBlock s') (hs : s.IsPristine) :
    writeSlot s' = writeSlot s := by
  obtain ⟨t, ht⟩ := hs.source
  have ht' : s'.node.content = .source t := h.content.trans ht
  simp only [writeSlot, ht, ht', writeSource, h.classes, h.codeAttrs, h.preTag]

/-- Segments of pages with the same root element and the same blocks are written the
same. -/
theorem writeSegment_congr {p q : Page} (h : p.IsPristine) {seg : Segment}
    (hroot : seg = .root → q.root = p.root)
    (hslots : List.Forall₂ Slot.SameBlock p.slots q.slots) :
    q.writeSegment seg = p.writeSegment seg := by
  cases seg with
  | html t => rfl
  | root => simp only [writeSegment, hroot rfl]
  | block i =>
    simp only [writeSegment]
    have hlen := hslots.length_eq
    rcases Nat.lt_or_ge i p.slots.length with hlt | hge
    · have hlt' : i < q.slots.length := hlen ▸ hlt
      rw [List.getElem?_eq_getElem hlt, List.getElem?_eq_getElem hlt']
      exact writeSlot_congr (hslots.get hlt hlt') (h.slots _ (List.getElem_mem hlt))
    · have hge' : q.slots.length ≤ i := hlen ▸ hge
      rw [List.getElem?_eq_none hge, List.getElem?_eq_none hge']

/-- A pristine page that is written and read again has the same root element, if it
has one, the same blocks in order, and is written the same. -/
theorem IsPristine.ofHtml_toHtml {p : Page} (h : p.IsPristine) :
    (ofHtml p.toHtml).root = (if .root ∈ p.segments then p.root else ⟨[], []⟩) ∧
      List.Forall₂ Slot.SameBlock p.slots (ofHtml p.toHtml).slots ∧
      (ofHtml p.toHtml).toHtml = p.toHtml := by
  obtain ⟨hsegments, hmade, hroot⟩ := h.isReadable.ofHtml_toHtml_opened h.holds
  have hslots : List.Forall₂ Slot.SameBlock p.slots (ofHtml p.toHtml).slots :=
    ((List.forall₂_and_left _ _).2 ⟨h.slots, List.forall₂_map_left_iff.1 hmade⟩).imp
      fun s s' ⟨hs, hs'⟩ => hs.sameBlock hs'
  have hrootRead : p.rootRead = p.root := by
    rw [rootRead, Tag.classesOf_withClasses h.rootClasses h.rootAttrs.ne]
  rw [hrootRead] at hroot
  refine ⟨hroot, hslots, ?_⟩
  have hwrite : ∀ seg ∈ p.segments, p.rewritten (ofHtml p.toHtml) seg = p.writeSegment seg := by
    intro seg hseg
    have hsame : (ofHtml p.toHtml).writeSegment seg = p.writeSegment seg :=
      writeSegment_congr h (fun he => by rw [hroot, if_pos (he ▸ hseg)]) hslots
    cases seg with
    | block i =>
      rw [rewritten, (h.around i).1, (h.around i).2, List.nil_append, List.append_nil, hsame]
    | _ => exact hsame
  rw [toHtml_of_opened hsegments]
  exact List.flatMap_congr hwrite

/-- A page whose texts and values look like tags and references. -/
def lookalikes : Page where
  root :=
    ⟨["navy".toList, "a<b".toList],
      [("data-theme".toList, "it's \x22>\x22 &amp; <html>".toList)]⟩
  prefersDark := false
  segments :=
    [.html "<!DOCTYPE html><".toList, .root, .html "<p".toList, .html "r>".toList, .block 0,
      .block 1, .html "</html".toList]
  slots :=
    [⟨⟨1, ["language-html".toList, "x&lt;".toList], .source "</code></pre><pre>&amp;&#39".toList⟩,
        none, "<pre>".toList, [("title".toList, "a=\x22'".toList)]⟩,
      ⟨⟨2, [], .source []⟩, none, "<pre id=\x22p&gt;\x22>".toList, []⟩]
  allocated := 2

theorem isPristine_lookalikes : lookalikes.IsPristine where
  slots := by
    intro s hs
    rcases List.mem_cons.1 hs with rfl | hs
    · exact ⟨⟨_, rfl⟩, by decide +kernel, by decide +kernel, [], by decide +kernel, rfl⟩
    · rw [List.mem_singleton.1 hs]
      exact ⟨⟨_, rfl⟩, by decide +kernel, by decide +kernel, [("id".toList, "p>".toList)],
        by decide +kernel, rfl⟩
  inOrder := by decide +kernel
  rootFirst := by decide +kernel
  passedOver := by
    intro t ht
    have hruns : t ∈ ["<!DOCTYPE html><".toList, "<pr>".toList, [], "</html".toList] := by
      simpa [lookalikes, Segment.merged, Segment.mergedFrom] using ht
    have hall : ∀ u ∈ ["<!DOCTYPE html><".toList, "<pr>".toList, [], "</html".toList],
        Text.IsPassedOver u := by decide +kernel
    exact hall t hruns
  rootClasses := by decide +kernel
  rootAttrs := by decide +kernel

/-- A page whose texts and values look like tags and references is read as it was. -/
theorem ofHtml_toHtml_lookalikes :
    lookalikes.IsPristine ∧
      (ofHtml lookalikes.toHtml).root = lookalikes.root ∧
      List.Forall₂ Slot.SameBlock lookalikes.slots (ofHtml lookalikes.toHtml).slots ∧
      (ofHtml lookalikes.toHtml).toHtml = lookalikes.toHtml :=
  ⟨isPristine_lookalikes, isPristine_lookalikes.ofHtml_toHtml⟩

end Page

end PageHighlight
