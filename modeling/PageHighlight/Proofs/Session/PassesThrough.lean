/-
  Proofs/Session/PassesThrough.lean --- what is not understood of a page is written as it
  was read.

  WHAT THIS FILE IS FOR.  Each segment of a page was read from a span of it, and the
  spans, one behind the other, are the page (`Page.forall₂_readFrom`).  Whatever happens
  in a session, the page has the same segments, and each of them writes a piece of its
  own; so the pieces stand where the spans stood, and those of HTML that was passed over
  are the same texts (`Session.passes_through`).
-/
import PageHighlight.Proofs.Page.Offsets
import PageHighlight.Proofs.Page.Readable
import PageHighlight.Proofs.Session.Completed

set_option autoImplicit false

namespace PageHighlight

/-! ## Spans -/

/-- The span of a page that a segment was read from: HTML is that span, the root element
a start tag and nothing else, and a block begins with the start tag of its `pre`. -/
inductive Segment.ReadFrom (p : Page) : Segment → Text → Prop where
  | html (t : Text) : ReadFrom p (.html t) t
  | root {attrs span : Text} (tag : Tag.here? "html" span = some (attrs, [])) :
      ReadFrom p .root span
  | block {i : Nat} {slot : Slot} {span : Text} (there : p.slots[i]? = some slot)
      (starts : slot.preTag <+: span) (ends : "</pre>".toList <:+ span) :
      ReadFrom p (.block i) span

/-- What a page writes of a segment. -/
inductive Segment.WrittenAs (p : Page) : Segment → Text → Prop where
  | html (t : Text) : WrittenAs p (.html t) t
  | root : WrittenAs p .root (Page.rootTag p.root)
  | block {i : Nat} {slot : Slot} (there : p.slots[i]? = some slot) :
      WrittenAs p (.block i) (Page.writeSlot slot)

namespace Part

/-- A part that is a whole tag, if it is the root element. -/
def IsWhole (part : Part) : Prop :=
  ∀ attrs, part = .root attrs → Tag.here? "html" part.text = some (attrs, [])

theorem isWhole_of_mem_readAll {t : Text} {part : Part} (h : part ∈ readAll t) :
    part.IsWhole := by
  rintro attrs rfl
  unfold readAll at h
  split at h
  · next before attrs' after hfind =>
    rcases List.mem_cons.1 h with he | h
    · cases he
    · rcases List.mem_cons.1 h with he | h
      · cases he
        exact Tag.here?_of_find? hfind
      · exact absurd h not_root_of_mem_readBlocks
  · exact absurd h not_root_of_mem_readBlocks

end Part

namespace Page

/-- What parts add to a page: a segment for each, read from the text of the part. -/
theorem addAll_readFrom (parts : List Part) (hparts : ∀ part ∈ parts, part.IsWhole) (q : Page) :
    let p := parts.foldl addPart q
    (∃ slots, p.slots = q.slots ++ slots) ∧
      ∃ segments, p.segments = q.segments ++ segments ∧
        List.Forall₂ (Segment.ReadFrom p) segments (parts.map Part.text) := by
  induction parts generalizing q with
  | nil => exact ⟨⟨[], (List.append_nil _).symm⟩, [], (List.append_nil _).symm, .nil⟩
  | cons part parts ih =>
    obtain ⟨⟨slots, hslots⟩, segments, hsegments, hread⟩ :=
      ih (fun x hx => hparts x (List.mem_cons_of_mem _ hx)) (q.addPart part)
    have hwhole := hparts part List.mem_cons_self
    cases part with
    | html t =>
      refine ⟨⟨slots, hslots⟩, .html t :: segments, hsegments.trans ?_, .cons (.html t) hread⟩
      exact List.append_assoc q.segments [.html t] segments
    | root attrs =>
      refine ⟨⟨slots, hslots⟩, .root :: segments, hsegments.trans ?_,
        .cons (.root (hwhole attrs rfl)) hread⟩
      exact List.append_assoc q.segments [.root] segments
    | block b =>
      refine ⟨⟨_, hslots.trans (List.append_assoc _ _ _)⟩, .block q.slots.length :: segments,
        hsegments.trans ?_, .cons ?_ hread⟩
      · exact List.append_assoc q.segments [.block q.slots.length] segments
      · have hadded : ∀ slot : Slot,
            (q.slots ++ [slot] ++ slots)[q.slots.length]? = some slot := by
          intro slot
          rw [List.append_assoc, List.getElem?_append_right (Nat.le_refl _), Nat.sub_self]
          rfl
        have hthere := (congrArg (·[q.slots.length]?) hslots).trans (hadded _)
        have hends : "</pre>".toList <:+ b.text := by
          rw [CodeBlock.text, CodeBlock.body, ← List.append_assoc]
          exact List.suffix_append _ _
        exact .block hthere (List.prefix_append _ _) hends

/-- The segments of a page that was read, and the spans that they were read from. -/
theorem forall₂_readFrom (html : Text) :
    ∃ spans : List Text, spans.flatten = html ∧
      List.Forall₂ (Segment.ReadFrom (ofHtml html)) (ofHtml html).segments spans := by
  obtain ⟨-, segments, hsegments, hread⟩ :=
    addAll_readFrom (Part.readAll html) (fun _ h => Part.isWhole_of_mem_readAll h) empty
  refine ⟨(Part.readAll html).map Part.text, ?_, ?_⟩
  · rw [← List.flatMap_def]
    exact Part.flatMap_text_readAll html
  · have hall : (ofHtml html).segments = segments := hsegments
    rw [hall]
    exact hread

/-- What a page writes, segment by segment. -/
theorem forall₂_writtenAs {p : Page}
    (h : ∀ i, .block i ∈ p.segments → i < p.slots.length) :
    List.Forall₂ (Segment.WrittenAs p) p.segments (p.segments.map p.writeSegment) := by
  rw [List.forall₂_map_right_iff, List.forall₂_same]
  intro segment hmem
  cases segment with
  | html t => exact .html t
  | root => exact .root
  | block i =>
    have hthere : p.slots[i]? = some _ := List.getElem?_eq_getElem (h i hmem)
    rw [writeSegment_block hthere]
    exact .block hthere

end Page

namespace Session

/-- All of a page that is not understood passes through.  Every segment of a page that
was read is read from a span of it, and the spans make up the page; reading it by
offsets cuts no piece out that is not there, and never stands still.  After every
history of a session with this page, each segment writes a piece, and the pieces make
up what is written: HTML is the span it was, and the root element and the blocks are
written as they are now. -/
theorem passes_through (html : Text) :
    let p := Page.ofHtml html
    ∃ spans : List Text, spans.flatten = html ∧
      List.Forall₂ (Segment.ReadFrom p) p.segments spans ∧
      (∃ offsets, Scan.page html = .ok (offsets, p) ∧ offsets.Pairwise (· < ·) ∧
        ∀ o ∈ offsets, o ≤ Text.byteLength html) ∧
      ∀ (s : Setting) (es : List Event),
        let q := ((start s p).after es).page
        ∃ pieces : List Text, q.toHtml = pieces.flatten ∧
          List.Forall₂ (Segment.WrittenAs q) p.segments pieces := by
  intro p
  obtain ⟨spans, hspans, hread⟩ := Page.forall₂_readFrom html
  obtain ⟨offsets, hscan, hoffsets⟩ := Scan.page_eq html
  refine ⟨spans, hspans, hread, ⟨offsets, hscan, hoffsets.ascending, ?_⟩, ?_⟩
  · exact fun o ho => (hoffsets.bounds o ho).2
  · intro s es q
    have hsegments : q.segments = p.segments := (start s p).segments_after es
    have hlength : p.slots.length = q.slots.length :=
      (evolves_after (Page.isFresh_ofHtml html) [] es).slots.length_eq
    refine ⟨q.segments.map q.writeSegment, List.flatMap_def, ?_⟩
    have hwritten : List.Forall₂ (Segment.WrittenAs q) q.segments
        (q.segments.map q.writeSegment) := by
      refine Page.forall₂_writtenAs fun i hi => ?_
      rw [hsegments] at hi
      obtain ⟨span, -, hspan⟩ := exists_of_mem_left_of_forall₂ hread hi
      cases hspan with
      | block there => exact hlength ▸ (List.getElem?_eq_some_iff.1 there).1
    rw [hsegments] at hwritten ⊢
    exact hwritten

end Session

end PageHighlight
