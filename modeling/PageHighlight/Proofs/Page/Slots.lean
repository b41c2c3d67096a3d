/-
  Proofs/Page/Slots.lean --- the block that readers find in what is written of a slot.

  WHAT THIS FILE IS FOR.  Readers look for a `pre` with a `code` in it.  A pristine block
  is written as one (`Slot.codeBlock`).  So is a rendered block, inside of a `div`: readers
  take it for a block whose source is the markup of its lines (`Fragment.codeBlock`), and
  what is around it, `Slot.opening` and `Slot.closing`, for HTML.  `Slot.Holds` says which
  block it is, `CodeBlock.MakesSlot` what becomes of it when it is read.
-/
import PageHighlight.Page.Html
import PageHighlight.Proofs.Markup.Shown
import PageHighlight.Proofs.Markup.Tags
import PageHighlight.Proofs.Page.Parts

set_option autoImplicit false

namespace PageHighlight

/-! ## Pristine blocks -/

/-- A slot whose block is pristine and can be written and read again. -/
structure Slot.IsPristine (s : Slot) : Prop where
  source : ∃ t, s.node.content = .source t
  classes : ∀ c ∈ s.node.classes, Text.IsWord c
  codeAttrs : Tag.AreOthers s.codeAttrs
  preTag : ∃ as : List Attribute, (∀ a ∈ as, Attribute.IsName a.1) ∧
    s.preTag = CodeBlock.preTag (Attribute.writeAll as)

namespace Slot

/-- The attributes of the `code` of a pristine block, as they are written. -/
def codeTag (s : Slot) : Text := Attribute.writeAll (Tag.withClasses s.node.classes s.codeAttrs)

/-- What readers find of a pristine block. -/
def codeBlock (s : Slot) : CodeBlock where
  preAttrs := (s.preTag.drop 4).dropLast
  gap := []
  codeAttrs := s.codeTag
  source :=
    match s.node.content with
    | .source t => Entity.escape t
    | .rendered _ => []
  endGap := []

variable {s : Slot}

theorem IsPristine.codeBlock_source (h : s.IsPristine) : '<' ∉ s.codeBlock.source := by
  obtain ⟨t, ht⟩ := h.source
  simp only [codeBlock, ht]
  exact fun hm => (Entity.mem_escape hm).1 rfl

/-- The attributes of its `pre` are the written ones. -/
theorem IsPristine.exists_preAttrs (h : s.IsPristine) :
    ∃ as : List Attribute, (∀ a ∈ as, Attribute.IsName a.1) ∧
      s.codeBlock.preAttrs = Attribute.writeAll as ∧
      s.preTag = CodeBlock.preTag (Attribute.writeAll as) := by
  obtain ⟨as, has, htag⟩ := h.preTag
  refine ⟨as, has, ?_, htag⟩
  simp only [codeBlock, htag]
  have hdrop : (CodeBlock.preTag (Attribute.writeAll as)).drop 4 = Attribute.writeAll as ++ ['>'] :=
    rfl
  rw [hdrop, List.dropLast_concat]

/-- A pristine block is written as readers find it. -/
theorem IsPristine.writeSlot_eq (h : s.IsPristine) : Page.writeSlot s = s.codeBlock.text := by
  obtain ⟨t, ht⟩ := h.source
  obtain ⟨as, -, hattrs, htag⟩ := h.exists_preAttrs
  have hwrite : Page.writeSlot s = Page.writeSource s t := by
    unfold Page.writeSlot
    rw [ht]
  have hsource : s.codeBlock.source = Entity.escape t := by
    simp only [codeBlock, ht]
  rw [hwrite, Page.writeSource, CodeBlock.text, CodeBlock.body, hattrs, hsource, htag]
  simp [Markup.startTag, codeBlock, codeTag]

/-- Readers find it, since its source is escaped. -/
theorem IsPristine.isFound (h : s.IsPristine) : s.codeBlock.IsFound where
  preAttrs := by
    obtain ⟨as, has, hattrs, -⟩ := h.exists_preAttrs
    exact hattrs ▸ Tag.isWhole_writeAll has
  codeAttrs := Tag.isWhole_writeAll (Tag.isName_of_mem_withClasses h.codeAttrs)
  gap := rfl
  endGap := rfl
  noEnd hi := h.codeBlock_source (hi.subset List.mem_cons_self)
  noRoot hi := h.codeBlock_source (hi.subset List.mem_cons_self)

end Slot

/-! ## Rendered blocks -/

namespace Fragment

open Markup

/-- The block that readers find in a written fragment: its source is the markup of the
lines. -/
def codeBlock (f : Fragment) : CodeBlock where
  preAttrs := Attribute.writeAll f.preAttrs
  gap := []
  codeAttrs := []
  source := writeAll (linesMarkup f.lines)
  endGap := []

theorem toHtml_eq_text (f : Fragment) : f.toHtml = f.codeBlock.text := by
  simp [toHtml, markup, write, writeAll, startTag, endTag, codeBlock, CodeBlock.text,
    CodeBlock.body, CodeBlock.preTag, preAttrs]

theorem isName_preAttrs (f : Fragment) : ∀ a ∈ f.preAttrs, Attribute.IsName a.1 := by
  simp only [preAttrs, List.forall_mem_cons]
  exact ⟨by decide, by decide, by decide, by decide, List.forall_mem_nil _⟩

theorem isFound_codeBlock (f : Fragment) : f.codeBlock.IsFound where
  preAttrs := Tag.isWhole_writeAll f.isName_preAttrs
  codeAttrs := Tag.isWhole_writeAll (List.forall_mem_nil _)
  gap := rfl
  endGap := rfl
  noEnd := (tagsBegin_lines f.lines).not_infix_self (by decide)
  noRoot := (tagsBegin_lines f.lines).not_infix_self (by decide)

/-- The lines of a fragment are written as markup, if there are any. -/
theorem mem_codeBlock_source {f : Fragment} (h : f.lines ≠ []) : '<' ∈ f.codeBlock.source := by
  obtain ⟨l, ls, hls⟩ := List.exists_cons_of_ne_nil h
  have hline : ∀ ms : List Markup, '<' ∈ writeAll (lineMarkup l :: ms) := by
    intro ms
    simp [writeAll, lineMarkup, write, startTag]
  rw [codeBlock, hls]
  cases ls with
  | nil => exact hline _
  | cons m ls => exact hline _

end Fragment

/-! ## What readers find in a slot -/

namespace Slot

/-- What is written of a slot before the block that readers find in it. -/
def opening (s : Slot) : Text :=
  match s.node.content with
  | .source _ => []
  | .rendered r =>
    Markup.startTag "div" [("class", Page.renderedClass), ("data-theme", r.theme)]

/-- What is written of it behind this block. -/
def closing (s : Slot) : Text :=
  match s.node.content with
  | .source _ => []
  | .rendered r => (Page.copyButton r.copy).write ++ Markup.endTag "div"

/-- The block that readers find in a slot. -/
inductive Holds (s : Slot) : CodeBlock → Prop where
  | pristine (h : s.IsPristine) : Holds s s.codeBlock
  | rendered {r : RenderedBlock} {f : Fragment} (content : s.node.content = .rendered r)
      (markup : r.markup = f.toHtml) : Holds s f.codeBlock

variable {s : Slot} {b : CodeBlock}

theorem Holds.isFound (h : s.Holds b) : b.IsFound := by
  cases h with
  | pristine h => exact h.isFound
  | rendered content markup => exact Fragment.isFound_codeBlock _

theorem Holds.writeSlot_eq (h : s.Holds b) :
    Page.writeSlot s = s.opening ++ (b.text ++ s.closing) := by
  cases h with
  | pristine h =>
    obtain ⟨t, ht⟩ := h.source
    rw [h.writeSlot_eq, opening, closing, ht]
    simp
  | rendered content markup =>
    simp only [Page.writeSlot, Page.writeRendered, opening, closing, content, markup,
      Fragment.toHtml_eq_text, List.append_assoc]

/-- In a slot whose block is not rendered, it is this block. -/
theorem Holds.of_not_isRendered (h : s.Holds b) (hs : s.node.isRendered = false) :
    s.IsPristine ∧ b = s.codeBlock := by
  cases h with
  | pristine h => exact ⟨h, rfl⟩
  | rendered content markup => simp [Node.isRendered, Node.rendered?, content] at hs

/-- What opens a rendered block ends no run of HTML. -/
theorem isPassedOver_append_opening (s : Slot) {t : Text} (h : t.IsPassedOver) :
    (t ++ s.opening).IsPassedOver := by
  unfold opening
  split
  · rwa [List.append_nil]
  · next r _ =>
    have hbegin : (Markup.startTag "div" [("class", Page.renderedClass),
        ("data-theme", r.theme)]).TagsBegin ["div".toList] := by
      refine Markup.tagsBegin_startTag (List.mem_singleton_self _) (by decide) ?_
      simp only [List.forall_mem_cons]
      exact ⟨by decide, by decide, List.forall_mem_nil _⟩
    exact ⟨Text.not_infix_append_tag (by decide) h.1 (hbegin.not_infix_self (by decide)),
      Text.not_infix_append_tag (by decide) h.2 (hbegin.not_infix_self (by decide))⟩

/-- What closes a rendered block begins none. -/
theorem isPassedOver_closing_append (s : Slot) {t : Text} (h : t.IsPassedOver) :
    (s.closing ++ t).IsPassedOver := by
  unfold closing
  split
  · exact h
  · next r _ =>
    have hbutton : (Page.copyButton r.copy).write.TagsBegin ["button", "/button", "/div"] := by
      refine Markup.tagsBegin_element (by decide) (by decide) (by decide) ?_ ?_
      · simp only [List.forall_mem_cons]
        exact ⟨by decide, by decide, by decide, by decide, List.forall_mem_nil _⟩
      · rw [Markup.writeAll, Markup.writeAll, List.append_nil]
        exact Markup.tagsBegin_text _ _
    have hend : (Markup.endTag "div").TagsBegin ["button", "/button", "/div"] :=
      Markup.tagsBegin_endTag (by decide) (by decide)
    have hbegin := hbutton.append hend
    exact ⟨hbegin.not_infix_append (by decide) h.1, hbegin.not_infix_append (by decide) h.2⟩

end Slot

/-! ## What readers make of a block -/

/-- The slot that readers make of a block. -/
structure CodeBlock.MakesSlot (b : CodeBlock) (s : Slot) : Prop where
  classes : s.node.classes = Tag.classesOf (Tag.attributes b.codeAttrs)
  content : s.node.content = .source (Entity.decode b.source)
  preTag : s.preTag = CodeBlock.preTag b.preAttrs
  codeAttrs : s.codeAttrs = Tag.othersOf (Tag.attributes b.codeAttrs)

theorem CodeBlock.makesSlot_pushed (b : CodeBlock) (id : NodeId) :
    b.MakesSlot
      ⟨⟨id, Tag.classesOf (Tag.attributes b.codeAttrs), .source (Entity.decode b.source)⟩, none,
        CodeBlock.preTag b.preAttrs, Tag.othersOf (Tag.attributes b.codeAttrs)⟩ :=
  ⟨rfl, rfl, rfl, rfl⟩

end PageHighlight
