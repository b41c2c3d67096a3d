/-
  Proofs/Session/Reread.lean --- another cycle on a page that was rendered, written and
  read again.

  WHAT THIS FILE IS FOR.  Once a page is written, nothing tells a rendered block from a
  pristine one: readers find a `pre` with a `code` in it, without classes, and take the
  markup of the lines for the source.  It is a candidate, whatever the configuration.  If
  it is rendered, a `div` is put into the `div` that is there; if it is not, its markup is
  written as text.  Either way it is not what it was, unless it has no lines
  (`Session.CompletedCycle.reread`); and engines that are built in make no fragment
  without lines.  Blocks that the first cycle left pristine are left as they are by
  another one with the same theme.
-/
import PageHighlight.Proofs.Highlight.LevelClasses
import PageHighlight.Proofs.Page.RoundTrip
import PageHighlight.Proofs.Session.Completed

set_option autoImplicit false

namespace PageHighlight

/-! ## Lines of what is shown -/

/-- A rendered block shows this fragment; if the engine is built in, it has lines. -/
structure Setting.Shows (s : Setting) (r : RenderedBlock) (f : Fragment) : Prop where
  markup : r.markup = f.toHtml
  lines : ∀ engine offers takes, s.loader.handle s.config = some engine →
    Engine.IsBuiltIn offers takes engine → f.lines ≠ []

theorem Setting.Renders.exists_shows {s : Setting} {o : SourceBlock} {r : RenderedBlock}
    (h : s.Renders o r) : ∃ f, s.Shows r f := by
  obtain ⟨engine, r', hengine, hrender, hr⟩ := h
  obtain ⟨f, hf, rfl⟩ := render?_eq_ok_iff.1 hrender
  refine ⟨_, by rw [hr], ?_⟩
  intro engine' offers takes hengine' hbuiltIn
  cases hengine.symm.trans hengine'
  have hlength := (hbuiltIn.isBare hf).length_lines
  rw [← List.length_pos_iff, Fragment.length_lines_withLevels, MarkerPass.length_lines_applyAll,
    hlength]
  exact List.length_pos_iff.2 (Text.splitOn_ne_nil _ _)

/-! ## One block -/

namespace Slot

variable {s : Setting} {theme : Text} {bound : Nat} {slot before read after : Slot}

/-- What a cycle makes of a block depends on what the block reads as. -/
theorem SameBlock.fate (h : slot.SameBlock read) (s : Setting) (theme : Text) :
    s.config.isCandidate read.node = s.config.isCandidate slot.node ∧
      s.fate theme read.node = s.fate theme slot.node := by
  have hnode : read.node = ⟨read.node.id, slot.node.classes, slot.node.content⟩ := by
    rw [← h.classes, ← h.content]
  rw [hnode]
  exact ⟨rfl, rfl⟩

/-- A block that a cycle left pristine, and that is read as it was, is written as it was
after another cycle with the same theme. -/
theorem SameBlock.writeSlot_cycled (h : slot.SameBlock read) (hpristine : slot.IsPristine)
    (hslot : slot.node.isRendered = false) (hbefore : Slot.Cycled s theme bound before slot)
    {bound' : Nat} (hafter : Slot.Cycled s theme bound' read after) :
    Page.writeSlot after = Page.writeSlot slot := by
  obtain ⟨hcandidate, hfate⟩ := h.fate s theme
  have hnode : after.node = read.node := by
    refine hafter.node.eq_self ?_
    rw [hcandidate, hfate]
    exact (hbefore.node.settled hslot).2
  refine Page.writeSlot_congr ⟨?_, ?_, ?_, ?_⟩ hpristine
  · rw [hnode, h.classes]
  · rw [hnode, h.content]
  · rw [hafter.codeAttrs, h.codeAttrs]
  · rw [hafter.preTag, h.preTag]

end Slot

namespace Fragment

variable {s : Setting} {theme : Text} {bound : Nat} {f : Fragment} {read after : Slot}

/-- What readers make of the markup of a fragment: a block without classes that has
markup for its source. -/
theorem node_of_makesSlot (h : f.codeBlock.MakesSlot read) :
    read.node.classes = [] ∧ read.codeAttrs = [] ∧
      read.node.content = .source (Entity.decode (Markup.writeAll (linesMarkup f.lines))) := by
  have hread : Tag.attributes f.codeBlock.codeAttrs = [] :=
    Tag.attributes_writeAll (List.forall_mem_nil _)
  refine ⟨?_, ?_, h.content⟩
  · rw [h.classes, hread]
    rfl
  · rw [h.codeAttrs, hread]
    rfl

/-- It is a candidate. -/
theorem isCandidate_of_makesSlot (h : f.codeBlock.MakesSlot read) (c : Config) :
    c.isCandidate read.node = true := by
  obtain ⟨hclasses, -, hcontent⟩ := node_of_makesSlot h
  simp [Config.isCandidate, Node.isRendered, Node.rendered?, Node.hasClass, hclasses, hcontent]

/-- What a cycle leaves of it is written as it was only if there are no lines and it is not
rendered. -/
theorem writeSlot_cycled_iff (h : f.codeBlock.MakesSlot read)
    (hafter : Slot.Cycled s theme bound read after) :
    Page.writeSlot after = f.codeBlock.text ↔
      f.lines = [] ∧ ∀ r, s.fate theme read.node ≠ .rendered r := by
  obtain ⟨hclasses, hattrs, hcontent⟩ := node_of_makesSlot h
  have htext : f.codeBlock.text = read.preTag ++ ("<code>".toList ++
      (f.codeBlock.source ++ "</code></pre>".toList)) := by
    rw [h.preTag]
    simp [CodeBlock.text, CodeBlock.body, codeBlock]
  by_cases hfate : ∀ r, s.fate theme read.node ≠ .rendered r
  · have hnode : after.node = read.node := hafter.node.eq_self fun _ => hfate
    have hwrite : Page.writeSlot after = read.preTag ++ ("<code>".toList ++
        (Entity.escape (Entity.decode f.codeBlock.source) ++ "</code></pre>".toList)) := by
      simp [Page.writeSlot, Page.writeSource, hnode, hcontent, hclasses, hafter.preTag,
        hafter.codeAttrs, hattrs, Tag.withClasses, Markup.startTag, codeBlock]
    rw [hwrite, htext, List.append_right_inj, List.append_right_inj, List.append_left_inj,
      and_iff_left hfate]
    constructor
    · intro he
      by_contra hlines
      exact (Entity.mem_escape (he ▸ mem_codeBlock_source hlines)).1 rfl
    · intro hlines
      rw [codeBlock, hlines]
      rfl
  · refine iff_of_false (fun he => ?_) fun hlines => hfate hlines.2
    push Not at hfate
    obtain ⟨r, hr⟩ := hfate
    have hrendered := hafter.node.content_eq (isCandidate_of_makesSlot h s.config) hr
    -- one begins with a `div` and the other with a `pre`
    have hsecond := congrArg (fun t : Text => t[1]?) he
    simp [Page.writeSlot, Page.writeRendered, hrendered, Markup.startTag, CodeBlock.text,
      CodeBlock.preTag] at hsecond

end Fragment

/-! ## A page with its blocks -/

namespace Session

namespace CompletedCycle

variable {s : Setting} {S S' : Session} {task task' : Nat} {mid rest mid' rest' : List Event}
  {report report' : Report}

/-- Rendered blocks of a session show fragments. -/
theorem exists_shows (h : CompletedCycle s S task mid rest report) (es : List Event) :
    ∀ slot ∈ (S.after es).page.slots, ∀ r, slot.node.content = .rendered r →
      ∃ f, s.Shows r f := by
  obtain ⟨p, past, hfresh, rfl⟩ := h.reachable
  rw [← after_append]
  intro slot hslot r hr
  have hfaithful : Page.Faithful s p ((start s p).after (past ++ es)).page :=
    (faithful_after hfresh _).page
  obtain ⟨first, -, hslot⟩ := exists_of_mem_right_of_forall₂ hfaithful hslot
  obtain ⟨o, -, hrenders⟩ := hslot.rendered r hr
  exact hrenders.exists_shows

/-- A page that can be written and read again can be after a cycle, whatever was rendered,
if its root element can be. -/
theorem isReadable_after (h : CompletedCycle s S task mid rest report) (hS : S.page.IsReadable) :
    let P := (S.after (.proceed task 0 :: mid ++ .proceed task 0 :: rest)).page
    Tag.AreOthers P.root.attrs → P.IsReadable := by
  intro P hroot
  have hsegments : P.segments = S.page.segments := h.segments _
  refine ⟨fun slot' hslot' hpristine => ?_, ?_, ?_, ?_, hroot⟩
  · obtain ⟨slot, hslot, hcycled⟩ := exists_of_mem_right_of_forall₂ h.slots hslot'
    have hnode := (hcycled.node.settled hpristine).1
    have hsame : slot.SameBlock slot' :=
      ⟨by rw [hnode], by rw [hnode], hcycled.codeAttrs, hcycled.preTag⟩
    exact hsame.isPristine (hS.slots slot hslot (hnode ▸ hpristine))
  · rw [hsegments, hS.inOrder, h.slots.length_eq]
  · rw [hsegments]
    exact hS.rootFirst
  · rw [hsegments]
    exact hS.passedOver

/-- The blocks that readers find in a page that a session left. -/
theorem exists_found (h : CompletedCycle s S task mid rest report) (es : List Event)
    (hP : (S.after es).page.IsReadable) :
    ∃ bs, List.Forall₂ (fun slot b => slot.Holds b ∧ ∀ r, slot.node.content = .rendered r →
      ∃ f, b = Fragment.codeBlock f ∧ s.Shows r f) (S.after es).page.slots bs := by
  have hshows := h.exists_shows es
  have hpristine := hP.slots
  generalize (S.after es).page.slots = slots at hshows hpristine
  induction slots with
  | nil => exact ⟨[], .nil⟩
  | cons slot slots ih =>
    obtain ⟨bs, hbs⟩ := ih (fun t ht => hshows t (List.mem_cons_of_mem _ ht))
      fun t ht => hpristine t (List.mem_cons_of_mem _ ht)
    cases hcontent : slot.node.content with
    | source t =>
      have hslot := hpristine slot List.mem_cons_self (by
        simp [Node.isRendered, Node.rendered?, hcontent])
      refine ⟨slot.codeBlock :: bs, .cons ⟨.pristine hslot, fun r hr => ?_⟩ hbs⟩
      cases hcontent.symm.trans hr
    | rendered r =>
      obtain ⟨f, hf⟩ := hshows slot List.mem_cons_self r hcontent
      refine ⟨f.codeBlock :: bs, .cons ⟨.rendered hcontent hf.markup, fun r' hr' => ?_⟩ hbs⟩
      cases hcontent.symm.trans hr'
      exact ⟨f, rfl, hf⟩

/-- The stations of a slot: before the first cycle, what readers find in it after this
cycle, what they make of it, and what the other cycle makes of that. -/
theorem exists_stations (h : CompletedCycle s S task mid rest report)
    (h' : CompletedCycle s S' task' mid' rest' report') :
    let P := (S.after (.proceed task 0 :: mid ++ .proceed task 0 :: rest)).page
    let Q := (S'.after (.proceed task' 0 :: mid' ++ .proceed task' 0 :: rest')).page
    let theme := s.config.resolveTheme (S.after (.proceed task 0 :: mid)).page
    let theme' := s.config.resolveTheme (S'.after (.proceed task' 0 :: mid')).page
    P.IsReadable → S'.page = { Page.ofHtml P.toHtml with prefersDark := P.prefersDark } →
      Q.segments = P.opened [] P.segments ∧
      ∀ (i : Nat) (slot : Slot), P.slots[i]? = some slot → ∃ (before : Slot) (b : CodeBlock)
          (read after : Slot),
        before.Cycled s theme S.page.allocated slot ∧
        slot.Holds b ∧
        (∀ r, slot.node.content = .rendered r → ∃ f, b = Fragment.codeBlock f ∧ s.Shows r f) ∧
        S'.page.slots[i]? = some read ∧ b.MakesSlot read ∧
        Q.slots[i]? = some after ∧ read.Cycled s theme' S'.page.allocated after := by
  intro P Q theme theme' hP hread
  obtain ⟨bs, hbs⟩ := h.exists_found _ hP
  obtain ⟨hsegments, hmade, -⟩ := hP.ofHtml_toHtml_opened (hbs.imp fun _ _ hb => hb.1)
  have hslots : S'.page.slots = (Page.ofHtml P.toHtml).slots := by rw [hread]
  rw [← hslots] at hmade
  refine ⟨?_, fun i slot hslot => ?_⟩
  · rw [h'.segments, hread]
    exact hsegments
  · obtain ⟨hi, rfl⟩ := List.getElem?_eq_some_iff.1 hslot
    have hib : i < bs.length := hbs.length_eq ▸ hi
    have hir : i < S'.page.slots.length := hmade.length_eq ▸ hib
    have hia : i < Q.slots.length := h'.slots.length_eq ▸ hir
    have hibefore : i < S.page.slots.length := h.slots.length_eq ▸ hi
    obtain ⟨hholds, hshows⟩ := hbs.get hi hib
    exact ⟨_, _, _, _, h.slots.get hibefore hi, hholds, hshows, List.getElem?_eq_getElem hir,
      hmade.get hib hir, List.getElem?_eq_getElem hia, h'.slots.get hir hia⟩

/-- Rendering takes apart what it has rendered, once the page is written and read again.
Take a page that a completed cycle left, and another completed cycle on what is read of
it, with the same setting and the same preference of the reader.  What is between the
blocks stays as it was written, and what was around a rendered block stays around what is
in its place.  A block that the first cycle left pristine is written as it was if the
theme is the same.  A rendered block, however, is read as a pristine one whose source is
the markup of its lines; it is a candidate and rendered again if it can be, and it is
written as it was if and only if it has no lines and is not rendered again.  If the engine
is built in, it is never written as it was. -/
theorem reread (h : CompletedCycle s S task mid rest report)
    (h' : CompletedCycle s S' task' mid' rest' report') :
    let P := (S.after (.proceed task 0 :: mid ++ .proceed task 0 :: rest)).page
    let Q := (S'.after (.proceed task' 0 :: mid' ++ .proceed task' 0 :: rest')).page
    let theme := s.config.resolveTheme (S.after (.proceed task 0 :: mid)).page
    let theme' := s.config.resolveTheme (S'.after (.proceed task' 0 :: mid')).page
    P.IsReadable → S'.page = { Page.ofHtml P.toHtml with prefersDark := P.prefersDark } →
      Q.toHtml = P.segments.flatMap (P.rewritten Q) ∧
      ∀ i slot, P.slots[i]? = some slot → ∃ read after,
        S'.page.slots[i]? = some read ∧ Q.slots[i]? = some after ∧
        (slot.node.isRendered = false → slot.SameBlock read ∧
          (theme' = theme → P.rewritten Q (.block i) = P.writeSegment (.block i))) ∧
        ∀ r, slot.node.content = .rendered r → ∃ f : Fragment, r.markup = f.toHtml ∧
          read.node.classes = [] ∧
          read.node.content =
            .source (Entity.decode (Markup.writeAll (Fragment.linesMarkup f.lines))) ∧
          s.config.isCandidate read.node = true ∧
          (∀ r', s.fate theme' read.node = .rendered r' → after.node.content = .rendered r') ∧
          (P.rewritten Q (.block i) = P.writeSegment (.block i) ↔
            f.lines = [] ∧ ∀ r', s.fate theme' read.node ≠ .rendered r') ∧
          ∀ engine offers takes, s.loader.handle s.config = some engine →
            Engine.IsBuiltIn offers takes engine →
            P.rewritten Q (.block i) ≠ P.writeSegment (.block i) := by
  intro P Q theme theme' hP hread
  obtain ⟨hsegments, hstations⟩ := h.exists_stations h' hP hread
  refine ⟨Page.toHtml_of_opened hsegments, fun i slot hslot => ?_⟩
  obtain ⟨before, b, read, after, hbefore, hholds, hshows, hri, hmakes, hai, hafter⟩ :=
    hstations i slot hslot
  have hiff := Page.rewritten_block_eq_iff hslot hai hholds
  refine ⟨read, after, hri, hai, ?_, ?_⟩
  · intro hnot
    obtain ⟨hpristine, rfl⟩ := hholds.of_not_isRendered hnot
    have hsame := hpristine.sameBlock hmakes
    refine ⟨hsame, fun htheme => ?_⟩
    have hafter : read.Cycled s theme S'.page.allocated after := htheme ▸ hafter
    rw [hiff, ← hpristine.writeSlot_eq]
    exact hsame.writeSlot_cycled hpristine hnot hbefore hafter
  · intro r hr
    obtain ⟨f, rfl, hshown⟩ := hshows r hr
    have hiff := hiff.trans (Fragment.writeSlot_cycled_iff hmakes hafter)
    obtain ⟨hclasses, -, hcontent⟩ := Fragment.node_of_makesSlot hmakes
    have hcandidate := Fragment.isCandidate_of_makesSlot hmakes s.config
    refine ⟨f, hshown.markup, hclasses, hcontent, hcandidate,
      fun r' hr' => hafter.node.content_eq hcandidate hr', hiff,
      fun engine offers takes hengine hbuiltIn he => ?_⟩
    exact hshown.lines engine offers takes hengine hbuiltIn (hiff.1 he).1

end CompletedCycle

end Session

/-! ## A block that is rendered twice -/

/-- The fragment of the block of Rust code. -/
def Fragment.oneBlock : Fragment := .plain .gruvboxLight "rust" "let x = 1;"

/-- The page with one block after it was rendered. -/
def Page.oneBlockRendered : Page :=
  { oneBlock with
    slots :=
      [⟨⟨2, [renderedClass],
          .rendered ⟨Fragment.oneBlock.toHtml, "let x = 1;", [], "gruvbox-light",
            ⟨"let x = 1;", .idle⟩⟩⟩,
        some ⟨"let x = 1;", ["language-rust"], "rust"⟩, "<pre>", []⟩]
    allocated := 2 }

/-- What is read of it after it was written. -/
def Page.oneBlockRead : Page where
  root := ⟨[], []⟩
  prefersDark := false
  segments :=
    [.html (Markup.startTag "div" [("class", renderedClass), ("data-theme", "gruvbox-light")]),
      .block 0, .html ((copyButton ⟨"let x = 1;", .idle⟩).write ++ Markup.endTag "div")]
  slots :=
    [⟨⟨1, [], .source "<span class=\x22line\x22>let x = 1;</span>"⟩, none,
      CodeBlock.preTag (Attribute.writeAll Fragment.oneBlock.preAttrs), []⟩]
  allocated := 1

theorem Page.isReadable_oneBlock : oneBlock.IsReadable where
  slots := by
    intro slot hslot _
    rw [List.mem_singleton.1 hslot]
    exact ⟨⟨_, rfl⟩, by decide +kernel, by decide +kernel, [], by decide +kernel, rfl⟩
  inOrder := by decide +kernel
  rootFirst := by decide +kernel
  passedOver := by
    intro t ht
    have hempty : t = [] := by
      simpa [oneBlock, addBlock, pushBlock, empty, Segment.merged, Segment.mergedFrom] using ht
    rw [hempty]
    decide +kernel
  rootAttrs := by decide +kernel

namespace Session

/-- A session in which a cycle was called for a page. -/
def called (p : Page) : Session := (start (.forRust .plain) p).after [.call .cycle]

/-- What is left to be done when the cycle has looked at the page. -/
def toTheEnd : List Event := List.replicate 8 (.proceed 0 0)

theorem completedCycle_oneBlock :
    CompletedCycle (.forRust .plain) (called .oneBlock) 0 [] toTheEnd (.completed 1 ⟨1, 0, 0⟩) :=
  .of_steps ⟨_, [], Page.isFresh_empty.pushBlock _ _ _ _, rfl⟩ (by decide +kernel) rfl rfl
    (by decide +kernel) (by decide +kernel)

theorem page_after_oneBlock :
    ((called .oneBlock).after (.proceed 0 0 :: [] ++ .proceed 0 0 :: toTheEnd)).page =
      .oneBlockRendered := by
  decide +kernel

theorem isReadable_oneBlockRendered : Page.oneBlockRendered.IsReadable := by
  have h := completedCycle_oneBlock.isReadable_after Page.isReadable_oneBlock
  rw [page_after_oneBlock] at h
  exact h (by decide)

theorem oneBlockRead_eq :
    Page.oneBlockRead = { Page.ofHtml Page.oneBlockRendered.toHtml with
      prefersDark := Page.oneBlockRendered.prefersDark } := by
  have hbs : List.Forall₂ Slot.Holds Page.oneBlockRendered.slots [Fragment.oneBlock.codeBlock] :=
    .cons (.rendered rfl rfl) .nil
  have hparts : (Page.oneBlockRendered.opened [] Page.oneBlockRendered.segments).map
      (Page.oneBlockRendered.foundAt [Fragment.oneBlock.codeBlock]) =
      [.html (Markup.startTag "div"
          [("class", Page.renderedClass), ("data-theme", "gruvbox-light")]),
        .block Fragment.oneBlock.codeBlock,
        .html ((Page.copyButton ⟨"let x = 1;", .idle⟩).write ++ Markup.endTag "div")] := rfl
  have hattrs : Tag.attributes Fragment.oneBlock.codeBlock.codeAttrs = [] :=
    Tag.attributes_writeAll (List.forall_mem_nil _)
  rw [Page.ofHtml, isReadable_oneBlockRendered.readAll_toHtml hbs, hparts]
  simp only [Page.ofParts, List.foldl_cons, List.foldl_nil, Page.addPart, hattrs]
  decide +kernel

theorem completedCycle_oneBlockRead :
    CompletedCycle (.forRust .plain) (called .oneBlockRead) 0 [] toTheEnd
      (.completed 1 ⟨1, 0, 0⟩) := by
  have hfresh : Page.oneBlockRead.IsFresh := by
    rw [oneBlockRead_eq]
    exact (Page.isFresh_ofHtml _).withPreference _
  exact .of_steps ⟨_, [], hfresh, rfl⟩ (by decide +kernel) rfl rfl (by decide +kernel)
    (by decide +kernel)

/-- What is read of the page that the first session left. -/
theorem page_called_oneBlockRead :
    let P := ((called .oneBlock).after (.proceed 0 0 :: [] ++ .proceed 0 0 :: toTheEnd)).page
    (called .oneBlockRead).page = { Page.ofHtml P.toHtml with prefersDark := P.prefersDark } := by
  have hpage : (called .oneBlockRead).page = .oneBlockRead := rfl
  rw [page_after_oneBlock, hpage]
  exact oneBlockRead_eq

/-- A block of Rust code is rendered, written, read and taken apart. -/
theorem CompletedCycle.reread_oneBlock :
    let P := ((called .oneBlock).after (.proceed 0 0 :: [] ++ .proceed 0 0 :: toTheEnd)).page
    let Q := ((called .oneBlockRead).after (.proceed 0 0 :: [] ++ .proceed 0 0 :: toTheEnd)).page
    let report := Report.completed 1 ⟨1, 0, 0⟩
    CompletedCycle (.forRust .plain) (called .oneBlock) 0 [] toTheEnd report ∧
      CompletedCycle (.forRust .plain) (called .oneBlockRead) 0 [] toTheEnd report ∧
      P.IsReadable ∧
      (called .oneBlockRead).page = { Page.ofHtml P.toHtml with prefersDark := P.prefersDark } ∧
      Q.toHtml = P.segments.flatMap (P.rewritten Q) ∧
      P.rewritten Q (.block 0) ≠ P.writeSegment (.block 0) := by
  intro P Q report
  have hpage : P = .oneBlockRendered := page_after_oneBlock
  have hP : P.IsReadable := hpage ▸ isReadable_oneBlockRendered
  obtain ⟨hhtml, hslots⟩ :=
    reread completedCycle_oneBlock completedCycle_oneBlockRead hP page_called_oneBlockRead
  have hslot : P.slots[0]? = Page.oneBlockRendered.slots[0]? := by rw [hpage]
  obtain ⟨read, after, -, -, -, hshown⟩ := hslots 0 _ hslot
  obtain ⟨f, -, -, -, -, -, -, hnever⟩ := hshown _ rfl
  exact ⟨completedCycle_oneBlock, completedCycle_oneBlockRead, hP, page_called_oneBlockRead,
    hhtml, hnever _ _ _ rfl (.plain _)⟩

/-- Rendered blocks need not be left as they were written. -/
theorem CompletedCycle.not_reread_as_written :
    ¬ ∀ {s : Setting} {S S' : Session} {task task' : Nat} {mid rest mid' rest' : List Event}
      {report report' : Report},
      let P := (S.after (.proceed task 0 :: mid ++ .proceed task 0 :: rest)).page
      let Q := (S'.after (.proceed task' 0 :: mid' ++ .proceed task' 0 :: rest')).page
      CompletedCycle s S task mid rest report → CompletedCycle s S' task' mid' rest' report' →
      S'.page = { Page.ofHtml P.toHtml with prefersDark := P.prefersDark } →
      ∀ slot ∈ P.slots, slot.node.isRendered = true → Page.writeSlot slot <:+: Q.toHtml := by
  intro h
  have hleft := h completedCycle_oneBlock completedCycle_oneBlockRead page_called_oneBlockRead
  rw [page_after_oneBlock] at hleft
  revert hleft
  decide +kernel

end Session

end PageHighlight
