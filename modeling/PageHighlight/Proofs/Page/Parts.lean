/-
  Proofs/Page/Parts.lean --- parts of a page that readers find again.

  WHAT THIS FILE IS FOR.  A list of parts can be written one behind the other and read
  again; what is read is the list (`Part.readAll_flatMap_text`), if each part is such as
  readers look for.  HTML must not hold the beginning of a tag that they understand
  (`Text.IsPassedOver`).  A block must hold well-formed tags, and its source must not
  hold what ends it; it may hold anything else, tags of other names among it
  (`CodeBlock.IsFound`).
-/
import PageHighlight.Page.Part
import PageHighlight.Proofs.Page.Tag
import PageHighlight.Proofs.Text.Occurrences

set_option autoImplicit false

namespace PageHighlight

/-! ## Texts without the beginning of a tag -/

namespace Text

/-- A text that readers pass over: no tag that they understand begins in it. -/
def IsPassedOver (t : Text) : Prop :=
  ¬ ('<' :: "pre".toList) <:+: t ∧ ¬ ('<' :: "html".toList) <:+: t

instance (t : Text) : Decidable t.IsPassedOver :=
  inferInstanceAs (Decidable (_ ∧ _))

theorem IsPassedOver.isFreeOf_pre {t : Text} (h : t.IsPassedOver) : Tag.IsFreeOf "pre".toList t :=
  Tag.isFreeOf_of_absent h.1

theorem IsPassedOver.isFreeOf_html {t : Text} (h : t.IsPassedOver) :
    Tag.IsFreeOf "html".toList t :=
  Tag.isFreeOf_of_absent h.2

/-- If a text does not hold a pattern that begins with `<`, and another `<` follows it,
the pattern first stands behind it. -/
theorem split?_append_of_absent {name u : Text} (hname : '<' ∉ name)
    (h : ¬ ('<' :: name) <:+: u) (t : Text) :
    split? ('<' :: name) (u ++ '<' :: t) =
      (split? ('<' :: name) ('<' :: t)).map fun p => (u ++ p.1, p.2) := by
  induction u with
  | nil => simp
  | cons c u ih =>
    have hstart : ¬ ('<' :: name) <+: c :: u := fun hp => h hp.isInfix
    have hrest : ¬ ('<' :: name) <:+: u := fun hi => h (List.infix_cons hi)
    have hc : ¬ ('<' :: name) <+: c :: (u ++ '<' :: t) := Tag.not_prefix_append hname hstart t
    rw [List.cons_append, split?_cons_of_elsewhere hc, ih hrest, Option.map_map]
    rfl

/-- A text is split where a pattern that begins with `<` first stands, also if what
stands before holds other tags. -/
theorem split?_append_of_free {name u : Text} (hname : '<' ∉ name) (h : ¬ ('<' :: name) <:+: u)
    (r : Text) : split? ('<' :: name) (u ++ ('<' :: name ++ r)) = some (u, r) := by
  have hself := split?_self ('<' :: name) r
  rw [List.cons_append] at hself ⊢
  rw [split?_append_of_absent hname h, hself, Option.map_some, List.append_nil]

end Text

/-! ## Blocks -/

/-- A block that readers find where it is written. -/
structure CodeBlock.IsFound (b : CodeBlock) : Prop where
  preAttrs : Tag.IsWhole b.preAttrs
  codeAttrs : Tag.IsWhole b.codeAttrs
  gap : b.gap = []
  endGap : b.endGap = []
  noEnd : ¬ ('<' :: "/code>".toList) <:+: b.source
  noRoot : ¬ ('<' :: "html".toList) <:+: b.source

namespace CodeBlock.IsFound

variable {b : CodeBlock}

theorem body_append (h : b.IsFound) (r : Text) :
    b.body ++ r =
      '<' :: "code".toList ++ (b.codeAttrs ++ '>' ::
        (b.source ++ ('<' :: "/code>".toList ++ ("</pre>".toList ++ r)))) := by
  simp [CodeBlock.body, h.gap, h.endGap]

/-- What follows the start tag of its `pre` is read as the block. -/
theorem read?_body (h : b.IsFound) (r : Text) :
    CodeBlock.read? b.preAttrs (b.body ++ r) = some (b, r) := by
  have hhere := h.codeAttrs.here? "code".toList
    (b.source ++ ('<' :: "/code>".toList ++ ("</pre>".toList ++ r)))
  have hsplit := Text.split?_append_of_free (by decide) h.noEnd ("</pre>".toList ++ r)
  have hdrop : Text.dropPrefix? "</pre>".toList ("</pre>".toList ++ r) = some r :=
    Text.dropPrefix?_eq_some.2 rfl
  have hblanks : ∀ u : Text, ('<' :: u).takeWhile Text.isBlank = [] := fun u => rfl
  have htrim : ∀ u : Text, Text.trimStart ('<' :: u) = '<' :: u := fun u => rfl
  rw [h.body_append, CodeBlock.read?, List.cons_append, htrim, hblanks, ← List.cons_append]
  refine Option.bind_eq_some_iff.2 ⟨_, hhere, ?_⟩
  refine Option.bind_eq_some_iff.2 ⟨_, hsplit, ?_⟩
  refine Option.bind_eq_some_iff.2 ⟨_, hdrop, ?_⟩
  have hb : (⟨b.preAttrs, [], b.codeAttrs, b.source, []⟩ : CodeBlock) = b := by
    obtain ⟨preAttrs, gap, codeAttrs, source, endGap⟩ := b
    cases h.gap
    cases h.endGap
    rfl
  exact congrArg (fun b => some (b, r)) hb

/-- It is the next block behind HTML in which none begins. -/
theorem find?_pre (h : b.IsFound) {run : Text} (hrun : Tag.IsFreeOf "pre".toList run) (r : Text) :
    Tag.find? "pre".toList (run ++ (b.text ++ r)) = some (run, b.preAttrs, b.body ++ r) := by
  have htext : b.text ++ r = '<' :: "pre".toList ++ (b.preAttrs ++ '>' :: (b.body ++ r)) := by
    rw [CodeBlock.text, CodeBlock.preTag]
    simp
  rw [htext]
  exact h.preAttrs.find?_append (by decide) hrun _

/-- No root element is found in it. -/
theorem find?_html (h : b.IsFound) {run : Text} (hrun : Tag.IsFreeOf "html".toList run)
    (r : Text) :
    Tag.find? "html".toList (run ++ (b.text ++ r)) =
      (Tag.find? "html".toList r).map fun p => (run ++ (b.text ++ p.1), p.2) := by
  have hpre : '<' ∉ "pre".toList ++ (b.preAttrs ++ ['>']) := by
    simp only [List.mem_append, not_or]
    exact ⟨by decide, h.preAttrs.noTag, by decide⟩
  have hcode : '<' ∉ "code".toList ++ (b.codeAttrs ++ ['>']) := by
    simp only [List.mem_append, not_or]
    exact ⟨by decide, h.codeAttrs.noTag, by decide⟩
  have htext : ∀ u, b.text ++ u =
      '<' :: (("pre".toList ++ (b.preAttrs ++ ['>'])) ++
        '<' :: (("code".toList ++ (b.codeAttrs ++ ['>'])) ++ (b.source ++
          '<' :: ("/code>".toList ++ '<' :: ("/pre>".toList ++ u))))) := by
    intro u
    rw [CodeBlock.text, CodeBlock.preTag, List.append_assoc, h.body_append]
    simp
  have hsource := Tag.isFreeOf_of_absent h.noRoot
  simp only [htext]
  rw [Tag.find?_append_of_isFreeOf (by decide) hrun, Tag.find?_append_other hpre rfl,
    Tag.find?_append_other hcode rfl, Tag.find?_append_of_isFreeOf (by decide) hsource,
    Tag.find?_append_other (by decide) rfl, Tag.find?_append_other (by decide) rfl]
  simp only [Option.map_map]
  rfl

end CodeBlock.IsFound

/-- What readers looked at when they found a block. -/
theorem CodeBlock.exists_of_read? {preAttrs t after : Text} {b : CodeBlock}
    (h : CodeBlock.read? preAttrs t = some (b, after)) :
    ∃ t', Tag.here? "code".toList (Text.trimStart t) = some (b.codeAttrs, t') ∧
      Text.split? "</code>".toList t' =
        some (b.source, b.endGap ++ ("</pre>".toList ++ after)) ∧
      Text.allBlank b.gap = true ∧ Text.allBlank b.endGap = true := by
  simp only [read?, Option.bind_eq_bind, Option.bind_eq_some_iff] at h
  obtain ⟨⟨codeAttrs, t₁⟩, hcode, ⟨source, t₂⟩, hsource, after, hend, he⟩ := h
  cases he
  have ht₂ : t₂.takeWhile Text.isBlank ++ ("</pre>".toList ++ after) = t₂ := by
    rw [← Text.dropPrefix?_eq_some.1 hend]
    exact takeWhile_append_trimStart t₂
  refine ⟨t₁, hcode, hsource.trans ?_, List.all_takeWhile, List.all_takeWhile⟩
  simp only [ht₂]

/-! ## Lists of parts -/

namespace Part

theorem readBlocks_of_find? {t before preAttrs after rest : Text} {b : CodeBlock}
    (hfind : Tag.find? "pre".toList t = some (before, preAttrs, after))
    (hread : CodeBlock.read? preAttrs after = some (b, rest)) :
    readBlocks t = html before :: block b :: readBlocks rest := by
  rw [readBlocks]
  split
  · next h =>
    rw [hfind] at h
    cases h
  · next h =>
    rw [hfind] at h
    cases h
    split
    · next h' =>
      rw [hread] at h'
      cases h'
      rfl
    · next h' =>
      rw [hread] at h'
      cases h'

theorem readBlocks_of_find?_eq_none {t : Text} (hfind : Tag.find? "pre".toList t = none) :
    readBlocks t = [html t] := by
  rw [readBlocks]
  split
  · rfl
  · next h =>
    rw [hfind] at h
    cases h

theorem not_root_of_mem_readBlocks {t attrs : Text} : .root attrs ∉ readBlocks t := by
  fun_induction readBlocks t with
  | case1 t h => simp
  | case2 t before preAttrs after h b rest h' ih => simpa using ih
  | case3 t before preAttrs after h h' ih => simpa using ih

/-- Parts as readers find them after the root element: blocks, and a run of HTML, maybe
empty, before each and behind the last. -/
inductive AreBlocks : List Part → Prop where
  | last {t : Text} (passedOver : t.IsPassedOver) : AreBlocks [html t]
  | block {t : Text} {b : CodeBlock} {ps : List Part} (passedOver : t.IsPassedOver)
      (found : b.IsFound) (rest : AreBlocks ps) : AreBlocks (html t :: block b :: ps)

/-- Parts as readers find them. -/
inductive AreAll : List Part → Prop where
  | rootless {ps : List Part} (blocks : AreBlocks ps) : AreAll ps
  | rooted {t : Text} {as : List Attribute} {ps : List Part} (passedOver : t.IsPassedOver)
      (names : ∀ a ∈ as, Attribute.IsName a.1) (blocks : AreBlocks ps) :
      AreAll (html t :: root (Attribute.writeAll as) :: ps)

variable {ps : List Part}

/-- Blocks and HTML that is passed over are read as they were. -/
theorem readBlocks_flatMap_text (h : AreBlocks ps) : readBlocks (ps.flatMap text) = ps := by
  induction h with
  | last passedOver =>
    rw [List.flatMap_singleton]
    exact readBlocks_of_find?_eq_none (Tag.find?_of_isFreeOf passedOver.isFreeOf_pre)
  | block passedOver found rest ih =>
    rw [List.flatMap_cons, List.flatMap_cons]
    refine (readBlocks_of_find? (found.find?_pre passedOver.isFreeOf_pre _)
      (found.read?_body _)).trans ?_
    rw [ih]

/-- Without a root element none is found. -/
theorem find?_html_flatMap_text (h : AreBlocks ps) :
    Tag.find? "html".toList (ps.flatMap text) = none := by
  induction h with
  | last passedOver =>
    rw [List.flatMap_singleton]
    exact Tag.find?_of_isFreeOf passedOver.isFreeOf_html
  | block passedOver found rest ih =>
    rw [List.flatMap_cons, List.flatMap_cons]
    refine (found.find?_html passedOver.isFreeOf_html _).trans ?_
    rw [ih]
    rfl

/-- Parts that were written are read as they were. -/
theorem readAll_flatMap_text (h : AreAll ps) : readAll (ps.flatMap text) = ps := by
  cases h with
  | rootless blocks =>
    rw [readAll, find?_html_flatMap_text blocks]
    exact readBlocks_flatMap_text blocks
  | @rooted t as ps passedOver names blocks =>
    have htag : (html t :: root (Attribute.writeAll as) :: ps).flatMap text =
        t ++ ('<' :: "html".toList ++ (Attribute.writeAll as ++ '>' :: ps.flatMap text)) := by
      simp [text]
    have hfind := (Tag.isWhole_writeAll names).find?_append (by decide)
      passedOver.isFreeOf_html (ps.flatMap text)
    rw [htag, readAll, hfind]
    simp only [readBlocks_flatMap_text blocks]

end Part

end PageHighlight
