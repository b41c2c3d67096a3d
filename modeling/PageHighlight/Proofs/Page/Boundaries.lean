/-
  Proofs/Page/Boundaries.lean --- where the parts of a page that is written again are.

  WHAT THIS FILE IS FOR.  A page that was read and written is read again: are its parts
  the rewritten parts?  Two things must hold.  A rewritten tag must end where it was
  written to end, and readers must not find a tag elsewhere than before.  The second is
  about the page that was read: the tags that are understood must end, and no tag may
  begin inside of one (`Text.TagsEnd`).  Then the parts of the written page are the
  rewritten parts if and only if each rewritten tag ends (`Part.Ends`), and
  reading and writing the page once more changes nothing.

  HOW.  Up to the first block the page and the written page are the same text, and so
  readers decide the same about every `pre` that stands there
  (`CodeBlock.read?_eq_none_of_append`): what a tag is does not depend on what follows from
  the next tag on.  Behind the block the same is said of the rest.
-/
import Mathlib.Data.List.Infix
import PageHighlight.Proofs.Page.Rewriting

set_option autoImplicit false

namespace PageHighlight

/-! ## Pages whose tags end -/

namespace Tag

/-- The names of the tags that readers understand. -/
def understood : List Text := ["html", "pre", "code"]

theorem not_mem_understood : ∀ name ∈ understood, '<' ∉ name := by decide

/-- If a tag of this name begins a text, it ends there, and no tag begins inside of it. -/
def endsIfHere (name t : Text) : Bool :=
  (afterName? name t).all fun rest => (close? none false rest).any fun p => !p.1.contains '<'

end Tag

/-- Every tag that readers understand ends in the text, and no tag begins inside of it. -/
def Text.TagsEnd (t : Text) : Prop :=
  ∀ s ∈ t.tails, ∀ name ∈ Tag.understood, Tag.endsIfHere name s = true

instance (t : Text) : Decidable t.TagsEnd :=
  inferInstanceAs (Decidable (∀ s ∈ t.tails, ∀ name ∈ Tag.understood, _ = true))

/-- The tag of a part that is written anew ends behind its attributes. -/
def Part.Ends : Part → Prop
  | html _ => True
  | root attrs => Tag.Ends attrs
  | block b => Tag.Ends b.codeAttrs

namespace Tag

theorem noTag_rewritten {attrs : Text} (h : '<' ∉ attrs) : '<' ∉ rewritten attrs := by
  rw [← List.count_eq_zero] at h ⊢
  have := count_rewritten_le (.inl rfl) attrs
  omega

end Tag

namespace Text.TagsEnd

variable {t s name : Text}

theorem suffix (h : t.TagsEnd) (hs : s <:+ t) : s.TagsEnd := fun u hu name hname =>
  h u ((List.mem_tails _ _).2 (((List.mem_tails _ _).1 hu).trans hs)) name hname

theorem exists_close? (h : t.TagsEnd) (hname : name ∈ Tag.understood) (hs : s <:+ t) {rest : Text}
    (hrest : Tag.afterName? name s = some rest) :
    ∃ attrs after, Tag.close? none false rest = some (attrs, after) ∧ '<' ∉ attrs := by
  have hends := h s ((List.mem_tails _ _).2 hs) name hname
  simp only [Tag.endsIfHere, hrest, Option.all_some, Option.any_eq_true] at hends
  obtain ⟨⟨attrs, after⟩, hclose, hno⟩ := hends
  exact ⟨attrs, after, hclose, by simpa using hno⟩

/-- A tag that is read in it is whole. -/
theorem isWhole_of_here? (h : t.TagsEnd) (hname : name ∈ Tag.understood) (hs : s <:+ t)
    {attrs after : Text} (hhere : Tag.here? name s = some (attrs, after)) : Tag.IsWhole attrs := by
  obtain ⟨rest, hrest, hclose⟩ := Option.bind_eq_some_iff.1 hhere
  obtain ⟨attrs', after', hclose', hno⟩ := h.exists_close? hname hs hrest
  cases hclose.symm.trans hclose'
  exact ⟨(Tag.ends_of_here? hhere).1, (Tag.ends_of_here? hhere).2, hno⟩

theorem isWhole_of_find? (h : t.TagsEnd) (hname : name ∈ Tag.understood)
    {before attrs after : Text} (hfind : Tag.find? name t = some (before, attrs, after)) :
    Tag.IsWhole attrs := by
  obtain ⟨s, rfl, hhere, -⟩ := Tag.exists_here?_of_find? hfind
  exact h.isWhole_of_here? hname (List.suffix_append _ _) hhere

/-- If no tag is found in it, none begins in it. -/
theorem isFreeOf (h : t.TagsEnd) (hname : name ∈ Tag.understood)
    (hfind : Tag.find? name t = none) : Tag.IsFreeOf name t := by
  induction t with
  | nil =>
    intro s hs
    rw [List.suffix_nil.1 hs]
    rfl
  | cons c r ih =>
    cases hafter : Tag.afterName? name (c :: r) with
    | none =>
      rw [Tag.find?_cons_of_afterName? hafter, Option.map_eq_none_iff] at hfind
      intro s hs
      rcases List.suffix_cons_iff.1 hs with rfl | hs
      · exact hafter
      · exact ih (h.suffix (List.suffix_cons c r)) hfind s hs
    | some rest =>
      obtain ⟨attrs, after, hclose, -⟩ := h.exists_close? hname (List.suffix_refl _) hafter
      rw [Tag.find?, hafter] at hfind
      simp [hclose] at hfind

end Text.TagsEnd

/-! ## Searches up to a tag -/

namespace Text

/-- Whether a text begins with a tag does not depend on what follows from another tag
on. -/
theorem prefix_append_congr {name s u v : Text} (hname : '<' ∉ name) (hu : ¬ name <+: u)
    (h : ('<' :: name) <+: s ++ '<' :: u) : ('<' :: name) <+: s ++ '<' :: v := by
  cases s with
  | nil => exact absurd (List.cons_prefix_cons.1 h).2 hu
  | cons c s =>
    by_cases hs : ('<' :: name) <+: c :: s
    · exact hs.trans (List.prefix_append _ _)
    · exact absurd h (Tag.not_prefix_append hname hs u)

/-- A pattern is not held by a tag that it does not begin. -/
theorem split?_append_tag {name u t : Text} (hu : '<' ∉ u) (hname : ¬ name <+: u ++ t) :
    split? ('<' :: name) ('<' :: (u ++ t)) =
      (split? ('<' :: name) t).map fun p => ('<' :: (u ++ p.1), p.2) := by
  have hp : ¬ ('<' :: name) <+: '<' :: (u ++ t) := fun h => hname (List.cons_prefix_cons.1 h).2
  rw [split?_cons_of_elsewhere hp, split?_append_of_not_mem hu, Option.map_map]
  rfl

end Text

/-- A tag that begins before another one, and in which none begins, is read the same
whatever follows from the other tag on. -/
theorem Tag.here?_append {name s u attrs after : Text} (hname : '<' ∉ name) (hs : s ≠ [])
    (h : here? name (s ++ '<' :: u) = some (attrs, after)) (hno : '<' ∉ attrs) :
    ∃ x, after = x ++ '<' :: u ∧
      ∀ v, here? name (s ++ '<' :: v) = some (attrs, x ++ '<' :: v) := by
  obtain ⟨rest, hafter, hclose⟩ := Option.bind_eq_some_iff.1 h
  rw [afterName?_append hname hs] at hafter
  obtain ⟨y, hy, rfl⟩ := Option.map_eq_some_iff.1 hafter
  obtain ⟨x, rfl, rfl⟩ : ∃ x, y = attrs ++ '>' :: x ∧ after = x ++ '<' :: u := by
    rcases List.append_eq_append_iff.1 (eq_of_close? hclose) with ⟨b, hb, hrest⟩ | ⟨b, hb, hrest⟩
    · cases b with
      | nil => cases hrest
      | cons c b =>
        obtain rfl : '<' = c := (List.cons.inj hrest).1
        exact absurd (hb ▸ List.mem_append_right y List.mem_cons_self) hno
    · cases b with
      | nil => cases hrest
      | cons c b =>
        obtain ⟨rfl, hbehind⟩ : '>' = c ∧ after = b ++ '<' :: u := List.cons.inj hrest
        exact ⟨b, hb, hbehind⟩
  refine ⟨x, rfl, fun v => ?_⟩
  rw [here?, afterName?_append hname hs, hy, Option.map_some, Option.bind_some, List.append_assoc]
  exact close?_append hclose _

/-- In a page whose tags end, a tag that begins before another one is read as it would be
if the other one were not the same. -/
theorem Text.TagsEnd.here?_append {name s u v attrs after : Text}
    (h : (s ++ '<' :: u).TagsEnd) (hname : name ∈ Tag.understood) (hs : s ≠ [])
    (hhere : Tag.here? name (s ++ '<' :: v) = some (attrs, after)) :
    ∃ x, after = x ++ '<' :: v ∧ Tag.here? name (s ++ '<' :: u) = some (attrs, x ++ '<' :: u) := by
  have hfree : '<' ∉ name := Tag.not_mem_understood name hname
  obtain ⟨y, hafter, -⟩ := Option.bind_eq_some_iff.1 hhere
  rw [Tag.afterName?_append hfree hs] at hafter
  obtain ⟨z, hz, rfl⟩ := Option.map_eq_some_iff.1 hafter
  have hbegins := Tag.afterName?_append hfree hs u
  rw [hz] at hbegins
  obtain ⟨attrs', behind, hclose, hno⟩ := h.exists_close? hname (List.suffix_refl _) hbegins
  have hhere' : Tag.here? name (s ++ '<' :: u) = some (attrs', behind) :=
    Option.bind_eq_some_iff.2 ⟨_, hbegins, hclose⟩
  obtain ⟨x, rfl, hsame⟩ := Tag.here?_append hfree hs hhere' hno
  cases (hsame v).symm.trans hhere
  exact ⟨x, rfl, hhere'⟩

/-! ## Tags of `pre` that begin no block -/

namespace CodeBlock

variable {preAttrs t attrs t' source t'' after : Text}

/-- What readers look at when they find a block. -/
theorem read?_ne_none (hcode : Tag.here? "code".toList (Text.trimStart t) = some (attrs, t'))
    (hsource : Text.split? "</code>".toList t' = some (source, t''))
    (hend : "</pre>".toList <+: Text.trimStart t'') : read? preAttrs t ≠ none := by
  obtain ⟨after, hafter⟩ := hend
  have hdrop := Text.dropPrefix?_eq_some.2 hafter.symm
  simp only [read?, Option.bind_eq_bind, hcode, Option.bind_some, hsource, hdrop]
  exact Option.some_ne_none _

/-- A block begins with a tag that neither is a `code` nor ends a `pre`. -/
theorem exists_text_append (b : CodeBlock) (r : Text) :
    ∃ u, b.text ++ r = '<' :: u ∧ Tag.afterName? "code".toList ('<' :: u) = none ∧
      ¬ "/pre>".toList <+: u := by
  refine ⟨"pre".toList ++ (b.preAttrs ++ '>' :: (b.body ++ r)), ?_, rfl, by simp⟩
  simp [text, preTag]

/-- Behind a text that does not hold `</code>`, a block gives the first one. -/
theorem split?_append_text {x rest : Text} {b : CodeBlock}
    (hx : ¬ ('<' :: "/code>".toList) <:+: x) (hpre : '<' ∉ b.preAttrs) (hcode : '<' ∉ b.codeAttrs)
    (hread : read? b.preAttrs (b.body ++ rest) = some (b, rest)) :
    ∃ source, Text.split? "</code>".toList (x ++ (b.text ++ rest)) =
      some (source, b.endGap ++ ("</pre>".toList ++ rest)) := by
  obtain ⟨t', -, hsource, hblank, -⟩ := exists_of_read? hread
  have hpattern : "</code>".toList = '<' :: "/code>".toList := rfl
  have htext : b.text ++ rest = '<' :: (("pre".toList ++ (b.preAttrs ++ '>' :: b.gap)) ++
      '<' :: (("code".toList ++ (b.codeAttrs ++ ['>'])) ++ t')) := by
    rw [Text.split?_eq_some hsource]
    simp [text, preTag, body]
  have hgap : '<' ∉ b.gap := fun hm => by
    cases List.all_eq_true.1 hblank _ hm
  have hpreTag : '<' ∉ "pre".toList ++ (b.preAttrs ++ '>' :: b.gap) := by
    simp only [List.mem_append, List.mem_cons, not_or]
    exact ⟨by decide, hpre, by decide, hgap⟩
  have hcodeTag : '<' ∉ "code".toList ++ (b.codeAttrs ++ ['>']) := by
    simp only [List.mem_append, not_or]
    exact ⟨by decide, hcode, by decide⟩
  rw [hpattern] at hsource
  rw [hpattern, htext, Text.split?_append_of_absent (by decide) hx,
    Text.split?_append_tag hpreTag (by simp), Text.split?_append_tag hcodeTag (by simp), hsource]
  exact ⟨_, rfl⟩

/-- A `pre` that begins no block of a page begins none either if the next block is
another one. -/
theorem read?_eq_none_of_append {preAttrs run rest r : Text} {b b' : CodeBlock}
    (htags : (run ++ (b.text ++ rest)).TagsEnd) (hpre : '<' ∉ b.preAttrs)
    (hcode : '<' ∉ b.codeAttrs) (hread : read? b.preAttrs (b.body ++ rest) = some (b, rest))
    (hnone : read? preAttrs (run ++ (b.text ++ rest)) = none) :
    read? preAttrs (run ++ (b'.text ++ r)) = none := by
  obtain ⟨u, hu, -, -⟩ := b.exists_text_append rest
  obtain ⟨v, hv, hvcode, hvend⟩ := b'.exists_text_append r
  rw [hu] at htags hnone
  rw [hv]
  by_contra hsome
  obtain ⟨⟨b'', after⟩, hread'⟩ := Option.ne_none_iff_exists'.1 hsome
  obtain ⟨t', hcode', hsource', -, hblank'⟩ := exists_of_read? hread'
  rw [Text.trimStart_append_cons (by decide)] at hcode'
  have hne : Text.trimStart run ≠ [] := by
    intro he
    rw [he, List.nil_append, Tag.here?, hvcode] at hcode'
    cases hcode'
  -- the `code` that readers find stands in the run, and so it stood there before
  have htags' : (Text.trimStart run ++ '<' :: u).TagsEnd := by
    rw [← Text.trimStart_append_cons (by decide)]
    exact htags.suffix (List.dropWhile_suffix _)
  obtain ⟨x, rfl, hcode₀⟩ := htags'.here?_append (by decide) hne hcode'
  rw [← Text.trimStart_append_cons (by decide)] at hcode₀
  cases hx : Text.split? ('<' :: "/code>".toList) x with
  | some p =>
    -- its end stands there too, and what follows the end is decided before the next tag
    have hsource₀ := Text.split?_append hx ('<' :: u)
    have hend : ('<' :: "/pre>".toList) <+: Text.trimStart (p.2 ++ '<' :: v) := by
      have hp := Option.some.inj ((Text.split?_append hx ('<' :: v)).symm.trans hsource')
      rw [(Prod.mk.inj hp).2, Text.trimStart_append hblank']
      exact List.prefix_append _ _
    rw [Text.trimStart_append_cons (by decide)] at hend
    refine read?_ne_none hcode₀ hsource₀ ?_ hnone
    rw [Text.trimStart_append_cons (by decide)]
    exact Text.prefix_append_congr (by decide) hvend hend
  | none =>
    -- otherwise its end would be that of the block
    obtain ⟨source, hsource₀⟩ :=
      split?_append_text (Text.split?_eq_none_iff.1 hx) hpre hcode hread
    obtain ⟨-, -, -, -, hblank⟩ := exists_of_read? hread
    rw [hu] at hsource₀
    refine read?_ne_none hcode₀ hsource₀ ?_ hnone
    rw [Text.trimStart_append hblank]
    exact List.prefix_append _ _

end CodeBlock

/-! ## The parts of a page that was written again -/

namespace Part

/-- What a page writes of the text behind its root element that it was read from. -/
def rewriteBlocks (t : Text) : Text := ((readBlocks t).map rewritten).flatMap text

theorem readBlocks_of_read?_eq_none {t before preAttrs after : Text}
    (hfind : Tag.find? "pre".toList t = some (before, preAttrs, after))
    (hread : CodeBlock.read? preAttrs after = none) :
    readBlocks t = html (before ++ CodeBlock.preTag preAttrs) :: readBlocks after := by
  rw [readBlocks]
  split
  · next h => cases hfind.symm.trans h
  · next h =>
    cases hfind.symm.trans h
    split
    · next h' => cases hread.symm.trans h'
    · rfl

section Equations

variable {t before preAttrs after rest : Text} {b : CodeBlock}

theorem rewriteBlocks_of_find?_eq_none (hfind : Tag.find? "pre".toList t = none) :
    rewriteBlocks t = t := by
  rw [rewriteBlocks, readBlocks_of_find?_eq_none hfind]
  simp [rewritten, text]

theorem rewriteBlocks_of_read? (hfind : Tag.find? "pre".toList t = some (before, preAttrs, after))
    (hread : CodeBlock.read? preAttrs after = some (b, rest)) :
    rewriteBlocks t = before ++ (b.rewritten.text ++ rewriteBlocks rest) := by
  rw [rewriteBlocks, readBlocks_of_find? hfind hread]
  simp [rewritten, text, rewriteBlocks]

theorem rewriteBlocks_of_read?_eq_none
    (hfind : Tag.find? "pre".toList t = some (before, preAttrs, after))
    (hread : CodeBlock.read? preAttrs after = none) :
    rewriteBlocks t = before ++ (CodeBlock.preTag preAttrs ++ rewriteBlocks after) := by
  rw [rewriteBlocks, readBlocks_of_read?_eq_none hfind hread]
  simp [rewritten, text, rewriteBlocks]

theorem eq_append_preTag (hfind : Tag.find? "pre".toList t = some (before, preAttrs, after)) :
    t = before ++ (CodeBlock.preTag preAttrs ++ after) := by
  rw [Tag.eq_of_find? hfind]
  simp [CodeBlock.preTag]

theorem eq_append_text (hfind : Tag.find? "pre".toList t = some (before, preAttrs, after))
    (hread : CodeBlock.read? preAttrs after = some (b, rest)) :
    t = before ++ (b.text ++ rest) := by
  obtain ⟨hpre, hbody⟩ := CodeBlock.eq_of_read? hread
  rw [eq_append_preTag hfind, hbody, CodeBlock.text, hpre, List.append_assoc]

theorem suffix_of_read? (hread : CodeBlock.read? preAttrs after = some (b, rest)) :
    rest <:+ after := by
  rw [(CodeBlock.eq_of_read? hread).2]
  exact List.suffix_append _ _

end Equations

section Blocks

variable {t before preAttrs after rest : Text} {b : CodeBlock}

theorem isWhole_codeAttrs (h : t.TagsEnd)
    (hfind : Tag.find? "pre".toList t = some (before, preAttrs, after))
    (hread : CodeBlock.read? preAttrs after = some (b, rest)) : Tag.IsWhole b.codeAttrs := by
  obtain ⟨t', hcode, -⟩ := CodeBlock.exists_of_read? hread
  exact h.isWhole_of_here? (by decide)
    ((List.dropWhile_suffix _).trans (Tag.suffix_of_find? hfind)) hcode

/-- A block whose tag ends as it is written is found when it is written again. -/
theorem isFound_rewritten (h : t.TagsEnd)
    (hfind : Tag.find? "pre".toList t = some (before, preAttrs, after))
    (hread : CodeBlock.read? preAttrs after = some (b, rest))
    (hends : Tag.Ends b.rewritten.codeAttrs) : b.rewritten.IsFound where
  preAttrs := by
    obtain ⟨hpre, -⟩ := CodeBlock.eq_of_read? hread
    rw [CodeBlock.rewritten, hpre]
    exact h.isWhole_of_find? (by decide) hfind
  codeAttrs :=
    ⟨Tag.endsName_writeAll _, hends, Tag.noTag_rewritten (isWhole_codeAttrs h hfind hread).noTag⟩
  gap := rfl
  endGap := rfl
  noEnd hi := b.not_mem_rewritten_source (hi.subset List.mem_cons_self)
  noRoot hi := b.not_mem_rewritten_source (hi.subset List.mem_cons_self)

end Blocks

/-- Up to the first block, and that may be the whole page, nothing is written in another
way. -/
theorem rewriteBlocks_cases {t : Text} (h : t.TagsEnd) :
    rewriteBlocks t = t ∨ ∃ run b rest, t = run ++ (b.text ++ rest) ∧
      rewriteBlocks t = run ++ (b.rewritten.text ++ rewriteBlocks rest) ∧
      '<' ∉ b.preAttrs ∧ '<' ∉ b.codeAttrs ∧
      CodeBlock.read? b.preAttrs (b.body ++ rest) = some (b, rest) := by
  fun_induction readBlocks t with
  | case1 t hfind => exact .inl (rewriteBlocks_of_find?_eq_none hfind)
  | case2 t before preAttrs after hfind b rest hread ih =>
    obtain ⟨hpre, hbody⟩ := CodeBlock.eq_of_read? hread
    have hpreTag := (h.isWhole_of_find? (by decide) hfind).noTag
    rw [← hpre] at hpreTag
    have hread' := hread
    rw [← hpre, hbody] at hread'
    exact .inr ⟨before, b, rest, eq_append_text hfind hread, rewriteBlocks_of_read? hfind hread,
      hpreTag, (isWhole_codeAttrs h hfind hread).noTag, hread'⟩
  | case3 t before preAttrs after hfind hread ih =>
    have ht := eq_append_preTag hfind
    have hwritten := rewriteBlocks_of_read?_eq_none hfind hread
    rcases ih (h.suffix (Tag.suffix_of_find? hfind)) with
      hsame | ⟨run, b, rest, hafter, hrewritten, hb⟩
    · exact .inl (by rw [hwritten, hsame, ← ht])
    · refine .inr ⟨before ++ (CodeBlock.preTag preAttrs ++ run), b, rest, ?_, ?_, hb⟩
      · rw [ht, hafter]
        simp only [List.append_assoc]
      · rw [hwritten, hrewritten]
        simp only [List.append_assoc]

/-- A `pre` that begins no block still begins none when the blocks behind it are written
again. -/
theorem read?_rewriteBlocks_eq_none {preAttrs t : Text} (h : t.TagsEnd)
    (hnone : CodeBlock.read? preAttrs t = none) :
    CodeBlock.read? preAttrs (rewriteBlocks t) = none := by
  rcases rewriteBlocks_cases h with hsame | ⟨run, b, rest, ht, hrewritten, hpre, hcode, hread⟩
  · rwa [hsame]
  · rw [ht] at h hnone
    rw [hrewritten]
    exact CodeBlock.read?_eq_none_of_append h hpre hcode hread hnone

/-- Blocks whose tags end as they are written are found again, and nothing else is. -/
theorem readBlocks_rewriteBlocks {t : Text} (h : t.TagsEnd)
    (hends : ∀ part ∈ readBlocks t, part.rewritten.Ends) :
    readBlocks (rewriteBlocks t) = (readBlocks t).map rewritten := by
  fun_induction readBlocks t with
  | case1 t hfind =>
    rw [rewriteBlocks_of_find?_eq_none hfind, readBlocks_of_find?_eq_none hfind]
    rfl
  | case2 t before preAttrs after hfind b rest hread ih =>
    obtain ⟨-, hb, hrest⟩ : _ ∧ _ ∧ _ := by simpa using hends
    have hsuffix := (suffix_of_read? hread).trans (Tag.suffix_of_find? hfind)
    have hfound := isFound_rewritten h hfind hread hb
    have hfree := Tag.isFreeOf_of_find? (by decide) hfind
    rw [rewriteBlocks_of_read? hfind hread,
      readBlocks_of_find? (hfound.find?_pre hfree _) (hfound.read?_body _),
      ih (h.suffix hsuffix) hrest]
    rfl
  | case3 t before preAttrs after hfind hread ih =>
    obtain ⟨-, hrest⟩ : _ ∧ _ := by simpa using hends
    have hafter := h.suffix (Tag.suffix_of_find? hfind)
    have hfree := Tag.isFreeOf_of_find? (by decide) hfind
    have hwhole := h.isWhole_of_find? (by decide) hfind
    have hfind' : Tag.find? "pre".toList (rewriteBlocks t) =
        some (before, preAttrs, rewriteBlocks after) := by
      have hwritten : rewriteBlocks t =
          before ++ ('<' :: "pre".toList ++ (preAttrs ++ '>' :: rewriteBlocks after)) := by
        rw [rewriteBlocks_of_read?_eq_none hfind hread]
        simp [CodeBlock.preTag]
      rw [hwritten]
      exact hwhole.find?_append (by decide) hfree _
    rw [readBlocks_of_read?_eq_none hfind' (read?_rewriteBlocks_eq_none hafter hread),
      ih hafter hrest]
    rfl

/-- No root element is found in blocks that are written again, if there was none. -/
theorem find?_html_rewriteBlocks {t : Text} (h : t.TagsEnd)
    (hfree : Tag.IsFreeOf "html".toList t) (hends : ∀ part ∈ readBlocks t, part.rewritten.Ends) :
    Tag.find? "html".toList (rewriteBlocks t) = none := by
  fun_induction readBlocks t with
  | case1 t hfind =>
    rw [rewriteBlocks_of_find?_eq_none hfind]
    exact Tag.find?_of_isFreeOf hfree
  | case2 t before preAttrs after hfind b rest hread ih =>
    obtain ⟨-, hb, hrest⟩ : _ ∧ _ ∧ _ := by simpa using hends
    have hsuffix := (suffix_of_read? hread).trans (Tag.suffix_of_find? hfind)
    have hbefore : Tag.IsFreeOf "html".toList before := by
      obtain ⟨u, hu, -⟩ := b.exists_text_append rest
      rw [eq_append_text hfind hread, hu] at hfree
      exact hfree.of_append (by decide)
    rw [rewriteBlocks_of_read? hfind hread,
      (isFound_rewritten h hfind hread hb).find?_html hbefore,
      ih (h.suffix hsuffix) (hfree.suffix hsuffix) hrest]
    rfl
  | case3 t before preAttrs after hfind hread ih =>
    obtain ⟨-, hrest⟩ : _ ∧ _ := by simpa using hends
    have hsuffix := Tag.suffix_of_find? hfind
    have hpreTag : ∀ u, CodeBlock.preTag preAttrs ++ u =
        '<' :: (("pre".toList ++ (preAttrs ++ ['>'])) ++ u) := by
      intro u
      simp [CodeBlock.preTag]
    have hno : '<' ∉ "pre".toList ++ (preAttrs ++ ['>']) := by
      simp only [List.mem_append, not_or]
      exact ⟨by decide, (h.isWhole_of_find? (by decide) hfind).noTag, by decide⟩
    have hbefore : Tag.IsFreeOf "html".toList before := by
      rw [eq_append_preTag hfind, hpreTag] at hfree
      exact hfree.of_append (by decide)
    rw [rewriteBlocks_of_read?_eq_none hfind hread, hpreTag,
      Tag.find?_append_of_isFreeOf (by decide) hbefore, Tag.find?_append_other hno rfl,
      ih (h.suffix hsuffix) (hfree.suffix hsuffix) hrest]
    rfl

/-- The parts of a page that is written again are the rewritten parts, if all tags end as
they are written. -/
theorem readAll_rewritten {t : Text} (h : t.TagsEnd)
    (hends : ∀ part ∈ readAll t, part.rewritten.Ends) :
    readAll (((readAll t).map rewritten).flatMap text) = (readAll t).map rewritten := by
  cases hfind : Tag.find? "html".toList t with
  | none =>
    have hread : readAll t = readBlocks t := by rw [readAll, hfind]
    rw [hread] at hends ⊢
    have hnone := find?_html_rewriteBlocks h (h.isFreeOf (by decide) hfind) hends
    have hblocks := readBlocks_rewriteBlocks h hends
    rw [rewriteBlocks] at hnone hblocks
    rw [readAll, hnone]
    exact hblocks
  | some p =>
    obtain ⟨before, attrs, after⟩ := p
    have hread : readAll t = html before :: root attrs :: readBlocks after := by
      rw [readAll, hfind]
    rw [hread] at hends ⊢
    obtain ⟨-, hroot, hblocks⟩ : _ ∧ _ ∧ _ := by simpa using hends
    have hwhole : Tag.IsWhole (Tag.rewritten attrs) :=
      ⟨Tag.endsName_writeAll _, hroot,
        Tag.noTag_rewritten (h.isWhole_of_find? (by decide) hfind).noTag⟩
    have hfree := Tag.isFreeOf_of_find? (by decide) hfind
    have htext : ((html before :: root attrs :: readBlocks after).map rewritten).flatMap text =
        before ++ ('<' :: "html".toList ++
          (Tag.rewritten attrs ++ '>' :: rewriteBlocks after)) := by
      simp [rewritten, text, rewriteBlocks]
    rw [htext, readAll, hwhole.find?_append (by decide) hfree]
    simp only [readBlocks_rewriteBlocks (h.suffix (Tag.suffix_of_find? hfind)) hblocks]
    rfl

/-! ## Tags that end as they are written -/

/-- The tags that readers find end. -/
theorem ends_of_mem_readBlocks {t : Text} : ∀ part ∈ readBlocks t, part.Ends := by
  fun_induction readBlocks t with
  | case1 t hfind => simp [Ends]
  | case2 t before preAttrs after hfind b rest hread ih =>
    obtain ⟨t', hcode, -⟩ := CodeBlock.exists_of_read? hread
    exact List.forall_mem_cons.2 ⟨trivial, List.forall_mem_cons.2 ⟨(Tag.ends_of_here? hcode).2, ih⟩⟩
  | case3 t before preAttrs after hfind hread ih =>
    exact List.forall_mem_cons.2 ⟨trivial, ih⟩

theorem ends_of_mem_readAll {t : Text} : ∀ part ∈ readAll t, part.Ends := by
  unfold readAll
  split
  · next before attrs after hfind =>
    obtain ⟨s, -, hhere, -⟩ := Tag.exists_here?_of_find? hfind
    exact List.forall_mem_cons.2 ⟨trivial, List.forall_mem_cons.2
      ⟨(Tag.ends_of_here? hhere).2, ends_of_mem_readBlocks⟩⟩
  · exact ends_of_mem_readBlocks

/-- The attributes of the tag of a part that is written anew. -/
def attributes : Part → List Attribute
  | html _ => []
  | root attrs => Tag.attributes attrs
  | block b => Tag.attributes b.codeAttrs

/-- A tag ends as it is written if no name in it holds a `>` or begins with a quote. -/
theorem ends_rewritten {part : Part} (h : ∀ a ∈ part.attributes, Attribute.EndsNoTag a.1) :
    part.rewritten.Ends := by
  have htag : ∀ attrs : Text, (∀ a ∈ Tag.attributes attrs, Attribute.EndsNoTag a.1) →
      Tag.Ends (Tag.rewritten attrs) := by
    intro attrs hattrs
    refine Tag.ends_writeAll (Tag.isRead_rewrittenAttributes attrs) fun a ha => ?_
    unfold Tag.rewrittenAttributes Tag.withClasses at ha
    split at ha
    · exact hattrs a (List.mem_filter.1 ha).1
    · rcases List.mem_cons.1 ha with rfl | ha
      · exact Tag.isName_classAttribute.endsNoTag
      · exact hattrs a (List.mem_filter.1 ha).1
  cases part with
  | html t => trivial
  | root attrs => exact htag attrs h
  | block b => exact htag b.codeAttrs h

end Part

namespace Page

/-- Reading and writing a page once more.  What was written stays as it is if and only if
every part that is found in it is rewritten as itself.  If the tags of the page that was
read first end, and no tag begins inside of one, then the parts that are found are those
that were written if and only if each tag that was written anew ends where it was written
to end; and then nothing changes any more. -/
theorem written_again (html : Text) :
    let w := (ofHtml html).toHtml
    ((ofHtml w).toHtml = w ↔ ∀ part ∈ Part.readAll w, part.rewritten = part) ∧
      (html.TagsEnd →
        (Part.readAll w = (Part.readAll html).map Part.rewritten ↔
          ∀ part ∈ Part.readAll html, part.rewritten.Ends) ∧
        ((∀ part ∈ Part.readAll html, part.rewritten.Ends) → (ofHtml w).toHtml = w)) := by
  intro w
  have hw : w = ((Part.readAll html).map Part.rewritten).flatMap Part.text := toHtml_ofHtml html
  refine ⟨toHtml_ofHtml_eq_self_iff w, fun htags => ⟨⟨fun hparts part hpart => ?_, ?_⟩, ?_⟩⟩
  · exact Part.ends_of_mem_readAll _ (hparts ▸ List.mem_map_of_mem hpart)
  · intro hends
    rw [hw]
    exact Part.readAll_rewritten htags hends
  · intro hends
    rw [toHtml_ofHtml_eq_self_iff, hw, Part.readAll_rewritten htags hends]
    intro part hpart
    obtain ⟨part, -, rfl⟩ := List.mem_map.1 hpart
    exact part.rewritten_rewritten

/-- A page whose attributes are written in every way. -/
def unquoted : Text :=
  "<html lang=en CLASS='navy  dark'><pre id=a>\n<code data-x=1 / class=language-rust>" ++
    "a &lt; <b></code> </pre><pre>plain</pre></html>"

/-- A page whose attributes are written in every way is written with quotes, and then
stays as it is. -/
theorem written_again_unquoted :
    unquoted.TagsEnd ∧ (∀ part ∈ Part.readAll unquoted, part.rewritten.Ends) ∧
      (ofHtml unquoted).toHtml ≠ unquoted ∧
      (ofHtml (ofHtml unquoted).toHtml).toHtml = (ofHtml unquoted).toHtml := by
  have htags : unquoted.TagsEnd := by decide +kernel
  have hends : ∀ part ∈ Part.readAll unquoted, part.rewritten.Ends := by
    have hnames : ∀ part ∈ Part.readAll unquoted, ∀ a ∈ part.attributes,
      Attribute.EndsNoTag a.1 := by decide +kernel
    exact fun part hpart => Part.ends_rewritten (hnames part hpart)
  have hchanged : (ofHtml unquoted).toHtml ≠ unquoted := by decide +kernel
  exact ⟨htags, hends, hchanged, ((written_again unquoted).2 htags).2 hends⟩

/-- A quote after a stray `=` opens a value for the one who looks for the end of the tag,
but a name for the one who reads its attributes; so the tag that is written ends inside of
this name. -/
theorem not_written_again :
    (ofHtml (ofHtml "<html =\x22>\x22 foo>").toHtml).toHtml ≠
      (ofHtml "<html =\x22>\x22 foo>").toHtml := by
  decide +kernel

end Page

end PageHighlight
