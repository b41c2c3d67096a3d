/-
  Proofs/Page/Rewriting.lean --- a page that was read is written part by part.

  WHAT THIS FILE IS FOR.  Writing a page that was read changes the tags that are
  understood: attributes are put into quotes, classes come first, and the source of a
  block is escaped.  `Part.rewritten` says what becomes of one part, and the page is
  written as its rewritten parts, one behind the other (`Page.toHtml_ofHtml`).  What was
  rewritten once is rewritten as itself (`Part.rewritten_rewritten`).

  WHEN NOTHING CHANGES.  A page is written as it was read if and only if each of its parts
  is rewritten as itself (`Page.toHtml_ofHtml_eq_self_iff`): what one part loses or gains
  is not made up for by the next.  Two facts about tags carry this.  Rewriting puts no
  more `>` into a tag than there were (`Tag.count_rewritten_le`), so a rewritten tag does
  not run over the end of the tag; and it drops no attribute, so it does not end before it.
-/
import PageHighlight.Proofs.Page.Slots
import PageHighlight.Proofs.Text.AsciiLower
import PageHighlight.Proofs.Text.Blank

set_option autoImplicit false

namespace PageHighlight

/-! ## What readers find in a tag -/

namespace Tag

theorem inName_toLower {c : Char} (h : inName c = true) : inName c.toLower = true := by
  rcases Text.toLower_cases c with hc | hc
  · rwa [hc]
  · have hletters : Text.smallLetters.all inName = true := by decide +kernel
    exact List.all_eq_true.1 hletters _ hc

/-- What is taken off a text as an attribute: a stray character, or a name and what
follows it up to a place where the text does not go on with a blank. -/
theorem takeAttribute_cases (t : Text) :
    (∃ rest, t.takeWhile inName = [] ∧ takeAttribute t = (none, rest) ∧ rest <:+ t ∧
      rest.head?.map Text.isBlank ≠ some true) ∨
    ∃ name value behind rest, name ≠ [] ∧ (∀ c ∈ name, inName c = true) ∧ t = name ++ behind ∧
      takeAttribute t = (some (Text.asciiLower name, value), rest) ∧ rest <:+ behind ∧
      rest.head?.map Text.isBlank ≠ some true := by
  have hsplit : t = t.takeWhile inName ++ t.dropWhile inName :=
    List.takeWhile_append_dropWhile.symm
  have htrim : ∀ u : Text, Text.trimStart u <:+ u := fun u => List.dropWhile_suffix _
  have hvalue : ∀ u : Text, (takeValue u).2 <:+ u := by
    intro u
    unfold takeValue
    split
    · exact List.suffix_refl _
    · split
      · exact ((List.drop_suffix 1 _).trans (List.dropWhile_suffix _)).trans
          (List.suffix_cons _ _)
      · exact List.dropWhile_suffix _
  by_cases hname : (t.takeWhile inName).isEmpty = true
  · have he : takeAttribute t = (none, Text.trimStart (t.drop 1)) := by
      simp only [takeAttribute, hname, if_true]
    exact .inl ⟨_, List.isEmpty_iff.1 hname, he, (htrim _).trans (List.drop_suffix 1 t),
      Text.head?_trimStart _⟩
  · have hne : t.takeWhile inName ≠ [] := by simpa using hname
    have hchars : ∀ c ∈ t.takeWhile inName, inName c = true :=
      List.all_eq_true.1 List.all_takeWhile
    simp only [takeAttribute, hname, Bool.false_eq_true, if_false]
    split
    · next v hv =>
      have hbehind : v <:+ t.dropWhile inName := (List.suffix_cons '=' v).trans (hv ▸ htrim _)
      exact .inr ⟨_, _, _, _, hne, hchars, hsplit, rfl,
        (((htrim _).trans (hvalue _)).trans (htrim v)).trans hbehind, Text.head?_trimStart _⟩
    · exact .inr ⟨_, _, _, _, hne, hchars, hsplit, rfl, htrim _, Text.head?_trimStart _⟩

/-- How the attributes of a tag are read off a text: what is stray is passed over, a name
is made lower, and behind a value no blank is left. -/
inductive ReadOff : Text → List Attribute → Prop where
  | done : ReadOff [] []
  | stray {t rest : Text} {as : List Attribute} (behind : rest <:+ t)
      (starts : rest.head?.map Text.isBlank ≠ some true) (others : ReadOff rest as) :
      ReadOff t as
  | named {name t rest value : Text} {as : List Attribute} (nonempty : name ≠ [])
      (chars : ∀ c ∈ name, inName c = true) (behind : rest <:+ t)
      (starts : rest.head?.map Text.isBlank ≠ some true) (others : ReadOff rest as) :
      ReadOff (name ++ t) ((Text.asciiLower name, value) :: as)

theorem readOff_attributesFrom (t : Text) : ReadOff t (attributesFrom t) := by
  fun_induction attributesFrom t with
  | case1 => exact .done
  | case2 c r taken a ha ih =>
    rcases takeAttribute_cases (c :: r) with
      ⟨rest, -, he, -, -⟩ | ⟨name, value, t, rest, hne, hchars, hsplit, he, hbehind, hstarts⟩
    · cases (congrArg Prod.fst he).symm.trans ha
    · cases (congrArg Prod.fst he).symm.trans ha
      have hrest : taken.2 = rest := congrArg Prod.snd he
      rw [hsplit]
      exact .named hne hchars (hrest ▸ hbehind) (hrest ▸ hstarts) ih
  | case3 c r taken ha ih =>
    rcases takeAttribute_cases (c :: r) with
      ⟨rest, -, he, hbehind, hstarts⟩ | ⟨name, value, t, rest, -, -, -, he, -, -⟩
    · have hrest : taken.2 = rest := congrArg Prod.snd he
      exact .stray (hrest ▸ hbehind) (hrest ▸ hstarts) ih
    · cases (congrArg Prod.fst he).symm.trans ha

/-- A name in small letters, if a text that begins with it does not begin with a blank. -/
theorem isRead_asciiLower {name t : Text} (hne : name ≠ []) (hchars : ∀ c ∈ name, inName c = true)
    (hstarts : (name ++ t).head?.map Text.isBlank ≠ some true) :
    Attribute.IsRead (Text.asciiLower name) where
  chars := by
    intro c hc
    obtain ⟨d, hd, rfl⟩ := List.mem_map.1 hc
    exact inName_toLower (hchars d hd)
  starts := by
    obtain ⟨c, r, rfl⟩ := List.exists_cons_of_ne_nil hne
    have hc : Text.isBlank c = false := by simpa using hstarts
    simp [Text.asciiLower, Text.isBlank_toLower hc]
  lower := Text.asciiLower_asciiLower name

theorem ReadOff.isRead {t : Text} {as : List Attribute} (h : ReadOff t as)
    (ht : t.head?.map Text.isBlank ≠ some true) : ∀ a ∈ as, Attribute.IsRead a.1 := by
  induction h with
  | done => exact List.forall_mem_nil _
  | stray behind starts others ih => exact ih starts
  | named nonempty chars behind starts others ih =>
    exact List.forall_mem_cons.2 ⟨isRead_asciiLower nonempty chars ht, ih starts⟩

/-- The names in a tag are names as readers find them. -/
theorem isRead_attributes (t : Text) : ∀ a ∈ attributes t, Attribute.IsRead a.1 :=
  (readOff_attributesFrom _).isRead (Text.head?_trimStart t)

/-! ## Tags that are written again -/

/-- The attributes that a page that was read writes in a tag. -/
def rewrittenAttributes (attrs : Text) : List Attribute :=
  withClasses (classesOf (attributes attrs)) (othersOf (attributes attrs))

/-- The attributes of a tag as a page that was read writes them. -/
def rewritten (attrs : Text) : Text := Attribute.writeAll (rewrittenAttributes attrs)

theorem ne_of_mem_othersOf {as : List Attribute} : ∀ a ∈ othersOf as, a.1 ≠ classAttribute :=
  fun _ ha => of_decide_eq_true (List.mem_filter.1 ha).2

theorem isRead_rewrittenAttributes (attrs : Text) :
    ∀ a ∈ rewrittenAttributes attrs, Attribute.IsRead a.1 := by
  have hothers : ∀ a ∈ othersOf (attributes attrs), Attribute.IsRead a.1 :=
    fun a ha => isRead_attributes attrs a (List.mem_filter.1 ha).1
  unfold rewrittenAttributes withClasses
  split
  · exact hothers
  · exact List.forall_mem_cons.2 ⟨isName_classAttribute.isRead, hothers⟩

theorem isWord_of_mem_classesOf {as : List Attribute} : ∀ c ∈ classesOf as, Text.IsWord c := by
  unfold classesOf
  split
  · exact Text.isWord_words _
  · exact List.forall_mem_nil _

theorem othersOf_rewrittenAttributes (attrs : Text) :
    othersOf (rewrittenAttributes attrs) = othersOf (attributes attrs) :=
  othersOf_withClasses ne_of_mem_othersOf _

theorem classesOf_rewrittenAttributes (attrs : Text) :
    classesOf (rewrittenAttributes attrs) = classesOf (attributes attrs) :=
  classesOf_withClasses isWord_of_mem_classesOf ne_of_mem_othersOf

/-- What was written is read as it was written. -/
theorem attributes_rewritten (attrs : Text) :
    attributes (rewritten attrs) = rewrittenAttributes attrs :=
  attributes_writeAll (isRead_rewrittenAttributes attrs)

theorem rewritten_rewritten (attrs : Text) : rewritten (rewritten attrs) = rewritten attrs := by
  rw [rewritten, rewrittenAttributes, attributes_rewritten, othersOf_rewrittenAttributes,
    classesOf_rewrittenAttributes]
  rfl

/-! ## Where a rewritten tag ends -/

section Count

/-! `<` and `>` are no letters, and are written in no value, so those in a tag that is
written again are those in the names. -/

variable {d : Char} (hd : d = '<' ∨ d = '>')
include hd

theorem ReadOff.count_names_le {t : Text} {as : List Attribute} (h : ReadOff t as) :
    (as.flatMap Prod.fst).count d ≤ t.count d := by
  have hletter : d ∉ Text.smallLetters ∧ d.toLower = d := by
    rcases hd with rfl | rfl <;> decide +kernel
  induction h with
  | done => exact Nat.le_refl _
  | stray behind starts others ih => exact ih.trans (behind.sublist.count_le _)
  | named nonempty chars behind starts others ih =>
    rw [List.flatMap_cons, List.count_append, List.count_append,
      Text.count_asciiLower hletter.1 hletter.2]
    exact Nat.add_le_add_left (ih.trans (behind.sublist.count_le _)) _

theorem count_writeAll (as : List Attribute) :
    (Attribute.writeAll as).count d = (as.flatMap Prod.fst).count d := by
  induction as with
  | nil => rfl
  | cons a as ih =>
    have hvalue : (Entity.escape a.2).count d = 0 := by
      refine List.count_eq_zero.2 fun hm => ?_
      obtain ⟨hlt, hgt, -⟩ := Entity.mem_escape hm
      exact hd.elim hlt hgt
    have hplain : ([' ', '=', '\x22'] : Text).count d = 0 := by
      rcases hd with rfl | rfl <;> rfl
    rw [Attribute.writeAll_cons, List.count_append, ih, List.flatMap_cons, List.count_append,
      Attribute.write_eq, Attribute.writeHere]
    simp only [List.count_cons, List.count_append, List.count_nil, hvalue] at hplain ⊢
    omega

omit hd in
theorem count_names_othersOf_le (as : List Attribute) :
    ((othersOf as).flatMap Prod.fst).count d ≤ (as.flatMap Prod.fst).count d := by
  unfold othersOf
  induction as with
  | nil => exact Nat.le_refl _
  | cons a as ih =>
    rw [List.filter_cons, List.flatMap_cons, List.count_append]
    split
    · rw [List.flatMap_cons, List.count_append]
      exact Nat.add_le_add_left ih _
    · exact ih.trans (Nat.le_add_left _ _)

/-- Writing a tag again puts no more of them into it than there were. -/
theorem count_rewritten_le (attrs : Text) : (rewritten attrs).count d ≤ attrs.count d := by
  have hread : ((attributes attrs).flatMap Prod.fst).count d ≤ attrs.count d :=
    ((readOff_attributesFrom _).count_names_le hd).trans
      ((List.dropWhile_suffix _).sublist.count_le _)
  have hclass : ((rewrittenAttributes attrs).flatMap Prod.fst).count d =
      ((othersOf (attributes attrs)).flatMap Prod.fst).count d := by
    have hzero : classAttribute.count d = 0 := by
      rcases hd with rfl | rfl <;> rfl
    unfold rewrittenAttributes withClasses
    split
    · rfl
    · rw [List.flatMap_cons, List.count_append, hzero, Nat.zero_add]
  calc (rewritten attrs).count d
      = ((rewrittenAttributes attrs).flatMap Prod.fst).count d := count_writeAll hd _
    _ = ((othersOf (attributes attrs)).flatMap Prod.fst).count d := hclass
    _ ≤ ((attributes attrs).flatMap Prod.fst).count d := count_names_othersOf_le _
    _ ≤ attrs.count d := hread

end Count

/-- A `>` behind attributes begins another one, which is not about classes. -/
theorem othersOf_attributes_ne_nil (t : Text) : othersOf (attributes ('>' :: t)) ≠ [] := by
  have hread : ∃ name value as, attributes ('>' :: t) = ('>' :: name, value) :: as := by
    rcases takeAttribute_cases ('>' :: t) with
      ⟨-, hname, -⟩ | ⟨name, value, behind, rest, hne, -, hsplit, he, -, -⟩
    · rw [List.takeWhile_cons_of_pos (by decide)] at hname
      exact absurd hname (List.cons_ne_nil _ _)
    · obtain ⟨c, name, rfl⟩ := List.exists_cons_of_ne_nil hne
      obtain rfl : '>' = c := (List.cons.inj hsplit).1
      refine ⟨Text.asciiLower name, value, attributesFrom rest, ?_⟩
      rw [attributes, Text.trimStart, List.dropWhile_cons_of_neg (by decide), attributesFrom, he]
      rfl
  obtain ⟨name, value, as, he⟩ := hread
  rw [he, othersOf, List.filter_cons_of_pos (by simp [classAttribute])]
  exact List.cons_ne_nil _ _

/-- If a tag and the rewritten tag are beginnings of one text, they are the same. -/
theorem rewritten_eq_of_append {attrs t t' : Text}
    (h : rewritten attrs ++ '>' :: t = attrs ++ '>' :: t') : rewritten attrs = attrs := by
  rcases List.append_eq_append_iff.1 h with ⟨b, hattrs, ht⟩ | ⟨b, hrewritten, ht⟩
  · cases b with
    | nil => exact ((List.append_nil _).symm.trans hattrs.symm)
    | cons c b =>
      -- the attributes that were read would be all that were written and one more
      obtain rfl : '>' = c := (List.cons.inj ht).1
      have hread : attributes attrs = rewrittenAttributes attrs ++ attributes ('>' :: b) := by
        conv => lhs; rw [hattrs]
        exact attributes_writeAll_append (isRead_rewrittenAttributes attrs) _
      have hsame : othersOf (attributes attrs) =
          othersOf (attributes attrs) ++ othersOf (attributes ('>' :: b)) :=
        calc othersOf (attributes attrs)
            = othersOf (rewrittenAttributes attrs ++ attributes ('>' :: b)) :=
              congrArg othersOf hread
          _ = othersOf (rewrittenAttributes attrs) ++ othersOf (attributes ('>' :: b)) :=
              List.filter_append _ _
          _ = othersOf (attributes attrs) ++ othersOf (attributes ('>' :: b)) := by
              rw [othersOf_rewrittenAttributes]
      exact absurd (List.self_eq_append_right.1 hsame) (othersOf_attributes_ne_nil b)
  · cases b with
    | nil => exact hrewritten.trans (List.append_nil _)
    | cons c b =>
      obtain rfl : '>' = c := (List.cons.inj ht).1
      have hcount := count_rewritten_le (.inr rfl) attrs
      rw [hrewritten, List.count_append, List.count_cons_self] at hcount
      omega

end Tag

/-! ## Parts that are written again -/

namespace CodeBlock

/-- A block as a page that was read writes it. -/
def rewritten (b : CodeBlock) : CodeBlock where
  preAttrs := b.preAttrs
  gap := []
  codeAttrs := Tag.rewritten b.codeAttrs
  source := Entity.escape (Entity.decode b.source)
  endGap := []

theorem rewritten_rewritten (b : CodeBlock) : b.rewritten.rewritten = b.rewritten := by
  simp only [rewritten, Tag.rewritten_rewritten, Entity.decode_escape]

/-- No tag begins in its source. -/
theorem not_mem_rewritten_source (b : CodeBlock) : '<' ∉ b.rewritten.source :=
  fun hm => (Entity.mem_escape hm).1 rfl

/-- If readers find a block where the rewritten block stands, the two are the same. -/
theorem rewritten_eq_of_read? {preAttrs t after r : Text} {b : CodeBlock}
    (hread : read? preAttrs t = some (b, after)) (ht : t = b.rewritten.body ++ r) :
    b.rewritten = b ∧ r = after := by
  obtain ⟨t', hcode, hsource, hblank, hendBlank⟩ := exists_of_read? hread
  have hbody : t = '<' :: "code".toList ++ (Tag.rewritten b.codeAttrs ++
      '>' :: (b.rewritten.source ++ ('<' :: "/code>".toList ++ ("</pre>".toList ++ r)))) := by
    simpa [body, rewritten] using ht
  have htrim : Text.trimStart t = t := by
    rw [hbody]
    rfl
  have htag : t = '<' :: "code".toList ++ (b.codeAttrs ++ '>' :: t') := by
    have := Tag.eq_of_here? hcode
    rwa [htrim, List.append_assoc] at this
  have htags := List.append_cancel_left (hbody.symm.trans htag)
  have hattrs : Tag.rewritten b.codeAttrs = b.codeAttrs := Tag.rewritten_eq_of_append htags
  rw [hattrs] at htags
  have ht' := (List.cons.inj (List.append_cancel_left htags)).2
  have hfree : ¬ ('<' :: "/code>".toList) <:+: b.rewritten.source :=
    fun hi => b.not_mem_rewritten_source (hi.subset List.mem_cons_self)
  have hsplit := Text.split?_append_of_free (by decide) hfree ("</pre>".toList ++ r)
  rw [ht'] at hsplit
  obtain ⟨hsame, hrest⟩ : b.rewritten.source = b.source ∧
      "</pre>".toList ++ r = b.endGap ++ ("</pre>".toList ++ after) :=
    Prod.mk.inj (Option.some.inj (hsplit.symm.trans hsource))
  have hendGap : b.endGap = [] := Text.eq_nil_of_begins (by decide) hendBlank ⟨_, hrest.symm⟩
  have hgap : b.gap = [] := by
    have hwhole : b.gap <+: b.body ++ after := by
      simp only [body, List.append_assoc]
      exact List.prefix_append _ _
    rw [← (eq_of_read? hread).2, hbody] at hwhole
    exact Text.eq_nil_of_begins (by decide) hblank hwhole
  have hb : (⟨b.preAttrs, [], b.codeAttrs, b.source, []⟩ : CodeBlock) = b := by
    obtain ⟨preAttrs, gap, codeAttrs, source, endGap⟩ := b
    cases hgap
    cases hendGap
    rfl
  constructor
  · refine Eq.trans ?_ hb
    rw [← hsame, rewritten, hattrs]
  · rw [hendGap] at hrest
    exact List.append_cancel_left hrest

end CodeBlock

namespace Part

/-- A part as a page that was read writes it. -/
def rewritten : Part → Part
  | html t => html t
  | root attrs => root (Tag.rewritten attrs)
  | block b => block b.rewritten

theorem rewritten_rewritten (part : Part) : part.rewritten.rewritten = part.rewritten := by
  cases part with
  | html t => rfl
  | root attrs => exact congrArg root (Tag.rewritten_rewritten attrs)
  | block b => exact congrArg block b.rewritten_rewritten

/-- If rewritten blocks are the text that they were read from, each is as it was. -/
theorem rewritten_eq_of_readBlocks {t : Text}
    (h : ((readBlocks t).map rewritten).flatMap text = t) :
    ∀ part ∈ readBlocks t, part.rewritten = part := by
  fun_induction readBlocks t with
  | case1 t hfind => simp [rewritten]
  | case2 t before preAttrs after hfind b rest hread ih =>
    obtain ⟨hpre, -⟩ := CodeBlock.eq_of_read? hread
    have hpieces : before ++ (CodeBlock.preTag preAttrs ++ (b.rewritten.body ++
        ((readBlocks rest).map rewritten).flatMap text)) =
          before ++ (CodeBlock.preTag preAttrs ++ after) := by
      refine Eq.trans ?_ (h.trans ((Tag.eq_of_find? hfind).trans ?_))
      · simp [rewritten, text, CodeBlock.text, CodeBlock.rewritten, hpre]
      · simp [CodeBlock.preTag]
    have hafter := (List.append_cancel_left (List.append_cancel_left hpieces)).symm
    obtain ⟨hb, hrest⟩ := CodeBlock.rewritten_eq_of_read? hread hafter
    exact List.forall_mem_cons.2 ⟨rfl, List.forall_mem_cons.2 ⟨congrArg block hb, ih hrest⟩⟩
  | case3 t before preAttrs after hfind hread ih =>
    have hpieces : (before ++ CodeBlock.preTag preAttrs) ++
        ((readBlocks after).map rewritten).flatMap text =
          (before ++ CodeBlock.preTag preAttrs) ++ after := by
      refine h.trans ((Tag.eq_of_find? hfind).trans ?_)
      simp [CodeBlock.preTag]
    have hafter := List.append_cancel_left hpieces
    exact List.forall_mem_cons.2 ⟨rfl, ih hafter⟩

/-- If rewritten parts are the text that they were read from, each is as it was. -/
theorem rewritten_eq_of_readAll {t : Text} (h : ((readAll t).map rewritten).flatMap text = t) :
    ∀ part ∈ readAll t, part.rewritten = part := by
  unfold readAll at h ⊢
  split at h
  · next before attrs after hfind =>
    have hpieces : before ++ ("<html".toList ++ (Tag.rewritten attrs ++
        '>' :: ((readBlocks after).map rewritten).flatMap text)) =
          before ++ ("<html".toList ++ (attrs ++ '>' :: after)) := by
      refine Eq.trans ?_ (h.trans ((Tag.eq_of_find? hfind).trans ?_))
      · simp [rewritten, text]
      · simp
    have htags := List.append_cancel_left (List.append_cancel_left hpieces)
    have hattrs := Tag.rewritten_eq_of_append htags
    rw [hattrs] at htags
    have hafter := (List.cons.inj (List.append_cancel_left htags)).2
    exact List.forall_mem_cons.2 ⟨rfl, List.forall_mem_cons.2
      ⟨congrArg root hattrs, rewritten_eq_of_readBlocks hafter⟩⟩
  · next hfind =>
    exact rewritten_eq_of_readBlocks h

end Part

namespace Page

/-! ## Pages that are written again -/

/-- The blocks that the segments of a page tell are in its slots. -/
def HasItsBlocks (p : Page) : Prop := ∀ i, .block i ∈ p.segments → i < p.slots.length

/-- Segments are written the same on a page with more slots, and those of no root element
also on one with another root. -/
theorem flatMap_writeSegment_congr {p q : Page} (h : p.HasItsBlocks)
    (hslots : p.slots <+: q.slots) (hroot : .root ∈ p.segments → q.root = p.root) :
    p.segments.flatMap q.writeSegment = p.toHtml := by
  refine List.flatMap_congr fun seg hseg => ?_
  cases seg with
  | html t => rfl
  | root => exact congrArg rootTag (hroot hseg)
  | block i =>
    have hi := h i hseg
    have hthere : q.slots[i]? = p.slots[i]? := by
      obtain ⟨more, hmore⟩ := hslots
      rw [← hmore, List.getElem?_append_left hi]
    simp only [writeSegment, hthere]

/-- A part that is added is written behind what was there, as the rewritten part. -/
theorem toHtml_addPart {p : Page} (h : p.HasItsBlocks) {part : Part}
    (hroot : ∀ attrs, part = .root attrs → .root ∉ p.segments) :
    (p.addPart part).toHtml = p.toHtml ++ part.rewritten.text := by
  cases part with
  | html t =>
    have hthere := flatMap_writeSegment_congr (q := p.addPart (.html t)) h
      (List.prefix_refl _) fun _ => rfl
    simp only [addPart] at hthere ⊢
    rw [toHtml, List.flatMap_append, hthere]
    simp [writeSegment, Part.rewritten, Part.text]
  | root attrs =>
    have hthere := flatMap_writeSegment_congr (q := p.addPart (.root attrs)) h
      (List.prefix_refl _) fun hm => absurd hm (hroot attrs rfl)
    simp only [addPart] at hthere ⊢
    rw [toHtml, List.flatMap_append, hthere]
    simp [writeSegment, rootTag, Markup.startTag, Part.rewritten, Part.text, Tag.rewritten,
      Tag.rewrittenAttributes]
  | block b =>
    have hthere := flatMap_writeSegment_congr (q := p.addPart (.block b)) h
      (List.prefix_append _ _) fun _ => rfl
    simp only [addPart, pushBlock] at hthere ⊢
    rw [toHtml, List.flatMap_append, hthere]
    simp [writeSegment, writeSlot, writeSource, Markup.startTag, Part.rewritten, Part.text,
      CodeBlock.text, CodeBlock.body, CodeBlock.rewritten, Tag.rewritten, Tag.rewrittenAttributes]

theorem HasItsBlocks.addPart {p : Page} (h : p.HasItsBlocks) (part : Part) :
    (p.addPart part).HasItsBlocks := by
  intro i hi
  cases part with
  | block b =>
    have hlength : (p.addPart (.block b)).slots.length = p.slots.length + 1 := by
      simp [Page.addPart, pushBlock]
    rcases List.mem_append.1 hi with hi | hi
    · have := h i hi
      omega
    · cases List.mem_singleton.1 hi
      omega
  | _ =>
    rcases List.mem_append.1 hi with hi | hi
    · exact h i hi
    · cases List.mem_singleton.1 hi

theorem toHtml_foldl_addPart (parts : List Part) (hparts : ∀ attrs, .root attrs ∉ parts)
    {p : Page} (h : p.HasItsBlocks) :
    (parts.foldl addPart p).toHtml = p.toHtml ++ (parts.map Part.rewritten).flatMap Part.text := by
  induction parts generalizing p with
  | nil => simp
  | cons part parts ih =>
    have hpart : ∀ attrs, part = .root attrs → .root ∉ p.segments :=
      fun attrs he => absurd (he ▸ List.mem_cons_self) (hparts attrs)
    rw [List.foldl_cons, ih (fun attrs hm => hparts attrs (List.mem_cons_of_mem _ hm))
      (h.addPart part), toHtml_addPart h hpart, List.map_cons, List.flatMap_cons,
      List.append_assoc]

/-- A page that was read is written as its rewritten parts. -/
theorem toHtml_ofHtml (t : Text) :
    (ofHtml t).toHtml = ((Part.readAll t).map Part.rewritten).flatMap Part.text := by
  have hempty : empty.HasItsBlocks := fun i hi => absurd hi (List.not_mem_nil)
  unfold ofHtml ofParts Part.readAll
  split
  · next before attrs after hfind =>
    have hbefore := hempty.addPart (.html before)
    rw [List.foldl_cons, List.foldl_cons, toHtml_foldl_addPart _
      (fun _ => Part.not_root_of_mem_readBlocks) (hbefore.addPart (.root attrs)),
      toHtml_addPart hbefore fun _ _ => by simp [addPart, empty],
      toHtml_addPart hempty fun _ he => by cases he]
    simp [toHtml, empty]
  · exact toHtml_foldl_addPart _ (fun _ => Part.not_root_of_mem_readBlocks) hempty

/-- A page is written as it was read if and only if each of its parts is. -/
theorem toHtml_ofHtml_eq_self_iff (t : Text) :
    (ofHtml t).toHtml = t ↔ ∀ part ∈ Part.readAll t, part.rewritten = part := by
  rw [toHtml_ofHtml]
  constructor
  · exact Part.rewritten_eq_of_readAll
  · intro h
    rw [List.map_congr_left h, List.map_id', Part.flatMap_text_readAll]

end Page

end PageHighlight
