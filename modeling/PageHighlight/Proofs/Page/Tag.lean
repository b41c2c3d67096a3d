/-
  Proofs/Page/Tag.lean --- reading a start tag gives back what was written in it.

  WHAT THIS FILE IS FOR.  Attributes are written with their values escaped and in
  quotes, and readers undo this.  For every name that readers find (`Attribute.IsRead`)
  the attributes are read as they were (`attributes_writeAll`), and so are the classes
  (`classesOf_withClasses`).  For names that hold no `>` and do not begin with a quote
  (`Attribute.EndsNoTag`) the tag also ends where it was written to end
  (`close?_writeAll`).  A name that could stand in a tag at all (`Attribute.IsName`) is
  both.

  SEARCHING.  A search for a tag passes over every text that holds no `<`, and over
  every text in which no such tag begins if a `<` follows it (`find?_append_of_isFreeOf`):
  the beginning of a tag has no second `<`, so it cannot lie across the place where such a
  text ends (`afterName?_append`).
-/
import PageHighlight.Page.Tag
import PageHighlight.Proofs.Entity

set_option autoImplicit false

namespace PageHighlight

/-! ## Names -/

/-- A character of a name that tags can be written with and read again. -/
def Attribute.inWrittenName (c : Char) : Bool :=
  !(Text.isBlank c || c = '=' || c = '/' || c = '<' || c = '>' || c = '\x22' || c = '\x27' ||
    c.isUpper)

/-- A name that tags can be written with and read again. -/
def Attribute.IsName (name : Text) : Prop :=
  name ≠ [] ∧ ∀ c ∈ name, Attribute.inWrittenName c = true

instance (name : Text) : Decidable (Attribute.IsName name) :=
  decidable_of_iff (name.isEmpty = false ∧ name.all Attribute.inWrittenName = true) (by
    rw [List.isEmpty_eq_false_iff, List.all_eq_true]
    rfl)

/-- A name as readers find it. -/
structure Attribute.IsRead (name : Text) : Prop where
  chars : ∀ c ∈ name, Tag.inName c = true
  starts : name.head?.map Text.isBlank = some false
  lower : Text.asciiLower name = name

/-- A name that neither ends the tag in which it is written nor opens a value there. -/
def Attribute.EndsNoTag (name : Text) : Prop :=
  '>' ∉ name ∧ name.head?.map Tag.isQuote ≠ some true

instance (name : Text) : Decidable (Attribute.EndsNoTag name) :=
  inferInstanceAs (Decidable (_ ∧ _))

namespace Attribute

theorem not_isBlank_of_inWrittenName {c : Char} (h : inWrittenName c = true) :
    Text.isBlank c = false := by
  simp only [inWrittenName, Bool.not_eq_true', Bool.or_eq_false_iff] at h
  simp [h]

theorem not_isAsciiBlank_of_inWrittenName {c : Char} (h : inWrittenName c = true) :
    Text.isAsciiBlank c = false := by
  cases hblank : Text.isAsciiBlank c with
  | false => rfl
  | true =>
    have := Text.isBlank_of_isAsciiBlank hblank
    rw [not_isBlank_of_inWrittenName h] at this
    cases this

theorem inName_of_inWrittenName {c : Char} (h : inWrittenName c = true) : Tag.inName c = true := by
  have hblank := not_isAsciiBlank_of_inWrittenName h
  simp only [inWrittenName, Bool.not_eq_true', Bool.or_eq_false_iff] at h
  simp [Tag.inName, hblank, h]

theorem toLower_of_inWrittenName {c : Char} (h : inWrittenName c = true) : c.toLower = c := by
  have hupper : c.isUpper = false := by
    simp only [inWrittenName, Bool.not_eq_true', Bool.or_eq_false_iff] at h
    exact h.2
  unfold Char.toLower
  exact dif_neg (of_decide_eq_false hupper)

theorem IsName.asciiLower {name : Text} (h : IsName name) : Text.asciiLower name = name := by
  unfold Text.asciiLower
  rw [List.map_congr_left fun c hc => toLower_of_inWrittenName (h.2 c hc), List.map_id']

theorem IsRead.exists_cons {name : Text} (h : IsRead name) :
    ∃ c r, name = c :: r ∧ Text.isBlank c = false := by
  cases name with
  | nil => exact absurd h.starts (by simp)
  | cons c r => exact ⟨c, r, rfl, by simpa using h.starts⟩

theorem IsName.isRead {name : Text} (h : IsName name) : IsRead name where
  chars c hc := inName_of_inWrittenName (h.2 c hc)
  starts := by
    obtain ⟨c, r, rfl⟩ := List.exists_cons_of_ne_nil h.1
    simp [not_isBlank_of_inWrittenName (h.2 c List.mem_cons_self)]
  lower := h.asciiLower

theorem IsName.endsNoTag {name : Text} (h : IsName name) : EndsNoTag name := by
  have hchars : ∀ c ∈ name, c ≠ '>' ∧ Tag.isQuote c = false := by
    intro c hc
    have hin := h.2 c hc
    simp only [inWrittenName, Bool.not_eq_true', Bool.or_eq_false_iff,
      decide_eq_false_iff_not] at hin
    simp [Tag.isQuote, hin]
  obtain ⟨c, r, rfl⟩ := List.exists_cons_of_ne_nil h.1
  exact ⟨fun hm => (hchars _ hm).1 rfl, by simp [(hchars c List.mem_cons_self).2]⟩

/-- An attribute as it is written, after the space. -/
def writeHere (a : Attribute) : Text := a.1 ++ '=' :: '\x22' :: Entity.escape a.2 ++ ['\x22']

theorem write_eq (a : Attribute) : a.write = ' ' :: a.writeHere := by
  simp [write, writeHere]

@[simp] theorem writeAll_nil : writeAll [] = [] := rfl

@[simp] theorem writeAll_cons (a : Attribute) (as : List Attribute) :
    writeAll (a :: as) = a.write ++ writeAll as := rfl

/-- No tag begins inside of written attributes. -/
theorem not_mem_writeAll {as : List Attribute} (h : ∀ a ∈ as, IsName a.1) : '<' ∉ writeAll as := by
  intro hmem
  obtain ⟨a, ha, hin⟩ := List.mem_flatMap.1 hmem
  rw [write_eq, List.mem_cons] at hin
  rcases hin with hin | hin
  · cases hin
  · simp only [writeHere, List.mem_append, List.mem_cons, List.not_mem_nil, or_false] at hin
    rcases hin with (hin | hin | hin | hin) | hin
    · have := (h a ha).2 _ hin
      revert this
      decide
    · cases hin
    · cases hin
    · exact (Entity.mem_escape hin).1 rfl
    · cases hin

end Attribute

namespace Tag

open Attribute

/-! ## Where a tag ends -/

/-- Inside of a name nothing opens a value. -/
theorem close?_append_inside {u : Text} (hin : ∀ c ∈ u, inName c = true) (hgt : '>' ∉ u)
    (t : Text) :
    close? none false (u ++ t) = (close? none false t).map fun p => (u ++ p.1, p.2) := by
  induction u with
  | nil => simp
  | cons c u ih =>
    have hc := hin c List.mem_cons_self
    simp only [inName, Bool.not_eq_true', Bool.or_eq_false_iff, decide_eq_false_iff_not] at hc
    rw [List.mem_cons, not_or] at hgt
    have hc' : ¬ c = '>' := fun he => hgt.1 he.symm
    have hstep : ∀ v, close? none false (c :: v) =
        (close? none false v).map fun p => (c :: p.1, p.2) := by
      intro v
      simp [close?, hc', hc]
    rw [List.cons_append, hstep, ih (fun d hd => hin d (List.mem_cons_of_mem _ hd)) hgt.2,
      Option.map_map]
    rfl

theorem close?_append_name {name : Text} (hread : IsRead name) (hends : EndsNoTag name)
    (afterEquals : Bool) (t : Text) :
    close? none afterEquals (name ++ t) =
      (close? none false t).map fun p => (name ++ p.1, p.2) := by
  obtain ⟨c, r, rfl, -⟩ := hread.exists_cons
  obtain ⟨hgt, hquote⟩ := hends
  rw [List.mem_cons, not_or] at hgt
  have hc := hread.chars c List.mem_cons_self
  simp only [inName, Bool.not_eq_true', Bool.or_eq_false_iff, decide_eq_false_iff_not] at hc
  have hc' : ¬ c = '>' := fun he => hgt.1 he.symm
  have hquote' : isQuote c = false := by simpa using hquote
  have hstep : ∀ v, close? none afterEquals (c :: v) =
      (close? none false v).map fun p => (c :: p.1, p.2) := by
    intro v
    simp [close?, hc', hc, hquote']
  rw [List.cons_append, hstep,
    close?_append_inside (fun d hd => hread.chars d (List.mem_cons_of_mem _ hd)) hgt.2,
    Option.map_map]
  rfl

theorem close?_append_quoted {q : Char} {value : Text} (h : q ∉ value) (afterEquals : Bool)
    (t : Text) :
    close? (some q) afterEquals (value ++ q :: t) =
      (close? none afterEquals t).map fun p => (value ++ q :: p.1, p.2) := by
  induction value with
  | nil => simp [close?]
  | cons c value ih =>
    rw [List.mem_cons, not_or] at h
    have hc : ¬ c = q := fun he => h.1 he.symm
    rw [List.cons_append, close?, if_neg hc, ih h.2, Option.map_map]
    rfl

/-- A written attribute does not end a tag. -/
theorem close?_append_write {a : Attribute} (hread : IsRead a.1) (hends : EndsNoTag a.1)
    (afterEquals : Bool) (t : Text) :
    close? none afterEquals (a.write ++ t) =
      (close? none true t).map fun p => (a.write ++ p.1, p.2) := by
  have hvalue : '\x22' ∉ Entity.escape a.2 := fun hm => (Entity.mem_escape hm).2.2.1 rfl
  have hspace : ∀ u : Text, close? none afterEquals (' ' :: u) =
      (close? none afterEquals u).map fun p => (' ' :: p.1, p.2) := fun u => rfl
  have hequals : ∀ u : Text, close? none false ('=' :: '\x22' :: u) =
      (close? (some '\x22') true u).map fun p => ('=' :: '\x22' :: p.1, p.2) := by
    intro u
    have hsteps : close? none false ('=' :: '\x22' :: u) =
        ((close? (some '\x22') true u).map fun p => ('\x22' :: p.1, p.2)).map
          fun p => ('=' :: p.1, p.2) := rfl
    rw [hsteps, Option.map_map]
    rfl
  have hwrite : a.write ++ t =
      ' ' :: (a.1 ++ '=' :: '\x22' :: (Entity.escape a.2 ++ '\x22' :: t)) := by
    simp [write_eq, writeHere]
  rw [hwrite, hspace, close?_append_name hread hends, hequals, close?_append_quoted hvalue]
  simp only [Option.map_map]
  congr 1
  funext p
  simp [write_eq, writeHere]

/-- A tag ends behind its written attributes. -/
theorem close?_writeAll {as : List Attribute} (hread : ∀ a ∈ as, IsRead a.1)
    (hends : ∀ a ∈ as, EndsNoTag a.1) (afterEquals : Bool) (t : Text) :
    close? none afterEquals (writeAll as ++ '>' :: t) = some (writeAll as, t) := by
  induction as generalizing afterEquals with
  | nil => rfl
  | cons a as ih =>
    rw [writeAll_cons, List.append_assoc,
      close?_append_write (hread a List.mem_cons_self) (hends a List.mem_cons_self),
      ih (fun a' ha' => hread a' (List.mem_cons_of_mem _ ha'))
        fun a' ha' => hends a' (List.mem_cons_of_mem _ ha')]
    rfl

/-- Where a tag ends does not depend on what follows it. -/
theorem close?_append {quote : Option Char} {afterEquals : Bool} {t attrs after : Text}
    (h : close? quote afterEquals t = some (attrs, after)) (r : Text) :
    close? quote afterEquals (attrs ++ '>' :: r) = some (attrs, r) := by
  induction t generalizing quote afterEquals attrs with
  | nil => cases h
  | cons c t ih =>
    simp only [close?] at h
    split at h
    · next q =>
      obtain ⟨⟨a, b⟩, hp, he⟩ := Option.map_eq_some_iff.1 h
      cases he
      rw [List.cons_append, close?, ih hp]
      rfl
    · split at h
      · cases h
        rfl
      · next hc =>
        obtain ⟨⟨a, b⟩, hp, he⟩ := Option.map_eq_some_iff.1 h
        cases he
        rw [List.cons_append, close?, if_neg hc]
        dsimp only
        rw [ih hp]
        rfl

/-- A tag with these attributes ends behind them. -/
def Ends (attrs : Text) : Prop := close? none false (attrs ++ ['>']) = some (attrs, [])

instance (attrs : Text) : Decidable (Ends attrs) := inferInstanceAs (Decidable (_ = _))

/-- The attributes of a tag that readers find where it is written, and in which no other
tag begins. -/
structure IsWhole (attrs : Text) : Prop where
  begins : endsName (attrs ++ ['>']) = true
  ends : Ends attrs
  noTag : '<' ∉ attrs

theorem endsName_append {attrs : Text} (h : endsName (attrs ++ ['>']) = true) (t : Text) :
    endsName (attrs ++ '>' :: t) = true := by
  cases attrs with
  | nil => rfl
  | cons c attrs => exact h

theorem afterName?_of_endsName {attrs : Text} (h : endsName (attrs ++ ['>']) = true)
    (name t : Text) :
    afterName? name ('<' :: name ++ (attrs ++ '>' :: t)) = some (attrs ++ '>' :: t) := by
  rw [afterName?, Text.dropPrefix?_eq_some.2 rfl, Option.filter_some_pos (endsName_append h t)]

/-- Behind the name of a tag comes a blank or the `>`. -/
theorem endsName_writeAll (as : List Attribute) : endsName (writeAll as ++ ['>']) = true := by
  cases as with
  | nil => rfl
  | cons a as =>
    rw [writeAll_cons, write_eq]
    rfl

theorem ends_writeAll {as : List Attribute} (hread : ∀ a ∈ as, IsRead a.1)
    (hends : ∀ a ∈ as, EndsNoTag a.1) : Ends (writeAll as) :=
  close?_writeAll hread hends false []

theorem isWhole_writeAll {as : List Attribute} (h : ∀ a ∈ as, IsName a.1) :
    IsWhole (writeAll as) where
  begins := endsName_writeAll as
  ends := ends_writeAll (fun a ha => (h a ha).isRead) fun a ha => (h a ha).endsNoTag
  noTag := not_mem_writeAll h

/-- A whole tag is read where it stands. -/
theorem IsWhole.here? {attrs : Text} (h : IsWhole attrs) (name t : Text) :
    here? name ('<' :: name ++ (attrs ++ '>' :: t)) = some (attrs, t) := by
  rw [Tag.here?, afterName?_of_endsName h.begins, Option.bind_some, close?_append h.ends]

/-! ## Searching a tag -/

/-- No tag of this name begins in a text. -/
def IsFreeOf (name t : Text) : Prop := ∀ s, s <:+ t → afterName? name s = none

/-- A whole tag is found where it stands. -/
theorem IsWhole.find? {attrs : Text} (h : IsWhole attrs) (name t : Text) :
    find? name ('<' :: name ++ (attrs ++ '>' :: t)) = some ([], attrs, t) := by
  have hname := afterName?_of_endsName h.begins name t
  rw [List.cons_append] at hname ⊢
  rw [Tag.find?, hname]
  simp only [close?_append h.ends, Option.map_some]

theorem find?_cons_of_afterName? {name : Text} {c : Char} {t : Text}
    (h : afterName? name (c :: t) = none) :
    find? name (c :: t) = (find? name t).map fun p => (c :: p.1, p.2) := by
  rw [find?, h]

theorem afterName?_eq_none {name t : Text} (h : ¬ ('<' :: name) <+: t) :
    afterName? name t = none := by
  cases ht : afterName? name t with
  | none => rfl
  | some rest => exact absurd ⟨rest, (eq_of_afterName? ht).symm⟩ h

/-- A search passes over a text in which no tag begins. -/
theorem find?_append_of_not_mem {u : Text} (h : '<' ∉ u) (name t : Text) :
    find? name (u ++ t) = (find? name t).map fun p => (u ++ p.1, p.2) := by
  induction u with
  | nil => simp
  | cons c u ih =>
    rw [List.mem_cons, not_or] at h
    have hc : afterName? name (c :: (u ++ t)) = none := by
      refine afterName?_eq_none fun hp => ?_
      exact h.1 (List.cons_prefix_cons.1 hp).1
    rw [List.cons_append, find?_cons_of_afterName? hc, ih h.2, Option.map_map]
    rfl

/-- A search passes over a tag of another name. -/
theorem find?_append_other {name u : Text} (h : '<' ∉ u) {t : Text}
    (hname : afterName? name ('<' :: (u ++ t)) = none) :
    find? name ('<' :: (u ++ t)) = (find? name t).map fun p => ('<' :: (u ++ p.1), p.2) := by
  rw [find?_cons_of_afterName? hname, find?_append_of_not_mem h, Option.map_map]
  rfl

/-- The beginning of a tag does not lie across a place where a tag begins. -/
theorem not_prefix_append {name u : Text} (hname : '<' ∉ name) {c : Char}
    (h : ¬ ('<' :: name) <+: c :: u) (t : Text) : ¬ ('<' :: name) <+: c :: u ++ '<' :: t := by
  intro hp
  have hq : (c :: u ++ ['<']) <+: c :: u ++ '<' :: t := ⟨t, by simp⟩
  rcases List.prefix_or_prefix_of_prefix hp hq with hp | hq
  · rcases List.prefix_concat_iff.1 hp with he | hp
    · rw [List.cons_append] at he
      have hname' : name = u ++ ['<'] := (List.cons.inj he).2
      exact hname (hname' ▸ List.mem_append_right u (List.mem_singleton_self _))
    · exact h hp
  · rw [List.cons_append] at hq
    have hsub := (List.cons_prefix_cons.1 hq).2.subset
    exact hname (hsub (List.mem_append_right u (List.mem_singleton_self _)))

/-- Whether a tag begins does not depend on what follows from the next tag on. -/
theorem afterName?_append {name s : Text} (hname : '<' ∉ name) (hs : s ≠ []) (t : Text) :
    afterName? name (s ++ '<' :: t) = (afterName? name s).map (· ++ '<' :: t) := by
  obtain ⟨c, u, rfl⟩ := List.exists_cons_of_ne_nil hs
  by_cases hp : ('<' :: name) <+: c :: u
  · obtain ⟨r, hr⟩ := hp
    rw [← hr, List.append_assoc, afterName?, afterName?, Text.dropPrefix?_eq_some.2 rfl,
      Text.dropPrefix?_eq_some.2 rfl]
    cases r with
    | nil => rfl
    | cons d r =>
      have hends : endsName (d :: r ++ '<' :: t) = endsName (d :: r) := rfl
      cases hd : endsName (d :: r) with
      | false =>
        rw [Option.filter_some_neg (hends.trans hd), Option.filter_some_neg hd]
        rfl
      | true =>
        rw [Option.filter_some_pos (hends.trans hd), Option.filter_some_pos hd]
        rfl
  · rw [afterName?_eq_none hp, afterName?_eq_none (not_prefix_append hname hp t)]
    rfl

theorem isFreeOf_of_absent {name t : Text} (h : ¬ ('<' :: name) <:+: t) : IsFreeOf name t :=
  fun _ hs => afterName?_eq_none fun hp => h (hp.isInfix.trans hs.isInfix)

theorem IsFreeOf.suffix {name s t : Text} (h : IsFreeOf name t) (hs : s <:+ t) : IsFreeOf name s :=
  fun _ hu => h _ (hu.trans hs)

/-- A search passes over a text in which no such tag begins, if a tag begins behind it. -/
theorem find?_append_of_isFreeOf {name u : Text} (hname : '<' ∉ name) (h : IsFreeOf name u)
    (t : Text) :
    find? name (u ++ '<' :: t) = (find? name ('<' :: t)).map fun p => (u ++ p.1, p.2) := by
  induction u with
  | nil => simp
  | cons c u ih =>
    have hc : afterName? name (c :: (u ++ '<' :: t)) = none := by
      have happend := afterName?_append hname (List.cons_ne_nil c u) t
      rwa [h _ (List.suffix_refl _)] at happend
    rw [List.cons_append, find?_cons_of_afterName? hc, ih (h.suffix (List.suffix_cons c u)),
      Option.map_map]
    rfl

/-- A whole tag is found behind a text in which no such tag begins. -/
theorem IsWhole.find?_append {attrs : Text} (h : IsWhole attrs) {name run : Text}
    (hname : '<' ∉ name) (hrun : IsFreeOf name run) (t : Text) :
    Tag.find? name (run ++ ('<' :: name ++ (attrs ++ '>' :: t))) = some (run, attrs, t) := by
  have hhere := h.find? name t
  rw [List.cons_append] at hhere ⊢
  rw [find?_append_of_isFreeOf hname hrun, hhere, Option.map_some, List.append_nil]

/-- A search finds nothing in a text in which no such tag begins. -/
theorem find?_of_isFreeOf {name u : Text} (h : IsFreeOf name u) : find? name u = none := by
  induction u with
  | nil => rfl
  | cons c u ih =>
    rw [find?_cons_of_afterName? (h _ (List.suffix_refl _)), ih (h.suffix (List.suffix_cons c u))]
    rfl

/-- A text in which no tag begins, whatever stands behind it, has none in its beginning. -/
theorem IsFreeOf.of_append {name u t : Text} (hname : '<' ∉ name)
    (h : IsFreeOf name (u ++ '<' :: t)) : IsFreeOf name u := by
  rintro s ⟨v, rfl⟩
  by_cases hne : s = []
  · rw [hne]
    rfl
  · have happend := afterName?_append hname hne t
    rw [h _ ⟨v, by simp⟩] at happend
    exact Option.map_eq_none_iff.1 happend.symm

/-- A tag that was found stands behind what was passed over, and there is none before. -/
theorem exists_here?_of_find? {name t before attrs after : Text}
    (h : find? name t = some (before, attrs, after)) :
    ∃ s, t = before ++ s ∧ here? name s = some (attrs, after) ∧
      ∀ u, u ≠ [] → u <:+ before → afterName? name (u ++ s) = none := by
  induction t generalizing before with
  | nil => cases h
  | cons c r ih =>
    cases hafter : afterName? name (c :: r) with
    | none =>
      rw [find?_cons_of_afterName? hafter] at h
      obtain ⟨⟨b, rest⟩, hp, he⟩ := Option.map_eq_some_iff.1 h
      cases he
      obtain ⟨s, rfl, hhere, hbefore⟩ := ih hp
      refine ⟨s, rfl, hhere, fun u hne hu => ?_⟩
      rcases List.suffix_cons_iff.1 hu with rfl | hu
      · exact hafter
      · exact hbefore u hne hu
    | some u =>
      rw [find?, hafter] at h
      obtain ⟨⟨a, b⟩, hclose, he⟩ := Option.map_eq_some_iff.1 h
      cases he
      exact ⟨c :: r, rfl, Option.bind_eq_some_iff.2 ⟨u, hafter, hclose⟩,
        fun v hne hv => absurd (List.suffix_nil.1 hv) hne⟩

theorem isFreeOf_of_find? {name t before attrs after : Text} (hname : '<' ∉ name)
    (h : find? name t = some (before, attrs, after)) : IsFreeOf name before := by
  obtain ⟨s, -, hhere, hbefore⟩ := exists_here?_of_find? h
  intro u hu
  by_cases hne : u = []
  · rw [hne]
    rfl
  · have hnone := hbefore u hne hu
    rw [eq_of_here? hhere, List.append_assoc, List.cons_append,
      afterName?_append hname hne] at hnone
    exact Option.map_eq_none_iff.1 hnone

/-- What stands between the name of a tag and its end begins and ends as in the text that
the tag was read from. -/
theorem ends_of_here? {name t attrs after : Text} (h : here? name t = some (attrs, after)) :
    endsName (attrs ++ ['>']) = true ∧ Ends attrs := by
  obtain ⟨rest, hafter, hclose⟩ := Option.bind_eq_some_iff.1 h
  have hends : endsName rest = true := by
    unfold afterName? at hafter
    exact (Option.filter_eq_some_iff.1 hafter).2
  refine ⟨?_, close?_append hclose []⟩
  rw [eq_of_close? hclose] at hends
  cases attrs with
  | nil => rfl
  | cons c attrs => exact hends

/-- A tag that was found is a tag without what follows it. -/
theorem here?_of_find? {name t before attrs after : Text}
    (h : find? name t = some (before, attrs, after)) :
    here? name ('<' :: name ++ attrs ++ ['>']) = some (attrs, []) := by
  obtain ⟨s, -, hhere, -⟩ := exists_here?_of_find? h
  obtain ⟨hbegins, hends⟩ := ends_of_here? hhere
  rw [here?, List.append_assoc, afterName?_of_endsName hbegins, Option.bind_some]
  exact hends

theorem suffix_of_find? {name t before attrs after : Text}
    (h : find? name t = some (before, attrs, after)) : after <:+ t := by
  rw [eq_of_find? h]
  exact (List.suffix_cons '>' after).trans (List.suffix_append _ _)

/-! ## Attributes -/

theorem trimStart_writeHere {a : Attribute} (h : IsRead a.1) (t : Text) :
    Text.trimStart (' ' :: (a.writeHere ++ t)) = a.writeHere ++ t := by
  obtain ⟨name, value⟩ := a
  obtain ⟨c, r, rfl, hblank⟩ : ∃ c r, name = c :: r ∧ Text.isBlank c = false := h.exists_cons
  have hspace : Text.trimStart (' ' :: (Attribute.writeHere (c :: r, value) ++ t)) =
      Text.trimStart (Attribute.writeHere (c :: r, value) ++ t) := rfl
  rw [hspace]
  simp only [writeHere, List.cons_append]
  exact List.dropWhile_cons_of_neg (by simp [hblank])

/-- A written attribute is read as it was. -/
theorem takeAttribute_writeHere {a : Attribute} (h : IsRead a.1) (t : Text) :
    takeAttribute (a.writeHere ++ t) = (some a, Text.trimStart t) := by
  obtain ⟨name, value⟩ := a
  have hin : ∀ c ∈ name, inName c = true := h.chars
  have hwrite : Attribute.writeHere (name, value) ++ t =
      name ++ '=' :: '\x22' :: (Entity.escape value ++ '\x22' :: t) := by
    simp [writeHere]
  have htake : (name ++ '=' :: '\x22' :: (Entity.escape value ++ '\x22' :: t)).takeWhile inName =
      name := by
    rw [List.takeWhile_append_of_pos hin]
    simp [inName]
  have hdrop : (name ++ '=' :: '\x22' :: (Entity.escape value ++ '\x22' :: t)).dropWhile inName =
      '=' :: '\x22' :: (Entity.escape value ++ '\x22' :: t) := by
    rw [List.dropWhile_append_of_pos hin]
    simp [inName]
  have hvalue : ∀ c ∈ Entity.escape value, decide (c ≠ '\x22') = true :=
    fun c hc => decide_eq_true (Entity.mem_escape hc).2.2.1
  have hquoted : takeValue ('\x22' :: (Entity.escape value ++ '\x22' :: t)) =
      (Entity.escape value, t) := by
    have hq : isQuote '\x22' = true := rfl
    simp only [takeValue, hq, if_true]
    rw [List.takeWhile_append_of_pos hvalue, List.dropWhile_append_of_pos hvalue]
    simp
  have hempty : name.isEmpty = false := by
    obtain ⟨c, r, he, -⟩ : ∃ c r, name = c :: r ∧ _ := h.exists_cons
    rw [he]
    rfl
  have hlower : Text.asciiLower name = name := h.lower
  have hequals : ∀ u, Text.trimStart ('=' :: u) = '=' :: u := fun u => rfl
  have hquote : ∀ u, Text.trimStart ('\x22' :: u) = '\x22' :: u := fun u => rfl
  rw [hwrite, takeAttribute]
  simp only [htake, hdrop, hempty, hequals, hquote, hquoted, Entity.decode_escape,
    hlower, Bool.false_eq_true, if_false]

theorem attributesFrom_writeHere {a : Attribute} (h : IsRead a.1) (t : Text) :
    attributesFrom (a.writeHere ++ t) = a :: attributesFrom (Text.trimStart t) := by
  have htake := takeAttribute_writeHere h t
  generalize hu : a.writeHere ++ t = u at htake ⊢
  cases u with
  | nil => simp [writeHere] at hu
  | cons c u => rw [attributesFrom, htake]

/-- Written attributes are read as they were, whatever stands behind them. -/
theorem attributes_writeAll_append {as : List Attribute} (h : ∀ a ∈ as, IsRead a.1) (t : Text) :
    attributes (writeAll as ++ t) = as ++ attributes t := by
  induction as with
  | nil => rfl
  | cons a as ih =>
    have ha := h a List.mem_cons_self
    rw [writeAll_cons, write_eq, List.append_assoc, List.cons_append, attributes,
      trimStart_writeHere ha, attributesFrom_writeHere ha, List.cons_append]
    congr 1
    exact ih fun a' ha' => h a' (List.mem_cons_of_mem _ ha')

theorem attributes_writeAll {as : List Attribute} (h : ∀ a ∈ as, IsRead a.1) :
    attributes (writeAll as) = as := by
  have hnil : attributes [] = [] := by
    rw [attributes, Text.trimStart, List.dropWhile_nil, attributesFrom]
  have happend := attributes_writeAll_append h []
  rwa [List.append_nil, hnil, List.append_nil] at happend

end Tag

/-! ## Classes -/

namespace Text

/-- A class that can be written among others and read again. -/
def IsWord (w : Text) : Prop := w ≠ [] ∧ ∀ c ∈ w, isBlank c = false

instance (w : Text) : Decidable (IsWord w) :=
  decidable_of_iff (w.isEmpty = false ∧ w.any isBlank = false) (by
    simp [IsWord])

theorem foldr_append_word {w : Text} (h : ∀ c ∈ w, isBlank c = false)
    (acc : Text × List Text) :
    w.foldr (fun c (acc : Text × List Text) =>
      if isBlank c then ([], if acc.1.isEmpty then acc.2 else acc.1 :: acc.2)
      else (c :: acc.1, acc.2)) acc = (w ++ acc.1, acc.2) := by
  induction w with
  | nil => rfl
  | cons c w ih =>
    rw [List.foldr_cons, ih fun d hd => h d (List.mem_cons_of_mem _ hd)]
    simp [h c List.mem_cons_self]

theorem words_word {w : Text} (h : IsWord w) : words w = [w] := by
  have hne : w.isEmpty = false := by simpa using h.1
  unfold words
  rw [foldr_append_word h.2]
  simp [hne]

/-- A word in front of a blank is the first one. -/
theorem words_append_blank {w : Text} (h : IsWord w) (t : Text) :
    words (w ++ ' ' :: t) = w :: words t := by
  have hne : w.isEmpty = false := by simpa using h.1
  have hblank : isBlank ' ' = true := by decide
  unfold words
  rw [List.foldr_append, foldr_append_word h.2, List.foldr_cons]
  simp [hne, hblank]

theorem words_join {ws : List Text} (h : ∀ w ∈ ws, IsWord w) : words (join [' '] ws) = ws := by
  induction ws with
  | nil => rfl
  | cons w ws ih =>
    have hw := h w List.mem_cons_self
    have ih := ih fun w' hw' => h w' (List.mem_cons_of_mem _ hw')
    cases ws with
    | nil => exact words_word hw
    | cons w' ws =>
      rw [join, List.append_assoc, List.singleton_append, words_append_blank hw, ih]

/-- The words of a text are words. -/
theorem isWord_words (t : Text) : ∀ w ∈ words t, IsWord w := by
  have hfold : ∀ t : Text,
      let acc := t.foldr (fun c (acc : Text × List Text) =>
        if isBlank c then ([], if acc.1.isEmpty then acc.2 else acc.1 :: acc.2)
        else (c :: acc.1, acc.2)) ([], [])
      (∀ c ∈ acc.1, isBlank c = false) ∧
        ∀ w ∈ (if acc.1.isEmpty then acc.2 else acc.1 :: acc.2), IsWord w := by
    intro t
    induction t with
    | nil => simp
    | cons c t ih =>
      obtain ⟨hword, hwords⟩ := ih
      rw [List.foldr_cons]
      cases hc : isBlank c with
      | true => exact ⟨List.forall_mem_nil _, hwords⟩
      | false =>
        have hword' : ∀ d ∈ c :: _, isBlank d = false := List.forall_mem_cons.2 ⟨hc, hword⟩
        refine ⟨hword', List.forall_mem_cons.2 ⟨⟨List.cons_ne_nil _ _, hword'⟩, ?_⟩⟩
        intro w hw
        refine hwords w ?_
        split
        · exact hw
        · exact List.mem_cons_of_mem _ hw
  exact (hfold t).2

end Text

namespace Tag

/-- Attributes that are written beside classes. -/
def AreOthers (as : List Attribute) : Prop :=
  ∀ a ∈ as, Attribute.IsName a.1 ∧ a.1 ≠ classAttribute

instance (as : List Attribute) : Decidable (AreOthers as) :=
  inferInstanceAs (Decidable (∀ a ∈ as, Attribute.IsName a.1 ∧ a.1 ≠ classAttribute))

theorem isName_classAttribute : Attribute.IsName classAttribute := by decide

theorem isName_of_mem_withClasses {classes : List Text} {others : List Attribute}
    (h : AreOthers others) : ∀ a ∈ withClasses classes others, Attribute.IsName a.1 := by
  intro a ha
  unfold withClasses at ha
  split at ha
  · exact (h a ha).1
  · rcases List.mem_cons.1 ha with rfl | ha
    · exact isName_classAttribute
    · exact (h a ha).1

theorem AreOthers.ne {as : List Attribute} (h : AreOthers as) : ∀ a ∈ as, a.1 ≠ classAttribute :=
  fun a ha => (h a ha).2

theorem filter_class_others {others : List Attribute} (h : ∀ a ∈ others, a.1 ≠ classAttribute) :
    others.filter (·.1 = classAttribute) = [] := by
  rw [List.filter_eq_nil_iff]
  intro a ha
  simpa using h a ha

/-- The classes that are written beside other attributes are read as they were. -/
theorem classesOf_withClasses {classes : List Text} {others : List Attribute}
    (hc : ∀ c ∈ classes, Text.IsWord c) (ho : ∀ a ∈ others, a.1 ≠ classAttribute) :
    classesOf (withClasses classes others) = classes := by
  unfold withClasses classesOf
  cases classes with
  | nil => simp [filter_class_others ho]
  | cons c classes =>
    simp only [List.isEmpty_cons, Bool.false_eq_true, if_false, List.filter_cons, decide_true,
      if_true, filter_class_others ho, List.getLast?_singleton]
    exact Text.words_join hc

/-- And so are the others. -/
theorem othersOf_withClasses {others : List Attribute} (ho : ∀ a ∈ others, a.1 ≠ classAttribute)
    (classes : List Text) : othersOf (withClasses classes others) = others := by
  have hothers : others.filter (·.1 ≠ classAttribute) = others := by
    rw [List.filter_eq_self]
    intro a ha
    simpa using ho a ha
  unfold withClasses othersOf
  split
  · exact hothers
  · rw [List.filter_cons, hothers]
    simp

end Tag

end PageHighlight
