/-
  Proofs/Page/Offsets.lean --- reading a page by offsets instead of by pieces.

  WHAT THIS FILE IS FOR.  `Page.ofHtml` takes a page apart and hands on what is left of
  it.  A reader may as well keep the whole page, count bytes, and cut pieces out of it
  when it knows where they begin and end; such a reader goes wrong if an offset lies
  behind the page, inside of a character, or behind the end of its own piece.  `Scan`
  is this reader, in which every such cut is a fault; `Scan.page_eq` says that no page
  makes it go wrong, and that what it reads is `Page.ofHtml`.

  PROGRESS.  The scan ends because the offset at which it goes on grows with every
  block, and with every `pre` that turns out to be none (`Scan.findTag_bounds`,
  `Scan.codeBlock_bounds`).
-/
import PageHighlight.Page.Html
import PageHighlight.Proofs.Page.Tag
import PageHighlight.Proofs.Text.Bytes

set_option autoImplicit false

namespace PageHighlight

namespace Tag

/-! ## Tags by their beginnings -/

theorem find?_of_split?_eq_none {name t : Text} (h : Text.split? ('<' :: name) t = none) :
    find? name t = none := by
  induction t with
  | nil => rfl
  | cons c r ih =>
    simp only [Text.split?] at h
    split at h
    · cases h
    · next hdrop =>
      have hafter : afterName? name (c :: r) = none := by rw [afterName?, hdrop]; rfl
      rw [find?_cons_of_afterName? hafter, ih (Option.map_eq_none_iff.1 h), Option.map_none]

/-- The first place where the beginning of a tag stands is that of the next tag, if a
name may end there; if it may not, the search goes on behind it. -/
theorem find?_of_split?_eq_some {name t before after : Text} (hname : '<' ∉ name)
    (h : Text.split? ('<' :: name) t = some (before, after)) :
    find? name t =
      if endsName after then
        (close? none false after).map fun (attrs, r) => (before, attrs, r)
      else (find? name after).map fun p => (before ++ '<' :: name ++ p.1, p.2) := by
  induction t generalizing before with
  | nil => cases h
  | cons c r ih =>
    simp only [Text.split?] at h
    split at h
    · next u hdrop =>
      cases h
      have hsplit := Text.dropPrefix?_eq_some.1 hdrop
      rw [List.cons_append] at hsplit
      obtain ⟨rfl, rfl⟩ := List.cons.inj hsplit
      have hafter : afterName? name ('<' :: (name ++ after)) =
          (some after).filter endsName := by rw [afterName?, hdrop]
      cases hends : endsName after with
      | true =>
        rw [Option.filter_some_pos hends] at hafter
        rw [find?, hafter]
        rfl
      | false =>
        rw [Option.filter_some_neg (by rw [hends])] at hafter
        rw [find?_cons_of_afterName? hafter, find?_append_of_not_mem hname, Option.map_map]
        rfl
    · next hdrop =>
      obtain ⟨⟨b, a⟩, hsplit, he⟩ := Option.map_eq_some_iff.1 h
      cases he
      have hafter : afterName? name (c :: r) = none := by rw [afterName?, hdrop]; rfl
      rw [find?_cons_of_afterName? hafter, ih hsplit]
      split <;> exact Option.map_map _ _ _

/-- A tag stands at the beginning of a text if the next one is found there. -/
theorem here?_eq_find? (name t : Text) :
    here? name t = (find? name t).bind fun p => if p.1 = [] then some p.2 else none := by
  cases t with
  | nil => rfl
  | cons c r =>
    cases hafter : afterName? name (c :: r) with
    | none =>
      rw [here?, find?_cons_of_afterName? hafter, hafter]
      cases find? name r <;> rfl
    | some u =>
      rw [here?, find?, hafter, Option.bind_some]
      dsimp only
      cases close? none false u <;> rfl

end Tag

namespace Scan

/-! ## The reader -/

/-- A piece that cannot be cut out of a page: an offset lies behind the page or inside
of a character, or the piece ends before it begins. -/
structure Fault where
  /-- The offset at which the piece begins. -/
  start : Nat
  /-- The offset at which it ends. -/
  stop : Nat
  deriving DecidableEq, Repr

/-- Cut out a piece. -/
def slice (html : Text) (start stop : Nat) : Except Fault Text :=
  match Text.slice? start stop html with
  | some t => .ok t
  | none => .error ⟨start, stop⟩

/-- Cut off everything before an offset. -/
def rest (html : Text) (start : Nat) : Except Fault Text := slice html start (Text.byteLength html)

/-- At this offset the rest of the page begins. -/
def At (html : Text) (pos : Nat) (t : Text) : Prop := ∃ a, html = a ++ t ∧ Text.byteLength a = pos

section At

variable {html t u v : Text} {pos : Nat}

theorem at_zero (html : Text) : At html 0 html := ⟨[], rfl, rfl⟩

theorem At.append (h : At html pos (u ++ t)) : At html (pos + Text.byteLength u) t := by
  obtain ⟨a, rfl, rfl⟩ := h
  exact ⟨a ++ u, by simp, by simp⟩

theorem At.slice (h : At html pos (u ++ t)) : slice html pos (pos + Text.byteLength u) = .ok u := by
  obtain ⟨a, rfl, rfl⟩ := h
  have hslice : Text.slice? (Text.byteLength a) (Text.byteLength a + Text.byteLength u)
      (a ++ (u ++ t)) = some u := Text.slice?_eq_some.2 ⟨a, t, rfl, rfl, rfl⟩
  rw [Scan.slice, hslice]

theorem At.byteLength (h : At html pos t) : Text.byteLength html = pos + Text.byteLength t := by
  obtain ⟨a, rfl, rfl⟩ := h
  exact Text.byteLength_append a t

theorem At.rest (h : At html pos t) : rest html pos = .ok t := by
  have hslice : Scan.slice html pos (pos + Text.byteLength t) = .ok t :=
    At.slice (t := []) (by rwa [List.append_nil])
  rw [Scan.rest, h.byteLength, hslice]

theorem at_of_rest (h : rest html pos = .ok t) : At html pos t := by
  unfold Scan.rest Scan.slice at h
  split at h
  · next u hu =>
    cases h
    obtain ⟨a, c, hhtml, ha, hlen⟩ := Text.slice?_eq_some.1 hu
    have hbytes := congrArg Text.byteLength hhtml
    rw [Text.byteLength_append, Text.byteLength_append] at hbytes
    have hc : c = [] := Text.eq_nil_of_byteLength (by omega)
    exact ⟨a, by rw [hhtml, hc, List.append_nil], ha⟩
  · cases h

end At

/-- Where the next start tag of a name begins, at or after an offset, and where it
ends. -/
def findTag (html name : Text) (pos : Nat) : Except Fault (Option (Nat × Nat)) :=
  match _hpos : rest html pos with
  | .error e => .error e
  | .ok t =>
    match _hfound : Text.split? ('<' :: name) t with
    | none => .ok none
    | some (before, _) =>
      let start := pos + Text.byteLength before
      let after := start + Text.byteLength ('<' :: name)
      match rest html after with
      | .error e => .error e
      | .ok u =>
        if Tag.endsName u then
          .ok ((Tag.close? none false u).map fun (attrs, _) =>
            (start, after + Text.byteLength attrs + 1))
        else findTag html name after
termination_by Text.byteLength html - pos
decreasing_by
  have hlen := (at_of_rest _hpos).byteLength
  have hbytes := congrArg Text.byteLength (Text.split?_eq_some _hfound)
  have hlt : ('<' : Char).utf8Size = 1 := rfl
  simp only [Text.byteLength_append, Text.byteLength_cons] at hbytes ⊢
  omega

/-- Where the source that begins at an offset ends, and where its block does, if it
ends as blocks do. -/
def sourceEnd (html : Text) (openEnd : Nat) : Except Fault (Option (Nat × Nat)) := do
  let t ← rest html openEnd
  match Text.split? "</code>" t with
  | none => return none
  | some (before, _) =>
    let close := openEnd + Text.byteLength before
    let afterCode := close + Text.byteLength "</code>"
    let t ← rest html afterCode
    let preClose := afterCode + Text.byteLength (t.takeWhile Text.isBlank)
    let t ← rest html preClose
    if "</pre>".toList.isPrefixOf t then
      return some (close, preClose + Text.byteLength "</pre>")
    else return none

/-- A block as the scan finds it. -/
structure Found where
  /-- The attributes of its `code`. -/
  codeAttrs : Text
  /-- The source, with its references. -/
  source : Text
  /-- Where the block ends. -/
  stop : Nat
  deriving DecidableEq, Repr

/-- The block whose `pre` has its start tag before an offset, if it is one. -/
def codeBlock (html : Text) (preEnd : Nat) : Except Fault (Option Found) := do
  let t ← rest html preEnd
  let codeStart := preEnd + Text.byteLength (t.takeWhile Text.isBlank)
  match ← findTag html "code" codeStart with
  | none => return none
  | some (start, openEnd) =>
    if start ≠ codeStart then return none
    else
      match ← sourceEnd html openEnd with
      | none => return none
      | some (close, stop) =>
        let codeAttrs ← slice html (start + Text.byteLength "<code") (openEnd - 1)
        let source ← slice html openEnd close
        return some ⟨codeAttrs, source, stop⟩

/-! ## What it finds -/

section Specs

variable {html t : Text} {pos : Nat}

theorem ok_bind {α β : Type} (x : α) (f : α → Except Fault β) :
    ((Except.ok x : Except Fault α) >>= f) = f x := rfl

theorem sourceEnd_eq (h : At html pos t) :
    sourceEnd html pos = .ok ((Text.split? "</code>" t).bind fun (source, t') =>
      (Text.dropPrefix? "</pre>" (Text.trimStart t')).map fun _ =>
        (pos + Text.byteLength source,
          pos + Text.byteLength source + Text.byteLength "</code>" +
            Text.byteLength (t'.takeWhile Text.isBlank) + Text.byteLength "</pre>")) := by
  rw [sourceEnd, h.rest, ok_bind]
  cases hsplit : Text.split? "</code>" t with
  | none => rfl
  | some p =>
    obtain ⟨source, t'⟩ := p
    rw [Text.split?_eq_some hsplit, List.append_assoc] at h
    have hafter : At html (pos + Text.byteLength source + Text.byteLength "</code>") t' :=
      h.append.append
    have hclose := hafter
    rw [← CodeBlock.takeWhile_append_trimStart t'] at hclose
    dsimp only
    rw [hafter.rest, ok_bind, hclose.append.rest, ok_bind, Option.bind_some, Text.dropPrefix?]
    split <;> rfl

theorem findTag_eq {name : Text} (hname : '<' ∉ name) (h : At html pos t) :
    findTag html name pos = .ok ((Tag.find? name t).map fun (before, attrs, _) =>
      (pos + Text.byteLength before,
        pos + Text.byteLength before + Text.byteLength ('<' :: name) +
          Text.byteLength attrs + 1)) := by
  induction hlen : t.length using Nat.strongRecOn generalizing t pos with
  | ind n ih =>
    rw [findTag]
    split
    · next he =>
      rw [h.rest] at he
      cases he
    · next u hu =>
      rw [h.rest] at hu
      cases hu
      split
      · next hsplit => rw [Tag.find?_of_split?_eq_none hsplit, Option.map_none]
      · next before after hsplit =>
        have ht := Text.split?_eq_some hsplit
        rw [ht, List.append_assoc] at h
        have hafter := h.append.append
        rw [Tag.find?_of_split?_eq_some hname hsplit]
        simp only [hafter.rest]
        split
        · rw [Option.map_map]
          rfl
        · have hshorter : after.length < n := by
            rw [← hlen, ht]
            simp only [List.length_append, List.length_cons]
            omega
          rw [ih _ hshorter hafter rfl, Option.map_map]
          congr 2
          funext ⟨b, attrs, r⟩
          simp only [Function.comp_apply, Text.byteLength_append, Prod.mk.injEq]
          omega

/-- A tag that is found stands behind what was passed over, from one offset to the
other. -/
theorem findTag_of_find? {name before attrs after : Text} (hname : '<' ∉ name)
    (h : At html pos t) (hfind : Tag.find? name t = some (before, attrs, after)) :
    let tag := '<' :: name ++ attrs ++ ['>']
    findTag html name pos = .ok (some (pos + Text.byteLength before,
        pos + Text.byteLength before + Text.byteLength tag)) ∧
      At html pos (before ++ (tag ++ after)) := by
  intro tag
  have hend : Text.byteLength ['>'] = 1 := rfl
  have htag : pos + Text.byteLength before + Text.byteLength tag =
      pos + Text.byteLength before + Text.byteLength ('<' :: name) + Text.byteLength attrs + 1 := by
    simp only [tag, Text.byteLength_append]
    omega
  have ht : t = before ++ (tag ++ after) := by rw [Tag.eq_of_find? hfind]; simp [tag]
  rw [findTag_eq hname h, hfind, htag]
  exact ⟨rfl, ht ▸ h⟩

theorem codeBlock_eq (preAttrs : Text) (h : At html pos t) :
    codeBlock html pos = .ok ((CodeBlock.read? preAttrs t).map fun (b, _) =>
      ⟨b.codeAttrs, b.source, pos + Text.byteLength b.body⟩) := by
  have hcode := h
  rw [← CodeBlock.takeWhile_append_trimStart t] at hcode
  rw [codeBlock, h.rest, ok_bind]
  dsimp only
  rw [findTag_eq (by decide) hcode.append, ok_bind, CodeBlock.read?, Tag.here?_eq_find?]
  cases hfind : Tag.find? "code" (Text.trimStart t) with
  | none => rfl
  | some p =>
    obtain ⟨before, codeAttrs, after⟩ := p
    have htag := Tag.eq_of_find? hfind
    by_cases hbefore : before = []
    · subst hbefore
      rw [htag, List.nil_append, List.append_assoc] at hcode
      have hattrs := hcode.append.append
      have hopen : At html (pos + Text.byteLength (t.takeWhile Text.isBlank) +
          Text.byteLength ('<' :: "code".toList) + Text.byteLength codeAttrs + 1) after :=
        At.append (u := ['>']) hattrs.append
      have hcodeAttrs : slice html
          (pos + Text.byteLength (t.takeWhile Text.isBlank) + Text.byteLength "<code")
          (pos + Text.byteLength (t.takeWhile Text.isBlank) +
            Text.byteLength ('<' :: "code".toList) + Text.byteLength codeAttrs + 1 - 1) =
              .ok codeAttrs := hattrs.slice
      dsimp only [Option.map_some, Option.bind_some, Option.bind_eq_bind]
      simp only [Text.byteLength_nil, Nat.add_zero, ne_eq, not_true_eq_false, if_false, if_true]
      rw [sourceEnd_eq hopen, ok_bind, Option.bind_some]
      cases hsplit : Text.split? "</code>" after with
      | none => rfl
      | some q =>
        obtain ⟨source, t'⟩ := q
        rw [Text.split?_eq_some hsplit, List.append_assoc] at hopen
        simp only [Option.bind_some]
        cases Text.dropPrefix? "</pre>" (Text.trimStart t') with
        | none => rfl
        | some rest =>
          simp only [Option.map_some, Option.bind_some, hcodeAttrs, hopen.slice, ok_bind]
          congr 3
          have hname : Text.byteLength ('<' :: "code".toList) = Text.byteLength "<code" := rfl
          have hend : Text.byteLength ['>'] = 1 := rfl
          simp only [CodeBlock.body, Text.byteLength_append]
          omega
    · have hpositive : Text.byteLength before ≠ 0 :=
        fun h => hbefore (Text.eq_nil_of_byteLength h)
      dsimp only [Option.map_some, Option.bind_some, Option.bind_eq_bind]
      rw [if_pos (by omega), if_neg hbefore]
      rfl

end Specs

/-! ## Progress -/

section Progress

variable {html name : Text} {pos : Nat}

theorem at_of_findTag {r : Option (Nat × Nat)} (h : findTag html name pos = .ok r) :
    ∃ t, At html pos t := by
  rw [findTag] at h
  split at h
  · cases h
  · next t ht => exact ⟨t, at_of_rest ht⟩

/-- A tag is found at or after the offset, and ends behind its beginning. -/
theorem findTag_bounds (hname : '<' ∉ name) {start stop : Nat}
    (h : findTag html name pos = .ok (some (start, stop))) :
    pos ≤ start ∧ start < stop ∧ stop ≤ Text.byteLength html := by
  obtain ⟨t, ht⟩ := at_of_findTag h
  rw [findTag_eq hname ht] at h
  obtain ⟨⟨before, attrs, after⟩, hfind, he⟩ := Option.map_eq_some_iff.1 (Except.ok.inj h)
  cases he
  have hlen := ht.byteLength
  have hend : ('>' : Char).utf8Size = 1 := rfl
  rw [Tag.eq_of_find? hfind] at hlen
  simp only [Text.byteLength_append, Text.byteLength_cons] at hlen ⊢
  omega

theorem codeBlock_bounds {b : Found} (h : codeBlock html pos = .ok (some b)) :
    pos < b.stop ∧ b.stop ≤ Text.byteLength html := by
  obtain ⟨t, ht⟩ : ∃ t, At html pos t := by
    rw [codeBlock] at h
    cases hrest : rest html pos with
    | error e =>
      rw [hrest] at h
      cases h
    | ok t => exact ⟨t, at_of_rest hrest⟩
  rw [codeBlock_eq [] ht] at h
  obtain ⟨⟨c, after⟩, hread, he⟩ := Option.map_eq_some_iff.1 (Except.ok.inj h)
  cases he
  have hlen := ht.byteLength
  have hclose : Text.byteLength "</pre>" = 6 := rfl
  rw [(CodeBlock.eq_of_read? hread).2] at hlen
  simp only [CodeBlock.body, Text.byteLength_append] at hlen ⊢
  omega

end Progress

/-! ## Whole pages -/

/-- Read blocks, and the HTML between them, from an offset on; also the offsets at which
the scan went on. -/
def blocks (html : Text) (pos : Nat) (p : Page) : Except Fault (List Nat × Page) :=
  match _htag : findTag html "pre" pos with
  | .error e => .error e
  | .ok none => do
    let t ← rest html pos
    return ([pos], p.addPart (.html t))
  | .ok (some (preStart, preEnd)) =>
    match _hblock : codeBlock html preEnd with
    | .error e => .error e
    | .ok (some b) => do
      let before ← slice html pos preStart
      let preTag ← slice html preStart preEnd
      let attrs := Tag.attributes b.codeAttrs
      let (offsets, p) ← blocks html b.stop ((p.addPart (.html before)).pushBlock
        (Tag.classesOf attrs) (Entity.decode b.source) preTag (Tag.othersOf attrs))
      return (pos :: offsets, p)
    | .ok none => do
      let before ← slice html pos preEnd
      let (offsets, p) ← blocks html preEnd (p.addPart (.html before))
      return (pos :: offsets, p)
termination_by Text.byteLength html - pos
decreasing_by
  · have htag := findTag_bounds (by decide) _htag
    have hblock := codeBlock_bounds _hblock
    omega
  · have htag := findTag_bounds (by decide) _htag
    omega

/-- Read a page; also the offsets at which the scan for blocks went on. -/
def page (html : Text) : Except Fault (List Nat × Page) := do
  match ← findTag html "html" 0 with
  | none => blocks html 0 Page.empty
  | some (start, stop) =>
    let attrs ← slice html (start + Text.byteLength "<html") (stop - 1)
    let before ← slice html 0 start
    blocks html stop ((Page.empty.addPart (.html before)).addPart (.root attrs))

/-- Offsets of a page from `pos` on, each behind the one before. -/
structure Advances (html : Text) (pos : Nat) (offsets : List Nat) : Prop where
  ascending : offsets.Pairwise (· < ·)
  bounds : ∀ o ∈ offsets, pos ≤ o ∧ o ≤ Text.byteLength html

theorem Advances.cons {html : Text} {pos next : Nat} {offsets : List Nat}
    (h : Advances html next offsets) (hlt : pos < next) (hle : pos ≤ Text.byteLength html) :
    Advances html pos (pos :: offsets) := by
  refine ⟨List.pairwise_cons.2 ⟨fun o ho => ?_, h.ascending⟩, fun o ho => ?_⟩
  · exact Nat.lt_of_lt_of_le hlt (h.bounds o ho).1
  · rcases List.mem_cons.1 ho with rfl | ho
    · exact ⟨Nat.le_refl _, hle⟩
    · exact ⟨Nat.le_of_lt (Nat.lt_of_lt_of_le hlt (h.bounds o ho).1), (h.bounds o ho).2⟩

theorem Advances.last {html : Text} {pos : Nat} (hle : pos ≤ Text.byteLength html) :
    Advances html pos [pos] :=
  ⟨List.pairwise_singleton _ _, fun o ho => by
    rw [List.mem_singleton.1 ho]
    exact ⟨Nat.le_refl _, hle⟩⟩

section Arms

variable {html : Text} {pos preStart preEnd : Nat} {p q : Page} {offsets : List Nat}

/-- Behind the last block there is only HTML. -/
theorem blocks_of_last {t : Text} (htag : findTag html "pre" pos = .ok none)
    (hrest : rest html pos = .ok t) :
    blocks html pos p = .ok ([pos], p.addPart (.html t)) := by
  rw [blocks]
  split
  · next he => rw [htag] at he; cases he
  · rw [hrest]
    rfl
  · next he => rw [htag] at he; cases he

/-- The scan goes on behind a block that it found. -/
theorem blocks_of_found {b : Found} {before preTag : Text}
    (htag : findTag html "pre" pos = .ok (some (preStart, preEnd)))
    (hblock : codeBlock html preEnd = .ok (some b))
    (hbefore : slice html pos preStart = .ok before)
    (hpreTag : slice html preStart preEnd = .ok preTag)
    (hnext : blocks html b.stop ((p.addPart (.html before)).pushBlock
      (Tag.classesOf (Tag.attributes b.codeAttrs)) (Entity.decode b.source) preTag
      (Tag.othersOf (Tag.attributes b.codeAttrs))) = .ok (offsets, q)) :
    blocks html pos p = .ok (pos :: offsets, q) := by
  rw [blocks]
  split
  · next he => rw [htag] at he; cases he
  · next he => rw [htag] at he; cases he
  · next he =>
    rw [htag] at he
    cases he
    split
    · next he => rw [hblock] at he; cases he
    · next he =>
      rw [hblock] at he
      cases he
      rw [hbefore, ok_bind, hpreTag, ok_bind]
      dsimp only
      rw [hnext]
      rfl
    · next he => rw [hblock] at he; cases he

/-- It goes on behind a `pre` that is no block. -/
theorem blocks_of_passed {before : Text}
    (htag : findTag html "pre" pos = .ok (some (preStart, preEnd)))
    (hblock : codeBlock html preEnd = .ok none) (hbefore : slice html pos preEnd = .ok before)
    (hnext : blocks html preEnd (p.addPart (.html before)) = .ok (offsets, q)) :
    blocks html pos p = .ok (pos :: offsets, q) := by
  rw [blocks]
  split
  · next he => rw [htag] at he; cases he
  · next he => rw [htag] at he; cases he
  · next he =>
    rw [htag] at he
    cases he
    split
    · next he => rw [hblock] at he; cases he
    · next he => rw [hblock] at he; cases he
    · rw [hbefore, ok_bind, hnext]
      rfl

end Arms

/-- Wherever the scan begins, it reads the parts that are there. -/
theorem blocks_eq {html t : Text} {pos : Nat} (h : At html pos t) (p : Page) :
    ∃ offsets, blocks html pos p = .ok (offsets, (Part.readBlocks t).foldl Page.addPart p) ∧
      Advances html pos offsets := by
  fun_induction Part.readBlocks t generalizing pos p with
  | case1 t hfind =>
    have htag : findTag html "pre" pos = .ok none := by
      rw [findTag_eq (by decide) h, hfind]
      rfl
    exact ⟨[pos], blocks_of_last htag h.rest, .last (by rw [h.byteLength]; omega)⟩
  | case2 t before preAttrs after hfind b rest hread ih =>
    obtain ⟨htag, hat⟩ := findTag_of_find? (by decide) h hfind
    obtain ⟨hpreAttrs, hbody⟩ := CodeBlock.eq_of_read? hread
    have hafter := hat.append.append
    have hblock := codeBlock_eq preAttrs hafter
    rw [hread, Option.map_some] at hblock
    have hstop := hafter
    rw [hbody] at hstop
    have hbounds := codeBlock_bounds hblock
    have htagBounds := findTag_bounds (by decide) htag
    have hpreTag : '<' :: "pre".toList ++ preAttrs ++ ['>'] = CodeBlock.preTag b.preAttrs := by
      rw [hpreAttrs]
      rfl
    obtain ⟨offsets, hrest, hoffsets⟩ :=
      ih hstop.append ((p.addPart (.html before)).addPart (.block b))
    refine ⟨pos :: offsets, ?_, hoffsets.cons (by omega) (by omega)⟩
    exact blocks_of_found htag hblock hat.slice hat.append.slice (hpreTag ▸ hrest)
  | case3 t before preAttrs after hfind hread ih =>
    obtain ⟨htag, hat⟩ := findTag_of_find? (by decide) h hfind
    have hafter := hat.append.append
    have hblock := codeBlock_eq preAttrs hafter
    rw [hread, Option.map_none] at hblock
    have htagBounds := findTag_bounds (by decide) htag
    have hpassed : slice html pos (pos + Text.byteLength before +
        Text.byteLength ('<' :: "pre".toList ++ preAttrs ++ ['>'])) =
          .ok (before ++ CodeBlock.preTag preAttrs) := by
      rw [← List.append_assoc] at hat
      have hslice := hat.slice
      rw [Text.byteLength_append, ← Nat.add_assoc] at hslice
      exact hslice
    obtain ⟨offsets, hrest, hoffsets⟩ :=
      ih hafter (p.addPart (.html (before ++ CodeBlock.preTag preAttrs)))
    exact ⟨pos :: offsets, blocks_of_passed htag hblock hpassed hrest,
      hoffsets.cons (by omega) (by omega)⟩

/-- No page makes the scan go wrong: every piece that it cuts out is there.  What it
reads is the page, and each offset at which it goes on lies behind the one before. -/
theorem page_eq (html : Text) :
    ∃ offsets, page html = .ok (offsets, Page.ofHtml html) ∧ Advances html 0 offsets := by
  rw [page, Page.ofHtml, Page.ofParts, Part.readAll]
  cases hfind : Tag.find? "html" html with
  | none =>
    rw [findTag_eq (by decide) (at_zero html), hfind]
    exact blocks_eq (at_zero html) Page.empty
  | some q =>
    obtain ⟨before, attrs, after⟩ := q
    obtain ⟨htag, hat⟩ := findTag_of_find? (by decide) (at_zero html) hfind
    have hend : Text.byteLength ['>'] = 1 := rfl
    have hattrs : slice html (0 + Text.byteLength before + Text.byteLength "<html")
        (0 + Text.byteLength before +
          Text.byteLength ('<' :: "html".toList ++ attrs ++ ['>']) - 1) = .ok attrs := by
      have hname := hat.append
      rw [List.append_assoc, List.append_assoc] at hname
      have hslice := hname.append.slice
      have hstop : 0 + Text.byteLength before +
          Text.byteLength ('<' :: "html".toList ++ attrs ++ ['>']) - 1 =
            0 + Text.byteLength before + Text.byteLength ('<' :: "html".toList) +
              Text.byteLength attrs := by
        simp only [Text.byteLength_append]
        omega
      rw [hstop]
      exact hslice
    obtain ⟨offsets, hblocks, hoffsets⟩ := blocks_eq hat.append.append
      ((Page.empty.addPart (.html before)).addPart (.root attrs))
    refine ⟨offsets, ?_, hoffsets.ascending, fun o ho => ⟨Nat.zero_le o, (hoffsets.bounds o ho).2⟩⟩
    rw [htag, ok_bind]
    dsimp only
    rw [hattrs, ok_bind, hat.slice, ok_bind, hblocks]
    rfl

end Scan

end PageHighlight
