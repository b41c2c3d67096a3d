/-
  Proofs/Markup/Shown.lean --- what a rendered block shows is what its source says.

  WHAT THIS FILE IS FOR.  The texts of tokens, the classes, the theme and the language
  of a fragment may be anything.  A reader of its HTML still comes upon one `pre`, one
  `code`, a `span` for every line and one for every run with a style, in this order,
  properly nested and with the attributes that were meant; and upon the text of the
  fragment, if the references are decoded.  Rendered blocks are made of fragments, so
  what a copy control copies is what readers see.

  WHAT IS WRITTEN.  Elements are built first and written then, values of attributes
  escaped, styles among them.  The text that comes of it is the one that is got by
  writing from left to right, styles as they are (`Fragment.toHtml_eq_written`), since a
  style holds nothing that would be escaped (`Style.escape_toCss`).
-/
import PageHighlight.Proofs.Markup.Reading
import PageHighlight.Proofs.Session.Original

set_option autoImplicit false

namespace PageHighlight

/-! ## Styles -/

namespace Entity

theorem escape_eq_self {t : Text} (h : ∀ c ∈ t, ¬IsSpecial c) : escape t = t := by
  induction t with
  | nil => rfl
  | cons c t ih =>
    rw [escape_cons, escapeChar_of_not_special (h c List.mem_cons_self),
      ih fun d hd => h d (List.mem_cons_of_mem _ hd)]
    rfl

theorem escape_append (t u : Text) : escape (t ++ u) = escape t ++ escape u := List.flatMap_append

/-- No hexadecimal digit is special. -/
theorem not_isSpecial_digitChar : ∀ k < 16, ¬IsSpecial (Nat.digitChar k) := by
  unfold IsSpecial
  decide

theorem mem_toDigitsCore {base fuel n : Nat} (hbase : 0 < base) {c : Char} {digits : Text}
    (h : c ∈ Nat.toDigitsCore base fuel n digits) : c ∈ digits ∨ ∃ k < base, c = k.digitChar := by
  induction fuel generalizing n digits with
  | zero => exact .inl h
  | succ fuel ih =>
    have hcons : c ∈ (n % base).digitChar :: digits → c ∈ digits ∨ ∃ k < base, c = k.digitChar := by
      intro hc
      rcases List.mem_cons.1 hc with rfl | hc
      · exact .inr ⟨n % base, Nat.mod_lt n hbase, rfl⟩
      · exact .inl hc
    rw [Nat.toDigitsCore] at h
    split at h
    · exact hcons h
    · rcases ih h with h | h
      · exact hcons h
      · exact .inr h

theorem escape_ofNatHex (width n : Nat) :
    escape (Text.ofNatHex width n) = Text.ofNatHex width n := by
  refine escape_eq_self fun c hc => ?_
  simp only [Text.ofNatHex, List.mem_append, List.mem_replicate] at hc
  rcases hc with ⟨-, rfl⟩ | hc
  · exact not_isSpecial_digitChar 0 (by decide)
  · rcases mem_toDigitsCore (by decide) hc with hc | ⟨k, hk, rfl⟩
    · cases hc
    · exact not_isSpecial_digitChar k hk

end Entity

/-- A colour holds nothing that would have to be escaped. -/
theorem Color.escape_toHex (c : Color) : Entity.escape c.toHex = c.toHex := by
  rw [toHex, Entity.escape_cons, Entity.escape_append, Entity.escape_append,
    Entity.escape_ofNatHex, Entity.escape_ofNatHex, Entity.escape_ofNatHex]
  rfl

/-- Nor does a style, so that it does not matter whether it is escaped. -/
theorem Style.escape_toCss (s : Style) : Entity.escape s.toCss = s.toCss := by
  have hcolor : ∀ c : Color, Entity.escape ("color:".toList ++ c.toHex) =
      "color:".toList ++ c.toHex := by
    intro c
    rw [Entity.escape_append, c.escape_toHex]
    rfl
  have hbackground : ∀ c : Color, Entity.escape (";background-color:".toList ++ c.toHex) =
      ";background-color:".toList ++ c.toHex := by
    intro c
    rw [Entity.escape_append, c.escape_toHex]
    rfl
  have hword : ∀ (on : Bool) (t : Text), Entity.escape t = t →
      Entity.escape (if on then t else []) = if on then t else [] := by
    intro on t ht
    cases on with
    | false => rfl
    | true => exact ht
  -- the equation of `toCss` takes too long to be found
  unfold toCss
  rw [Entity.escape_append, Entity.escape_append, Entity.escape_append, hcolor,
    hword s.bold _ (by decide +kernel), hword s.italic _ (by decide +kernel)]
  cases s.background with
  | none => rfl
  | some c => simp only [hbackground]

/-! ## What is written -/

/-- Words behind a first one, each with a space before it and with references. -/
def Text.furtherWords (ws : List Text) : Text := ws.flatMap fun w => ' ' :: Entity.escape w

/-- A run as it is written. -/
def Token.written (t : Token) : Text :=
  match t.style with
  | some s =>
    "<span style=\x22".toList ++ s.toCss ++ "\x22>".toList ++ Entity.escape t.text
      ++ "</span>".toList
  | none => Entity.escape t.text

/-- A line as it is written. -/
def RenderedLine.written (l : RenderedLine) : Text :=
  "<span class=\x22line".toList ++ Text.furtherWords l.classes ++ "\x22>".toList
    ++ l.tokens.flatMap Token.written ++ "</span>".toList

/-- A fragment as it is written. -/
def Fragment.written (f : Fragment) : Text :=
  "<pre class=\x22glint ".toList ++ Entity.escape f.theme ++ Text.furtherWords f.classes
    ++ "\x22 style=\x22background-color:".toList ++ f.background.toHex ++ ";color:".toList
    ++ f.foreground.toHex ++ "\x22 tabindex=\x220\x22 data-language=\x22".toList
    ++ Entity.escape f.language ++ "\x22><code>".toList
    ++ Text.unlines (f.lines.map RenderedLine.written) ++ "</code></pre>".toList

theorem Text.join_cons (sep w : Text) (ws : List Text) :
    join sep (w :: ws) = w ++ ws.flatMap (sep ++ ·) := by
  induction ws generalizing w with
  | nil => simp [join]
  | cons v ws ih => rw [join, ih, List.flatMap_cons, List.append_assoc, List.append_assoc]

theorem Entity.escape_flatMap {α : Type} (f : α → Text) (xs : List α) :
    escape (xs.flatMap f) = xs.flatMap fun x => escape (f x) := List.flatMap_assoc

/-- Classes are written as words, whether they are put together before or after. -/
theorem Entity.escape_join (w : Text) (ws : List Text) :
    escape (Text.join [' '] (w :: ws)) = escape w ++ Text.furtherWords ws := by
  rw [Text.join_cons, escape_append, escape_flatMap]
  rfl

namespace Fragment

open Markup

theorem write_tokenMarkup (t : Token) : (tokenMarkup t).write = t.written := by
  unfold tokenMarkup Token.written
  cases t.style with
  | none => rfl
  | some s =>
    simp only [write, writeAll, startTag, endTag, Attribute.writeAll, Attribute.write,
      List.flatMap_cons, List.flatMap_nil, Style.escape_toCss, List.append_nil, List.append_assoc]
    rfl

theorem write_lineMarkup (l : RenderedLine) : (lineMarkup l).write = l.written := by
  have htokens : ∀ ts : List Token, writeAll (ts.map tokenMarkup) = ts.flatMap Token.written := by
    intro ts
    induction ts with
    | nil => rfl
    | cons t ts ih => rw [List.map_cons, writeAll, write_tokenMarkup, ih, List.flatMap_cons]
  have hline : Entity.escape "line".toList = "line".toList := rfl
  unfold lineMarkup RenderedLine.written
  simp only [write, htokens, startTag, endTag, Attribute.writeAll, Attribute.write,
    List.flatMap_cons, List.flatMap_nil, Entity.escape_join, hline, List.append_nil,
    List.append_assoc]
  rfl

theorem writeAll_linesMarkup (ls : List RenderedLine) :
    writeAll (linesMarkup ls) = Text.unlines (ls.map RenderedLine.written) := by
  have hbreak : (Markup.text ['\n']).write = ['\n'] := rfl
  fun_induction linesMarkup ls with
  | case1 => rfl
  | case2 l => simp [writeAll, write_lineMarkup, Text.unlines, Text.join]
  | case3 l m ls ih =>
    rw [writeAll, writeAll, ih, write_lineMarkup, hbreak]
    simp [Text.unlines, Text.join]

/-- Elements that are built and written are the text that is written from left to right. -/
theorem toHtml_eq_written (f : Fragment) : f.toHtml = f.written := by
  have hstyle : Entity.escape ("background-color:".toList ++
      (f.background.toHex ++ (";color:".toList ++ f.foreground.toHex))) =
      "background-color:".toList ++ (f.background.toHex ++ (";color:".toList
        ++ f.foreground.toHex)) := by
    rw [Entity.escape_append, Entity.escape_append, Entity.escape_append, Color.escape_toHex,
      Color.escape_toHex]
    rfl
  have hclasses : Entity.escape (Text.join [' '] ("glint".toList :: f.theme :: f.classes)) =
      "glint ".toList ++ Entity.escape f.theme ++ Text.furtherWords f.classes := by
    rw [Entity.escape_join, Text.furtherWords, List.flatMap_cons]
    rfl
  have hzero : Entity.escape "0".toList = "0".toList := rfl
  unfold toHtml markup written
  simp only [write, writeAll, writeAll_linesMarkup, startTag, endTag, Attribute.writeAll,
    Attribute.write, List.flatMap_cons, List.flatMap_nil, hstyle, hclasses, hzero,
    List.append_nil, List.append_assoc]
  rfl

end Fragment

/-! ## Fragments -/

/-- The start tags of a line: its own, and one for each run with a style. -/
def RenderedLine.spans (l : RenderedLine) : List (Text × List Attribute) :=
  ("span".toList, [("class".toList, Text.join [' '] ("line".toList :: l.classes))]) ::
    l.tokens.filterMap fun t => t.style.map fun s => ("span".toList, [("style".toList, s.toCss)])

namespace Fragment

open Markup

/-- The attributes of the `pre` element. -/
def preAttrs (f : Fragment) : List Attribute :=
  [("class".toList, Text.join [' '] ("glint".toList :: f.theme :: f.classes)),
   ("style".toList, "background-color:".toList ++ f.background.toHex ++ ";color:".toList
      ++ f.foreground.toHex),
   ("tabindex".toList, "0".toList),
   ("data-language".toList, f.language)]

/-! ### Names -/

theorem isNamed_tokenMarkup (t : Token) : (tokenMarkup t).IsNamed := by
  have hstyle : Attribute.IsName "style".toList := by decide
  unfold tokenMarkup
  split
  · exact ⟨by decide, List.forall_mem_singleton.2 hstyle, trivial, trivial⟩
  · trivial

theorem isNamed_lineMarkup (l : RenderedLine) : (lineMarkup l).IsNamed := by
  have htokens : ∀ ts : List Token, AreNamed (ts.map tokenMarkup) := by
    intro ts
    induction ts with
    | nil => trivial
    | cons t ts ih => exact ⟨isNamed_tokenMarkup t, ih⟩
  exact ⟨by decide, List.forall_mem_singleton.2 Tag.isName_classAttribute, htokens l.tokens⟩

theorem areNamed_linesMarkup (ls : List RenderedLine) : AreNamed (linesMarkup ls) := by
  fun_induction linesMarkup ls with
  | case1 => trivial
  | case2 l => exact ⟨isNamed_lineMarkup l, trivial⟩
  | case3 l m ls ih => exact ⟨isNamed_lineMarkup l, trivial, ih⟩

theorem isNamed_markup (f : Fragment) : f.markup.IsNamed := by
  have hattrs : ∀ a ∈ f.preAttrs, Attribute.IsName a.1 := by
    simp only [preAttrs, List.forall_mem_cons]
    exact ⟨by decide, by decide, by decide, by decide, List.forall_mem_nil _⟩
  refine ⟨by decide, hattrs, ⟨by decide, List.forall_mem_nil _, ?_⟩, trivial⟩
  exact areNamed_linesMarkup f.lines

/-! ### Start tags -/

theorem starts_element (name : Text) (attrs : List Attribute) (ms : List Markup) :
    Piece.starts (pieces (.element name attrs ms)) =
      (name, attrs) :: Piece.starts (piecesAll ms) := by
  have hstart : Piece.starts (pieces (.element name attrs ms)) =
      (name, attrs) :: Piece.starts (piecesAll ms ++ [.stop name]) := rfl
  rw [hstart, Piece.starts_append]
  exact congrArg _ (List.append_nil _)

theorem starts_text (t : Text) : Piece.starts (pieces (.text t)) = [] := by
  rw [pieces, Piece.starts_map_char]

theorem starts_tokenMarkup (t : Token) : Piece.starts (tokenMarkup t).pieces =
    (t.style.map fun s => ("span".toList, [("style".toList, s.toCss)])).toList := by
  unfold tokenMarkup
  cases t.style with
  | none => exact starts_text t.text
  | some s =>
    rw [starts_element, piecesAll, piecesAll, List.append_nil, starts_text]
    rfl

theorem starts_lineMarkup (l : RenderedLine) : Piece.starts (lineMarkup l).pieces = l.spans := by
  have htokens : ∀ ts : List Token, Piece.starts (piecesAll (ts.map tokenMarkup)) =
      ts.filterMap fun t => t.style.map fun s => ("span".toList, [("style".toList, s.toCss)]) := by
    intro ts
    induction ts with
    | nil => rfl
    | cons t ts ih =>
      rw [List.map_cons, piecesAll, Piece.starts_append, ih, starts_tokenMarkup,
        List.filterMap_cons]
      cases t.style <;> rfl
  rw [lineMarkup, starts_element, htokens]
  rfl

theorem starts_linesMarkup (ls : List RenderedLine) :
    Piece.starts (piecesAll (linesMarkup ls)) = ls.flatMap RenderedLine.spans := by
  fun_induction linesMarkup ls with
  | case1 => rfl
  | case2 l => simp [piecesAll, starts_lineMarkup]
  | case3 l m ls ih =>
    rw [piecesAll, piecesAll, Piece.starts_append, Piece.starts_append, starts_lineMarkup,
      starts_text, ih]
    rfl

theorem starts_markup (f : Fragment) : Piece.starts f.markup.pieces =
    ("pre".toList, f.preAttrs) :: ("code".toList, []) :: f.lines.flatMap RenderedLine.spans := by
  rw [markup, starts_element, piecesAll, Piece.starts_append, starts_element, starts_linesMarkup]
  simp [preAttrs, piecesAll, Piece.starts]

end Fragment

/-! ## Rendered blocks -/

/-- A rendered block shows a fragment and copies its text. -/
theorem Setting.Renders.exists_fragment {s : Setting} {o : SourceBlock} {r : RenderedBlock}
    (h : s.Renders o r) : ∃ f : Fragment, r.markup = f.toHtml ∧ r.copy.text = f.text := by
  obtain ⟨engine, r', -, hrender, hr⟩ := h
  rw [hr]
  simp only [render?] at hrender
  split at hrender
  · cases hrender
  · cases hrender
    exact ⟨_, rfl, rfl⟩

/-- What readers see of a text of HTML: the tags deleted, the references decoded. -/
def Piece.shown (t : Text) : Text := Entity.decode (untagged (readAll t))

theorem Fragment.shown_toHtml (f : Fragment) : Piece.shown f.toHtml = f.text := by
  rw [Piece.shown, toHtml, Markup.readAll_write f.isNamed_markup, Markup.untagged_pieces,
    Entity.decode_escape, content_markup]

/-- What a page shows is what the sources say.  Every fragment, whatever texts, classes,
names and styles it holds, is written from left to right, colours and styles as they are and
everything else with references.  What a reader comes upon are the pieces of its elements,
one in the other, and they are properly nested: one `pre`, one `code` in it, in there a
`span` for each line and in that one for each run with a style, in order and with the
attributes they should have.  Every `<` and every `>` belongs to one of their tags.
Without the tags, the text decodes to the text of the fragment.  Therefore, after every
history of a session with a page that nobody worked on before, a rendered block copies
what it shows. -/
theorem Fragment.shows_text :
    (∀ f : Fragment,
      let ps := Piece.readAll f.toHtml
      f.toHtml = f.written ∧
      ps = f.markup.pieces ∧
      Piece.areNested [] ps = true ∧
      Piece.starts ps = ("pre".toList, f.preAttrs) :: ("code".toList, []) ::
        f.lines.flatMap RenderedLine.spans ∧
      f.toHtml.count '<' = 2 * (Piece.starts ps).length ∧
      f.toHtml.count '>' = 2 * (Piece.starts ps).length ∧
      Entity.decode (Piece.untagged ps) = f.text) ∧
    ∀ (setting : Setting) (p : Page) (es : List Event), p.IsFresh →
      ∀ n ∈ ((Session.start setting p).after es).page.blocks, ∀ r, n.content = .rendered r →
        Entity.decode (Piece.untagged (Piece.readAll r.markup)) = r.copy.text := by
  constructor
  · intro f
    have hnamed := f.isNamed_markup
    have hread : Piece.readAll f.toHtml = f.markup.pieces := Markup.readAll_write hnamed
    obtain ⟨hlt, hgt⟩ := Markup.count_write f.markup hnamed
    rw [Markup.countP_isTag_pieces] at hlt hgt
    have hnested := Markup.areNested_pieces f.markup [] []
    rw [List.append_nil] at hnested
    simp only [hread]
    exact ⟨f.toHtml_eq_written, trivial, hnested, f.starts_markup, hlt, hgt,
      hread ▸ f.shown_toHtml⟩
  · intro setting p es hp n hn r hr
    obtain ⟨slot, hslot, rfl⟩ := List.mem_map.1 hn
    have hfaithful : Page.Faithful setting p ((Session.start setting p).after es).page :=
      (Session.faithful_after hp es).page
    obtain ⟨first, -, hslot⟩ := exists_of_mem_right_of_forall₂ hfaithful hslot
    obtain ⟨o, -, hrenders⟩ := hslot.rendered r hr
    obtain ⟨f, hmarkup, htext⟩ := hrenders.exists_fragment
    rw [hmarkup, htext]
    exact f.shown_toHtml

/-- A fragment all of whose texts look like markup, and a page with a rendered block. -/
theorem Fragment.shows_text_lookalikes :
    let run : Token := ⟨"</span><script>&amp;".toList, some (Style.ofColor .black)⟩
    let f : Fragment := ⟨"a\" onclick=\"b".toList, "<".toList, .white, .black, ["'>".toList],
      [⟨[run], ["\"><b".toList]⟩]⟩
    (Piece.starts (Piece.readAll f.toHtml)).map (·.1) =
      ["pre".toList, "code".toList, "span".toList, "span".toList] ∧
    Entity.decode (Piece.untagged (Piece.readAll f.toHtml)) = "</span><script>&amp;".toList ∧
    ∃ n ∈ ((Session.start (.forRust .plain) .oneBlock).after Session.oneCycle).page.blocks,
      ∃ r, n.content = .rendered r ∧
        Entity.decode (Piece.untagged (Piece.readAll r.markup)) = r.copy.text := by
  intro run f
  obtain ⟨hfragments, hpages⟩ := shows_text
  obtain ⟨-, -, -, hstarts, -, -, htext⟩ := hfragments f
  have hfresh : Page.oneBlock.IsFresh := Page.isFresh_empty.pushBlock _ _ _ _
  have hrendered : ((Session.start (.forRust .plain) .oneBlock).after
      Session.oneCycle).page.blocks.any (·.isRendered) = true := by
    decide +kernel
  obtain ⟨n, hn, hr⟩ := List.any_eq_true.1 hrendered
  obtain ⟨r, hr⟩ := Node.isRendered_iff.1 hr
  refine ⟨?_, htext.trans (by decide +kernel), n, hn, r, hr, hpages _ _ _ hfresh n hn r hr⟩
  rw [hstarts]
  rfl

end PageHighlight
