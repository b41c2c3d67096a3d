/-
  Proofs/Markup/Tags.lean --- which tags may begin in markup.

  WHAT THIS FILE IS FOR.  Readers that look for a tag in a text pass over everything in
  which no tag of this name begins.  Texts are escaped when they are written, so only the
  tags of elements begin in markup, and these are known (`Text.TagsBegin`): in the markup
  of lines, nothing but the tags of `span` elements (`Fragment.tagsBegin_lines`).
-/
import PageHighlight.Fragment
import PageHighlight.Proofs.Entity
import PageHighlight.Proofs.Page.Tag

set_option autoImplicit false

namespace PageHighlight

/-! ## Texts with few tags -/

namespace Text

/-- Every `<` of a text is followed by one of these words. -/
def TagsBegin (words : List Text) (t : Text) : Prop :=
  ∀ a r, t = a ++ '<' :: r → ∃ w ∈ words, w <+: r

variable {words : List Text} {name t u : Text}

theorem tagsBegin_of_not_mem (h : '<' ∉ t) : TagsBegin words t := by
  rintro a r rfl
  exact absurd (List.mem_append_right a List.mem_cons_self) h

theorem TagsBegin.append (ht : TagsBegin words t) (hu : TagsBegin words u) :
    TagsBegin words (t ++ u) := by
  intro a r h
  rcases List.append_eq_append_iff.1 h with ⟨b, -, hb⟩ | ⟨b, hb, hr⟩
  · exact hu b r hb
  · cases b with
    | nil => exact hu [] r hr.symm
    | cons c b =>
      obtain ⟨rfl, rfl⟩ := List.cons.inj hr
      obtain ⟨w, hw, hprefix⟩ := ht a b hb
      exact ⟨w, hw, hprefix.trans (List.prefix_append b u)⟩

theorem tagsBegin_tag {w r : Text} (hw : w ∈ words) (h : '<' ∉ w ++ r) :
    TagsBegin words ('<' :: (w ++ r)) := by
  intro a s hs
  cases a with
  | nil =>
    obtain ⟨-, rfl⟩ := List.cons.inj hs
    exact ⟨w, hw, List.prefix_append w r⟩
  | cons c a =>
    rw [(List.cons.inj hs).2] at h
    exact absurd (List.mem_append_right a List.mem_cons_self) h

/-- A tag of another name does not begin in such a text, and not across its end. -/
theorem TagsBegin.not_infix_append (ht : TagsBegin words t)
    (hname : ∀ w ∈ words, ¬ w <+: name ∧ ¬ name <+: w) (hu : ¬ ('<' :: name) <:+: u) :
    ¬ ('<' :: name) <:+: t ++ u := by
  rintro ⟨a, b, hab⟩
  rw [List.append_assoc] at hab
  rcases List.append_eq_append_iff.1 hab.symm with ⟨c, -, hc⟩ | ⟨c, hc, hrest⟩
  · exact hu ⟨c, b, by rw [hc, List.append_assoc]⟩
  · cases c with
    | nil => exact hu ⟨[], b, hrest⟩
    | cons d c =>
      obtain ⟨rfl, hbehind⟩ : '<' = d ∧ name ++ b = c ++ u := List.cons.inj hrest
      obtain ⟨w, hw, hprefix⟩ := ht a c hc
      have hwhole : w <+: name ++ b := hbehind ▸ hprefix.trans (List.prefix_append c u)
      rcases List.prefix_or_prefix_of_prefix hwhole (List.prefix_append name b) with h | h
      · exact (hname w hw).1 h
      · exact (hname w hw).2 h

theorem TagsBegin.not_infix_self (ht : TagsBegin words t)
    (hname : ∀ w ∈ words, ¬ w <+: name ∧ ¬ name <+: w) : ¬ ('<' :: name) <:+: t := by
  have h := ht.not_infix_append (u := []) hname (by simp)
  rwa [List.append_nil] at h

/-- A tag does not begin across a place where another one begins. -/
theorem not_infix_append_tag (hname : '<' ∉ name) (ht : ¬ ('<' :: name) <:+: t)
    (hu : ¬ ('<' :: name) <:+: '<' :: u) : ¬ ('<' :: name) <:+: t ++ '<' :: u := by
  induction t with
  | nil => exact hu
  | cons c t ih =>
    have hstart : ¬ ('<' :: name) <+: c :: t := fun hp => ht hp.isInfix
    intro h
    rcases List.infix_cons_iff.1 h with h | h
    · exact Tag.not_prefix_append hname hstart u h
    · exact ih (fun hi => ht (List.infix_cons hi)) h

end Text

/-! ## Markup -/

namespace Markup

theorem tagsBegin_text (words : List Text) (t : Text) : (text t).write.TagsBegin words := by
  rw [write]
  exact Text.tagsBegin_of_not_mem fun h => (Entity.mem_escape h).1 rfl

theorem tagsBegin_startTag {words : List Text} {name : Text} {attrs : List Attribute}
    (hname : name ∈ words) (hfree : '<' ∉ name) (hattrs : ∀ a ∈ attrs, Attribute.IsName a.1) :
    (startTag name attrs).TagsBegin words := by
  have h := Text.tagsBegin_tag (r := Attribute.writeAll attrs ++ ['>']) hname (by
    simp only [List.mem_append, not_or]
    exact ⟨hfree, Attribute.not_mem_writeAll hattrs, by decide⟩)
  simpa [startTag] using h

theorem tagsBegin_endTag {words : List Text} {name : Text} (hname : '/' :: name ∈ words)
    (hfree : '<' ∉ name) : (endTag name).TagsBegin words := by
  refine Text.tagsBegin_tag (w := '/' :: name) (r := ['>']) hname ?_
  simp only [List.cons_append, List.mem_cons, List.mem_append, not_or]
  exact ⟨by decide, hfree, by decide, by simp⟩

/-- The tags of an element are its own and those in it. -/
theorem tagsBegin_element {words : List Text} {name : Text} {attrs : List Attribute}
    {ms : List Markup} (hname : name ∈ words) (hend : '/' :: name ∈ words) (hfree : '<' ∉ name)
    (hattrs : ∀ a ∈ attrs, Attribute.IsName a.1) (hms : (writeAll ms).TagsBegin words) :
    (element name attrs ms).write.TagsBegin words := by
  rw [write]
  exact ((tagsBegin_startTag hname hfree hattrs).append hms).append
    (tagsBegin_endTag hend hfree)

end Markup

namespace Fragment

open Markup

/-- The names of the tags of lines. -/
def lineTags : List Text := ["span", "/span"]

theorem tagsBegin_tokens (ts : List Token) :
    (writeAll (ts.map tokenMarkup)).TagsBegin lineTags := by
  induction ts with
  | nil => exact Text.tagsBegin_of_not_mem (List.not_mem_nil)
  | cons t ts ih =>
    refine Text.TagsBegin.append ?_ ih
    unfold tokenMarkup
    split
    · refine tagsBegin_element (by decide) (by decide) (by decide) (by simp; decide) ?_
      rw [writeAll, writeAll, List.append_nil]
      exact tagsBegin_text _ _
    · exact tagsBegin_text _ _

theorem tagsBegin_line (l : RenderedLine) : (lineMarkup l).write.TagsBegin lineTags :=
  tagsBegin_element (by decide) (by decide) (by decide)
    (List.forall_mem_singleton.2 Tag.isName_classAttribute) (tagsBegin_tokens l.tokens)

/-- Lines are written with no tags but those of `span` elements. -/
theorem tagsBegin_lines (ls : List RenderedLine) :
    (writeAll (linesMarkup ls)).TagsBegin lineTags := by
  fun_induction linesMarkup ls with
  | case1 => exact Text.tagsBegin_of_not_mem (List.not_mem_nil)
  | case2 l =>
    rw [writeAll, writeAll, List.append_nil]
    exact tagsBegin_line l
  | case3 l m ls ih => exact (tagsBegin_line l).append ((tagsBegin_text _ _).append ih)

end Fragment

end PageHighlight
