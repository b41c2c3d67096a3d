/-
  Proofs/Language.lean --- one spelling for every tag.

  WHAT THIS FILE IS FOR.  A tag has one canonical spelling (`canonicalTag_canonicalTag`),
  and whether a tag is allowed depends on the canonical spelling of the tag and of the
  tags in the allow-list, on nothing else (`Config.allows_congr`).  What is noted of a
  block is a canonical spelling (`Page.canonicalTag_language`), so an allowed language is
  the canonical spelling of an entry of the list (`Config.mem_grammarNames_of_allows`).
-/
import PageHighlight.Engine.Basic
import PageHighlight.Page.Basic
import PageHighlight.Proofs.Text.LowerCase

set_option autoImplicit false

namespace PageHighlight

namespace Language

/-! ## Canonical spellings -/

/-- The name of a grammar is its canonical spelling. -/
theorem canonicalTag_of_grammar? {l : Language} {name : Text} (h : l.grammar? = some name) :
    canonicalTag name = name := by
  have hnames : ∀ l ∈ known, ∀ name ∈ l.grammar?, canonicalTag name = name := by decide +kernel
  by_cases hl : l = unknown
  · subst hl
    cases h
  · exact hnames l (by cases l <;> first | exact absurd rfl hl | decide) name h

theorem canonicalTag_plainText : canonicalTag plainText = plainText := by decide +kernel

theorem ofTag_lowercase (t : Text) : ofTag (Text.lowercase t) = ofTag t := by
  unfold ofTag
  rw [Text.lowercase_lowercase]

/-- The canonical spelling is its own canonical spelling. -/
theorem canonicalTag_canonicalTag (tag : Text) :
    canonicalTag (canonicalTag tag) = canonicalTag tag := by
  have hlower : (Text.lowercase (Text.trim tag)).IsTrimmed := (Text.isTrimmed_trim tag).lowercase
  cases hname : (ofTag (Text.trim tag)).grammar? with
  | some name =>
    have hcanonical : canonicalTag tag = name := by rw [canonicalTag, hname]
    rw [hcanonical]
    exact canonicalTag_of_grammar? hname
  | none =>
    cases hplain : plainTextTags.contains (Text.lowercase (Text.trim tag)) with
    | true =>
      have hcanonical : canonicalTag tag = plainText := by
        rw [canonicalTag, hname]
        exact if_pos hplain
      rw [hcanonical, canonicalTag_plainText]
    | false =>
      have hcanonical : canonicalTag tag = Text.lowercase (Text.trim tag) := by
        rw [canonicalTag, hname]
        exact if_neg (by rw [hplain]; exact Bool.false_ne_true)
      rw [hcanonical, canonicalTag, hlower.trim_eq, ofTag_lowercase, hname,
        Text.lowercase_lowercase]
      exact if_neg (by rw [hplain]; exact Bool.false_ne_true)

end Language

/-! ## Blocks -/

/-- The language that is noted of a block is a canonical spelling. -/
theorem Page.canonicalTag_language (classes : List Text) (t : Text) :
    Language.canonicalTag (sourceBlockOf classes t).language =
      (sourceBlockOf classes t).language := by
  unfold sourceBlockOf
  simp only
  cases Language.tagOfClasses? (classes.filter (· ≠ loadingClass)) with
  | none => exact Language.canonicalTag_plainText
  | some tag => exact Language.canonicalTag_canonicalTag tag

/-! ## Allow-lists -/

namespace Config

/-- Only canonical spellings count for what is allowed. -/
theorem allows_congr {c c' : Config} {tag tag' : Text}
    (hlist : c'.languages.map Language.canonicalTag = c.languages.map Language.canonicalTag)
    (htag : Language.canonicalTag tag' = Language.canonicalTag tag) :
    c'.allows tag' = c.allows tag := by
  have hany : ∀ (c : Config) (name : Text),
      (c.languages.any fun l => Language.canonicalTag l = name) =
        (c.languages.map Language.canonicalTag).contains name := by
    intro c name
    rw [Bool.eq_iff_iff, List.any_eq_true, List.contains_iff_mem, List.mem_map]
    simp only [decide_eq_true_eq]
  simp only [allows, htag, hany, hlist]

/-- An allowed language that is not plain text is one that the configuration asks a
grammar for, if it is spelled canonically. -/
theorem mem_grammarNames_of_allows {c : Config} {language : Text}
    (hcanonical : Language.canonicalTag language = language) (hallowed : c.allows language = true)
    (hplain : language ≠ Language.plainText) : language ∈ Engine.grammarNames c := by
  simp only [allows, hcanonical, Bool.or_eq_true, decide_eq_true_eq, List.any_eq_true] at hallowed
  obtain ⟨l, hl, rfl⟩ := hallowed.resolve_left hplain
  exact List.mem_filter.2 ⟨List.mem_map_of_mem hl, by simpa using hplain⟩

end Config

end PageHighlight
