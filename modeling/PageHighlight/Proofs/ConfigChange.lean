/-
  Proofs/ConfigChange.lean --- what every change keeps.

  WHAT THIS FILE IS FOR.  A well-formed configuration lists every language once, by its
  canonical tag, and has a batch size within its bounds.  The configuration that nothing was
  said about is well formed, and every change keeps it so (`Config.WellFormed.applyAll`).  A
  language that was allowed stays allowed, under each of its tags, until the languages are
  cleared (`Config.allows_applyAll`).
-/
import Mathlib.Data.List.Nodup
import PageHighlight.ConfigChange
import PageHighlight.Proofs.Language

set_option autoImplicit false

namespace PageHighlight.Config

/-! ## Well-formed configurations -/

/-- The languages are listed once, by their canonical tags, and the batch size is within its
bounds. -/
structure WellFormed (c : Config) : Prop where
  nodup_languages : c.languages.Nodup
  canonical : ∀ l ∈ c.languages, Language.canonicalTag l = l
  one_le_batchSize : 1 ≤ c.batchSize
  batchSize_le : c.batchSize ≤ maxBatchSize

theorem wellFormed_standard (userDirectory : Text) : (standard userDirectory).WellFormed where
  nodup_languages := by
    change (standard []).languages.Nodup
    decide
  canonical := by
    change ∀ l ∈ (standard []).languages, Language.canonicalTag l = l
    decide +kernel
  one_le_batchSize := by
    change 1 ≤ 5
    decide
  batchSize_le := by
    change 5 ≤ 64
    decide

theorem one_le_clampBatchSize (n : Int) : 1 ≤ clampBatchSize n := by
  unfold clampBatchSize maxBatchSize
  omega

theorem clampBatchSize_le (n : Int) : clampBatchSize n ≤ maxBatchSize := by
  unfold clampBatchSize maxBatchSize
  omega

/-- The languages after one more was allowed. -/
theorem languages_allowLanguage (tag : Text) (c : Config) :
    (c.apply (.allowLanguage tag)).languages =
      if Language.canonicalTag tag ∈ c.languages then c.languages
      else c.languages ++ [Language.canonicalTag tag] := by
  simp only [← List.contains_iff_mem]
  exact apply_ite languages _ _ _

/-- Allowing a language changes nothing but the languages. -/
theorem batchSize_allowLanguage (tag : Text) (c : Config) :
    (c.apply (.allowLanguage tag)).batchSize = c.batchSize :=
  (apply_ite batchSize _ _ _).trans (ite_self _)

namespace WellFormed

variable {c : Config}

/-- Only the languages and the batch size count. -/
theorem congr (hc : c.WellFormed) {c' : Config} (hlanguages : c'.languages = c.languages)
    (hbatch : c'.batchSize = c.batchSize) : c'.WellFormed where
  nodup_languages := hlanguages ▸ hc.nodup_languages
  canonical := hlanguages ▸ hc.canonical
  one_le_batchSize := hbatch ▸ hc.one_le_batchSize
  batchSize_le := hbatch ▸ hc.batchSize_le

/-- A language is noted by its canonical tag, and only if it is not noted yet. -/
theorem allowLanguage (hc : c.WellFormed) (tag : Text) :
    (c.apply (.allowLanguage tag)).WellFormed := by
  by_cases hmem : Language.canonicalTag tag ∈ c.languages
  · exact hc.congr ((languages_allowLanguage tag c).trans (if_pos hmem))
      (batchSize_allowLanguage tag c)
  · have hlanguages := (languages_allowLanguage tag c).trans (if_neg hmem)
    refine ⟨?_, ?_, batchSize_allowLanguage tag c ▸ hc.one_le_batchSize,
      batchSize_allowLanguage tag c ▸ hc.batchSize_le⟩
    · rw [hlanguages, ← List.concat_eq_append]
      exact List.Nodup.concat hmem hc.nodup_languages
    · intro l hl
      rw [hlanguages, List.mem_append, List.mem_singleton] at hl
      rcases hl with hl | rfl
      · exact hc.canonical l hl
      · exact Language.canonicalTag_canonicalTag tag

/-- Every change keeps a configuration well formed. -/
theorem apply (hc : c.WellFormed) (change : ConfigChange) : (c.apply change).WellFormed := by
  cases change with
  | allowLanguage tag => exact hc.allowLanguage tag
  | clearLanguages =>
    exact ⟨List.nodup_nil, fun _ hl => absurd hl List.not_mem_nil, hc.one_le_batchSize,
      hc.batchSize_le⟩
  | batchSize n =>
    exact ⟨hc.nodup_languages, hc.canonical, one_le_clampBatchSize n, clampBatchSize_le n⟩
  | defaultTheme | darkTheme | preloadTheme | engineSource | useTransformer | excludeClass
  | darkIndicator => exact hc.congr rfl rfl

/-- So does every sequence of changes. -/
theorem applyAll (hc : c.WellFormed) (changes : List ConfigChange) :
    (c.applyAll changes).WellFormed := by
  induction changes generalizing c with
  | nil => exact hc
  | cons change changes ih => exact ih (hc.apply change)

end WellFormed

/-! ## Languages that were allowed -/

variable {tag : Text}

theorem applyAll_append (changes more : List ConfigChange) (c : Config) :
    c.applyAll (changes ++ more) = (c.applyAll changes).applyAll more := List.foldl_append

theorem mem_languages_allowLanguage (tag : Text) (c : Config) :
    Language.canonicalTag tag ∈ (c.apply (.allowLanguage tag)).languages := by
  rw [languages_allowLanguage]
  split_ifs with hmem
  · exact hmem
  · exact List.mem_append_right _ (List.mem_singleton.2 rfl)

/-- No change but one takes a language off the list. -/
theorem languages_subset_apply {change : ConfigChange} (hchange : change ≠ .clearLanguages)
    (c : Config) : c.languages ⊆ (c.apply change).languages := by
  cases change with
  | allowLanguage tag =>
    rw [languages_allowLanguage]
    split_ifs
    · exact List.Subset.refl _
    · exact List.subset_append_left _ _
  | clearLanguages => exact absurd rfl hchange
  | defaultTheme | darkTheme | preloadTheme | engineSource | useTransformer | excludeClass
  | darkIndicator | batchSize => exact List.Subset.refl _

theorem languages_subset_applyAll {changes : List ConfigChange}
    (hchanges : .clearLanguages ∉ changes) (c : Config) :
    c.languages ⊆ (c.applyAll changes).languages := by
  induction changes generalizing c with
  | nil => exact List.Subset.refl _
  | cons change changes ih =>
    have hchange : change ≠ .clearLanguages := fun h => hchanges (h ▸ List.mem_cons_self)
    exact List.Subset.trans (languages_subset_apply hchange c)
      (ih (fun h => hchanges (List.mem_cons_of_mem _ h)) (c.apply change))

/-- The canonical tag of a language on the list allows every tag of that language. -/
theorem allows_of_mem_languages {c : Config} {tag' : Text}
    (hmem : Language.canonicalTag tag ∈ c.languages)
    (htag : Language.canonicalTag tag' = Language.canonicalTag tag) : c.allows tag' = true := by
  simp only [allows, htag, Bool.or_eq_true, decide_eq_true_eq, List.any_eq_true]
  exact .inr ⟨_, hmem, Language.canonicalTag_canonicalTag tag⟩

/-- A language that was allowed stays allowed until the languages are cleared, whatever was
done before. -/
theorem allows_applyAll {after : List ConfigChange} (hafter : .clearLanguages ∉ after)
    {tag' : Text} (htag : Language.canonicalTag tag' = Language.canonicalTag tag)
    (before : List ConfigChange) (c : Config) :
    (c.applyAll (before ++ .allowLanguage tag :: after)).allows tag' = true := by
  rw [applyAll_append]
  exact allows_of_mem_languages
    (languages_subset_applyAll hafter _ (mem_languages_allowLanguage tag (c.applyAll before))) htag

end PageHighlight.Config
