/-
  Proofs/Engine/SameKey.lean --- which configurations share an engine.

  WHAT THIS FILE IS FOR.  A key writes the themes and the languages of a configuration in
  ascending order, each once.  `EngineKey.ofConfig_eq_iff` says that this makes it a key of
  sets: two configurations have one key if and only if they name the same themes and the same
  languages and the same place, in whatever order, however often and however the place is
  spelled.
-/
import PageHighlight.Engine.Cache
import PageHighlight.Proofs.FilePath
import PageHighlight.Proofs.Text.Sorted

set_option autoImplicit false

namespace PageHighlight

/-- The themes that a configuration names, in its order and as often as it names them. -/
def Config.namedThemes (c : Config) : List Text := c.defaultTheme :: c.darkTheme :: c.preloadThemes

theorem Config.themesToLoad_eq (c : Config) : c.themesToLoad = Text.distinct c.namedThemes := rfl

namespace EngineKey

/-- Two configurations have the same key if and only if they name the same themes, as the
default theme, the dark one or one to load too, have the same entries in their lists of
languages and name the same place for the grammars; so neither the order of an entry counts
nor how often it comes.  For that it is enough to sort the languages and to leave one of the
same ones in a row.  The themes to load begin with the default theme; they are the
themes that are named, each once, in the order in which they come first. -/
theorem ofConfig_eq_iff (c c' : Config) :
    (ofConfig c = ofConfig c' ↔
      (∀ t, t ∈ c.namedThemes ↔ t ∈ c'.namedThemes) ∧
      (∀ l, l ∈ c.languages ↔ l ∈ c'.languages) ∧
      FilePath.Alike c.engineSource c'.engineSource) ∧
    (ofConfig c).languages = (Text.sort c.languages).destutter (· ≠ ·) ∧
    c.themesToLoad.head? = some c.defaultTheme ∧
    (∀ t, t ∈ c.themesToLoad ↔ t ∈ c.namedThemes) ∧ c.themesToLoad.Nodup ∧
    c.themesToLoad.Pairwise fun s t => c.namedThemes.idxOf s < c.namedThemes.idxOf t := by
  refine ⟨?_, Text.sort_distinct_eq_destutter c.languages, Text.head?_distinct c.namedThemes,
    fun t => Text.mem_distinct, Text.nodup_distinct c.namedThemes,
    Text.pairwise_idxOf_distinct c.namedThemes⟩
  rw [ofConfig, ofConfig, EngineKey.mk.injEq, c.themesToLoad_eq, c'.themesToLoad_eq,
    Text.sort_distinct_eq_iff, Text.sort_distinct_eq_iff, FilePath.steps_eq_iff]

end EngineKey

end PageHighlight
