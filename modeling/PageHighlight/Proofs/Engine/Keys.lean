/-
  Proofs/Engine/Keys.lean --- the engines of one key.

  WHAT THIS FILE IS FOR.  Engines are shared by key.  A key tells the themes and
  the languages that a configuration names, as sets, and the place of its grammars.
  The parts of an engine depend on nothing else, neither on the order in which
  themes and grammars are loaded nor on how often they are named
  (`Engine.assembled_congr`).  Whether the engine is built at all depends on one
  thing more, the default theme (`Engine.toOption_ofGrammars`), and a key does not
  tell which of the themes that is.
-/
import PageHighlight.Engine.Cache
import PageHighlight.Proofs.Grammar.Loading
import PageHighlight.Proofs.Text.Sorted

set_option autoImplicit false

namespace PageHighlight

/-! ## Themes -/

namespace Theme

/-- Of the themes with some names, the one with a name is the built-in one. -/
theorem find?_filterMap_named? (names : List Text) (n : Text) :
    (names.filterMap named?).find? (·.name = n) = if n ∈ names then named? n else none := by
  induction names with
  | nil => rfl
  | cons m names ih =>
    rw [List.filterMap_cons]
    cases hm : named? m with
    | none =>
      by_cases hn : n = m
      · subst hn
        simp [ih, hm]
      · simp [ih, hn]
    | some t =>
      have ht := name_eq_of_named? hm
      by_cases hn : n = m
      · subst hn
        simp [ht, hm]
      · simp [ht, ih, hn, Ne.symm hn]

end Theme

/-! ## Engines -/

/-- Paths that name the same place lead to the same directory of grammars. -/
def GrammarShelf.RespectsPaths (shelf : GrammarShelf) : Prop :=
  ∀ p q, FilePath.steps p = FilePath.steps q → shelf p = shelf q

namespace EngineKey

variable {c c' : Config}

theorem perm_themesToLoad (h : ofConfig c = ofConfig c') :
    c.themesToLoad.Perm c'.themesToLoad :=
  Text.perm_of_sort_eq (congrArg EngineKey.themes h)

theorem mem_languages_iff (h : ofConfig c = ofConfig c') (l : Text) :
    l ∈ c.languages ↔ l ∈ c'.languages :=
  Text.sort_distinct_eq_iff.1 (congrArg EngineKey.languages h) l

theorem mem_grammarNames_iff (h : ofConfig c = ofConfig c') (name : Text) :
    name ∈ Engine.grammarNames c ↔ name ∈ Engine.grammarNames c' := by
  simp only [Engine.grammarNames, List.mem_filter, List.mem_map, mem_languages_iff h]

end EngineKey

namespace Engine

/-- The default theme is among those to load. -/
theorem defaultTheme_mem_themesToLoad (c : Config) : c.defaultTheme ∈ c.themesToLoad :=
  Text.mem_distinct.mpr List.mem_cons_self

/-- Rendering asks a registry and a list of themes for nothing but what they have
under a name. -/
theorem renderParsed_congr (parser : Parser) {r r' : Registry} {ts ts' : List Theme}
    (hr : ∀ n, r.get? n = r'.get? n)
    (ht : ∀ n : Text, ts.find? (·.name = n) = ts'.find? (·.name = n)) :
    renderParsed parser r ts = renderParsed parser r' ts' := by
  funext code language theme
  simp only [renderParsed, hr, ht]

/-- The parts of the engine for a configuration, put together if there is a
directory of grammars. -/
def assembled (shelf : GrammarShelf) (parser : Parser) (c : Config) : Option Engine :=
  (shelf c.engineSource).map fun directory =>
    let themes := c.themesToLoad.filterMap Theme.named?
    let registry := (Registry.ofDirectory c.engineSource directory).loadAll (grammarNames c)
    ⟨Text.sort (themes.map (·.name)), renderParsed parser registry themes⟩

theorem assembled_eq_none_iff {shelf : GrammarShelf} {parser : Parser} {c : Config} :
    assembled shelf parser c = none ↔ shelf c.engineSource = none := by
  simp [assembled]

/-- Configurations of one key have the same parts. -/
theorem assembled_congr {shelf : GrammarShelf} (hs : shelf.RespectsPaths) (parser : Parser)
    {c c' : Config} (h : EngineKey.ofConfig c = EngineKey.ofConfig c') :
    assembled shelf parser c = assembled shelf parser c' := by
  have hd : shelf c.engineSource = shelf c'.engineSource := hs _ _ (congrArg EngineKey.source h)
  have hp := EngineKey.perm_themesToLoad h
  have hthemes : Text.sort ((c.themesToLoad.filterMap Theme.named?).map (·.name)) =
      Text.sort ((c'.themesToLoad.filterMap Theme.named?).map (·.name)) :=
    Text.sort_congr ((hp.filterMap Theme.named?).map _)
  have hfind (n : Text) : (c.themesToLoad.filterMap Theme.named?).find? (·.name = n) =
      (c'.themesToLoad.filterMap Theme.named?).find? (·.name = n) := by
    simp only [Theme.find?_filterMap_named?, hp.mem_iff]
  unfold assembled
  rw [hd]
  cases shelf c'.engineSource with
  | none => rfl
  | some directory =>
    have hget := Registry.get?_loadAll_congr (EngineKey.mem_grammarNames_iff h)
      c.engineSource c'.engineSource directory
    simp only [Option.map_some, hthemes, renderParsed_congr parser hget hfind]

/-- An engine is built of its parts if the default theme is built in. -/
theorem toOption_ofGrammars (shelf : GrammarShelf) (parser : Parser) (c : Config) :
    (ofGrammars shelf parser c).toOption =
      if (Theme.named? c.defaultTheme).isSome then assembled shelf parser c else none := by
  have hany : (c.themesToLoad.filterMap Theme.named?).any (·.name = c.defaultTheme) =
      (Theme.named? c.defaultTheme).isSome := by
    rw [← List.isSome_find?, Theme.find?_filterMap_named?,
      if_pos (defaultTheme_mem_themesToLoad c)]
  unfold ofGrammars assembled
  cases shelf c.engineSource with
  | none => simp [Except.toOption]
  | some directory =>
    simp only [hany]
    split <;> rfl

end Engine

end PageHighlight
