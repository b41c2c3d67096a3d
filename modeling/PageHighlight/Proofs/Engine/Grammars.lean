/-
  Proofs/Engine/Grammars.lean --- a block that is allowed has its grammar looked up
  under a name that was asked for.

  WHAT THIS FILE IS FOR.  Tags are made canonical in four places: when it is noted what a
  block was, when the allow-list is asked, when an engine loads its grammars, and when it
  looks one up.  `Config.names_agree` says that they agree: the language of an allowed
  block is a name that building the engine tried to load, and rendering misses its
  grammar if and only if that failed.
-/
import PageHighlight.Proofs.Engine.Agreement
import PageHighlight.Proofs.Language
import PageHighlight.Proofs.Session.Original

set_option autoImplicit false

namespace PageHighlight

/-! ## Looking up -/

namespace Engine

theorem renderFailure_ne {t u : Text} (h : t.head? ≠ u.head?) :
    Error.renderFailure t ≠ .renderFailure u :=
  fun heq => h (congrArg List.head? (Error.renderFailure.inj heq))

theorem themeNotLoaded_ne_noGrammar (theme language : Text) :
    themeNotLoaded theme ≠ noGrammar language :=
  renderFailure_ne nofun

theorem incompatibleGrammar_ne_noGrammar (why language : Text) :
    incompatibleGrammar why ≠ noGrammar language :=
  renderFailure_ne nofun

theorem noTree_ne_noGrammar (language : Text) : noTree ≠ noGrammar language :=
  renderFailure_ne nofun

/-- What a parser cannot do is told in other words. -/
theorem spanLines_ne_noGrammar (parser : Parser) (grammar language code name : Text) :
    spanLines parser grammar language code ≠ .error (noGrammar name) := by
  unfold spanLines
  split
  · exact fun h => incompatibleGrammar_ne_noGrammar _ _ (Except.error.inj h)
  · split
    · exact nofun
    · exact fun h => noTree_ne_noGrammar _ (Except.error.inj h)

/-- An engine that was built misses a grammar if and only if it has the theme and the
registry does not have the grammar. -/
theorem render_eq_noGrammar_iff {shelf : GrammarShelf} {parser : Parser} {c : Config}
    {engine : Engine} {directory : GrammarDirectory}
    (hbuilt : ofGrammars shelf parser c = .ok engine)
    (hdirectory : shelf c.engineSource = some directory) {language : Text}
    (hplain : language ≠ Language.plainText) (code theme : Text) :
    engine.render code language theme = .error (noGrammar language) ↔
      theme ∈ engine.themes ∧
        ((Registry.ofDirectory c.engineSource directory).loadAll (grammarNames c)).get? language =
          none := by
  unfold ofGrammars at hbuilt
  simp only [hdirectory] at hbuilt
  split at hbuilt
  · cases hbuilt
    generalize c.themesToLoad.filterMap Theme.named? = themes
    have hthemes : theme ∈ Text.sort (themes.map (·.name)) ↔
        (themes.find? (·.name = theme)).isSome = true := by
      rw [(Text.perm_sort _).mem_iff, List.find?_isSome, List.mem_map]
      simp
    simp only [hthemes, renderParsed, if_neg hplain]
    cases themes.find? (·.name = theme) with
    | none => simpa using themeNotLoaded_ne_noGrammar theme language
    | some t =>
      simp only [Option.isSome_some, true_and]
      split
      · next hnone => simp [hnone, noGrammar]
      · next grammar hsome =>
        have hspans := spanLines_ne_noGrammar parser grammar language code language
        cases h : spanLines parser grammar language code with
        | error e => simpa [h, hsome, Except.map] using hspans
        | ok spans => simp [hsome, Except.map]
  · cases hbuilt

end Engine

/-! ## Blocks of a session -/

/-- What is noted of a block says its language by a canonical spelling, after every
history of a session with a fresh page. -/
theorem Session.canonicalTag_captured {s : Setting} {p : Page} (hp : p.IsFresh) (es : List Event)
    {slot : Slot} (hslot : slot ∈ ((start s p).after es).page.slots) {o : SourceBlock}
    (ho : slot.captured = some o) : Language.canonicalTag o.language = o.language := by
  have hpage : Page.Faithful s p ((start s p).after es).page := (faithful_after hp es).page
  obtain ⟨first, -, hfaithful⟩ := exists_of_mem_right_of_forall₂ hpage hslot
  obtain ⟨t, -, rfl⟩ := hfaithful.captured o ho
  exact Page.canonicalTag_language _ t

/-- The readers of tags agree.  A canonical spelling is its own canonical spelling.
Whether a tag is allowed depends on the canonical spellings of the tag and of the entries
of the allow-list only.  And if the language that was noted of a block is allowed and is
not plain text, then it is one of the names whose grammars are loaded when an engine is
built for the configuration; an engine so built says that there is no grammar for it, with
a theme that it has, if and only if that loading failed, whatever was loaded before. -/
theorem Config.names_agree (c : Config) :
    (∀ tag, Language.canonicalTag (Language.canonicalTag tag) = Language.canonicalTag tag) ∧
    (∀ (c' : Config) (tag tag' : Text),
      c'.languages.map Language.canonicalTag = c.languages.map Language.canonicalTag →
      Language.canonicalTag tag' = Language.canonicalTag tag → c'.allows tag' = c.allows tag) ∧
    ∀ (s : Setting) (p : Page) (es : List Event) (slot : Slot) (o : SourceBlock),
      s.config = c → p.IsFresh → slot ∈ ((Session.start s p).after es).page.slots →
      slot.captured = some o → c.allows o.language = true → o.language ≠ Language.plainText →
      o.language ∈ Engine.grammarNames c ∧
      ∀ (shelf : GrammarShelf) (parser : Engine.Parser) (engine : Engine),
        Engine.ofGrammars shelf parser c = .ok engine → ∃ directory,
        shelf c.engineSource = some directory ∧
        ∀ before after, Engine.grammarNames c = before ++ o.language :: after →
          ∀ code theme,
            engine.render code o.language theme = .error (Engine.noGrammar o.language) ↔
              theme ∈ engine.themes ∧
                ∃ e, (((Registry.ofDirectory c.engineSource directory).loadAll before).load
                  o.language).1 = .error e := by
  refine ⟨Language.canonicalTag_canonicalTag, fun c' tag tag' => allows_congr, ?_⟩
  rintro s p es slot o rfl hp hslot ho hallowed hplain
  have hcanonical := Session.canonicalTag_captured hp es hslot ho
  refine ⟨mem_grammarNames_of_allows hcanonical hallowed hplain,
    fun shelf parser engine hbuilt => ?_⟩
  cases hdirectory : shelf s.config.engineSource with
  | none =>
    simp only [Engine.ofGrammars, hdirectory] at hbuilt
    cases hbuilt
  | some directory =>
    refine ⟨directory, rfl, fun before after hnames code theme => ?_⟩
    rw [Engine.render_eq_noGrammar_iff hbuilt hdirectory hplain,
      Registry.get?_loadAll_eq_none_iff hnames]

/-! ## A grammar that is missing -/

/-- A configuration for Rust code that spells it in a way of its own. -/
def Config.forRS : Config := { Config.forRust with languages := [" RS".toList] }

/-- A block of Rust code is allowed, and its grammar is asked for by its name, which an
empty directory does not have. -/
theorem Config.names_agree_missing :
    "rust".toList ∈ Engine.grammarNames .forRS ∧
      ∃ engine, Engine.ofGrammars .bare .treeless .forRS = .ok engine ∧
        engine.render "let x = 1;" "rust" "gruvbox-light" = .error (Engine.noGrammar "rust") := by
  let s := Setting.ofConfig .forRS .plain
  let o : SourceBlock := ⟨"let x = 1;", ["language-rust"], "rust"⟩
  have hfresh : Page.oneBlock.IsFresh := Page.isFresh_empty.pushBlock _ _ _ _
  have hslot : ∃ slot ∈ ((Session.start s .oneBlock).after
      [.call (.render 1 "gruvbox-light"), .proceed 0 0]).page.slots, slot.captured = some o := by
    decide +kernel
  obtain ⟨slot, hslot, ho⟩ := hslot
  obtain ⟨hname, hengine⟩ := (names_agree .forRS).2.2 s .oneBlock _ slot o rfl hfresh hslot ho
    (by decide +kernel) (by decide +kernel)
  have hthemes : (Config.forRS.themesToLoad.filterMap Theme.named?).any
      (·.name = Config.forRS.defaultTheme) = true := by decide +kernel
  have hbuilt : ∃ engine, Engine.ofGrammars .bare .treeless .forRS = .ok engine ∧
      engine.themes = Text.sort ((Config.forRS.themesToLoad.filterMap Theme.named?).map
        (·.name)) := by
    simp only [Engine.ofGrammars, GrammarShelf.bare, hthemes, if_true]
    exact ⟨_, rfl, rfl⟩
  obtain ⟨engine, hbuilt, hsorted⟩ := hbuilt
  obtain ⟨directory, hdirectory, hrender⟩ := hengine .bare _ engine hbuilt
  cases hdirectory
  refine ⟨hname, engine, hbuilt, (hrender [] [] (by decide +kernel) _ _).2 ⟨?_, _, rfl⟩⟩
  rw [hsorted, (Text.perm_sort _).mem_iff]
  decide +kernel

end PageHighlight
