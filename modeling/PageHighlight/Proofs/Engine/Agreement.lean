/-
  Proofs/Engine/Agreement.lean --- whether a shared engine is as good as one's own.

  WHAT THIS FILE IS FOR.  Requests of one key are answered with one engine, built for
  one of their configurations.  All of these have the same parts, so that an answer is
  the engine that another request would have built for itself; but an engine is built
  only if the default theme of its own configuration is built in.  So an answer agrees
  with building alone unless one of two default themes is built in and the other is
  not (`Traffic.answer_agrees_iff`), and then it does not (`Traffic.neonByNight_refused`).
-/
import PageHighlight.Proofs.Engine.Keys
import PageHighlight.Proofs.Engine.Queue

set_option autoImplicit false

namespace PageHighlight

open EngineCache (Pending)

/-! ## Answers and engines of one's own -/

theorem isOk_eq_isSome_toOption {ε α : Type} (x : Except ε α) : x.isOk = x.toOption.isSome := by
  cases x <;> rfl

/-- A handle is as good as building the engine oneself: there is an engine if and
only if it could be built, and it renders everything like the one that would be. -/
structure Handle.AgreesWith (h : Handle) (built : Except Error Engine) : Prop where
  isSome_eq : h.isSome = built.isOk
  render_eq : ∀ e e', h = some e → built = .ok e' →
    ∀ code language theme, e.render code language theme = e'.render code language theme

/-- Whether the default theme of a configuration is built in. -/
def Config.hasDefaultTheme (c : Config) : Bool := (Theme.named? c.defaultTheme).isSome

/-- What came of one configuration agrees with building for another one of its key, if
and only if there is no directory of grammars or the default themes are both built in
or both not. -/
theorem agreesWith_ofGrammars_iff {shelf : GrammarShelf} (hs : shelf.RespectsPaths)
    (parser : Engine.Parser) {b c : Config} (hkey : EngineKey.ofConfig b = EngineKey.ofConfig c) :
    (((Loader.ofGrammars shelf parser).handle b).AgreesWith (Engine.ofGrammars shelf parser c) ↔
        shelf c.engineSource = none ∨ b.hasDefaultTheme = c.hasDefaultTheme) ∧
      ∀ e e', (Loader.ofGrammars shelf parser).handle b = some e →
        Engine.ofGrammars shelf parser c = .ok e' → e = e' := by
  have hanswer : (Loader.ofGrammars shelf parser).handle b =
      if b.hasDefaultTheme then Engine.assembled shelf parser c else none := by
    rw [← Engine.assembled_congr hs parser hkey]
    exact Engine.toOption_ofGrammars shelf parser b
  have hown : (Engine.ofGrammars shelf parser c).toOption =
      if c.hasDefaultTheme then Engine.assembled shelf parser c else none :=
    Engine.toOption_ofGrammars shelf parser c
  generalize (Loader.ofGrammars shelf parser).handle b = h at hanswer ⊢
  have hsame : ∀ e e', h = some e → Engine.ofGrammars shelf parser c = .ok e' → e = e' := by
    intro e e' he he'
    rw [he] at hanswer
    rw [he', Except.toOption] at hown
    have hparts := (Option.ite_none_right_eq_some.mp hanswer.symm).2
    have hparts' := (Option.ite_none_right_eq_some.mp hown.symm).2
    exact Option.some.inj (hparts.symm.trans hparts')
  refine ⟨?_, hsame⟩
  calc h.AgreesWith (Engine.ofGrammars shelf parser c)
      ↔ h.isSome = (Engine.ofGrammars shelf parser c).isOk :=
        ⟨fun ha => ha.isSome_eq,
          fun hi => ⟨hi, fun e e' he he' _ _ _ => hsame e e' he he' ▸ rfl⟩⟩
    _ ↔ Engine.assembled shelf parser c = none ∨ b.hasDefaultTheme = c.hasDefaultTheme := by
        rw [isOk_eq_isSome_toOption, hown, hanswer]
        cases b.hasDefaultTheme <;> cases c.hasDefaultTheme <;>
          cases Engine.assembled shelf parser c <;> simp
    _ ↔ shelf c.engineSource = none ∨ b.hasDefaultTheme = c.hasDefaultTheme := by
        rw [Engine.assembled_eq_none_iff]

/-! ## A theme that is not built in -/

/-- Empty directories of grammars. -/
def GrammarShelf.bare : GrammarShelf := fun _ => some ⟨none, []⟩

/-- A configuration whose default theme is not built in, while the dark one is. -/
def Config.neonByDay : Config :=
  { Config.standard [] with defaultTheme := "neon".toList, darkTheme := "gruvbox-light".toList }

/-- A configuration whose dark theme is not built in, while the default one is. -/
def Config.neonByNight : Config :=
  { Config.standard [] with defaultTheme := "gruvbox-light".toList, darkTheme := "neon".toList }

theorem EngineKey.ofConfig_neon :
    EngineKey.ofConfig .neonByNight = EngineKey.ofConfig .neonByDay := by
  have hday : Config.neonByDay.themesToLoad = ["neon".toList, "gruvbox-light".toList] := by
    decide +kernel
  have hnight : Config.neonByNight.themesToLoad = ["gruvbox-light".toList, "neon".toList] := by
    decide +kernel
  unfold EngineKey.ofConfig
  rw [hday, hnight, Text.sort_congr (.swap _ _ [])]
  rfl

namespace Traffic

/-- A history in which an engine is asked for and comes, and is asked for again. -/
def askTwice (c c' : Config) : List TrafficEvent :=
  [.ask c, .arrive (EngineKey.ofConfig c), .goOn 0, .ask c']

/-- The second answer is the first one. -/
theorem requests_after_askTwice (l : Loader) (gateOpen : Bool) {c c' : Config}
    (h : EngineKey.ofConfig c' = EngineKey.ofConfig c) :
    (after l gateOpen (askTwice c c')).requests =
      [⟨c, .answered (l.handle c)⟩, ⟨c', .answered (l.handle c)⟩] := by
  have hcell : EngineCache.cell (EngineKey.ofConfig c)
      ((EngineCache.empty.startBuilding l gateOpen (EngineKey.ofConfig c) 0).arrive
        (EngineKey.ofConfig c)) =
      ⟨EngineKey.ofConfig c, some ⟨0, true, true⟩, [], none⟩ := by
    simp [EngineCache.arriveIn]
  simp [after, askTwice, start, Traffic.apply, EngineCache.ask, EngineCache.canGoOn,
    EngineCache.goOn, hcell, h, EngineCache.cell_put]

/-- A loader of bare engines. -/
def bareLoader : Loader := .ofGrammars .bare .treeless

/-- The configuration with a default theme is answered like the one without. -/
theorem mem_requests_neonByNight :
    ⟨.neonByNight, .answered none⟩ ∈
      (after bareLoader false (askTwice .neonByDay .neonByNight)).requests := by
  have hday : bareLoader.handle .neonByDay = none := by
    have hneon : Theme.named? Config.neonByDay.defaultTheme = none := by decide +kernel
    have h := Engine.toOption_ofGrammars .bare .treeless .neonByDay
    rwa [hneon] at h
  rw [requests_after_askTwice bareLoader false EngineKey.ofConfig_neon, hday]
  exact List.mem_cons_of_mem _ List.mem_cons_self

end Traffic

/-! ## The answers of a cache -/

namespace Traffic

/-- After every history of requests, each of them can be answered; and one that was
answered was answered as if it had built its own engine, if and only if there is no
directory of grammars, or its default theme and that of the configuration for which
the engine was built are both built in or both not.  In any case an engine it was
answered with is the one it would have built, if it could have built one. -/
theorem answer_agrees_iff {shelf : GrammarShelf} (hs : shelf.RespectsPaths)
    (parser : Engine.Parser) (gateOpen : Bool) (es : List TrafficEvent) :
    let loader := Loader.ofGrammars shelf parser
    let t := after loader gateOpen es
    (∀ (i : Nat) (p : Pending), t.requests[i]? = some p → ∃ (more : List TrafficEvent) (h : Handle),
      (after loader gateOpen (es ++ more)).requests[i]? = some ⟨p.config, .answered h⟩) ∧
    ∀ p ∈ t.requests, ∀ h, p.request = .answered h →
      ∃ b, t.builtFor? (EngineKey.ofConfig p.config) = some b ∧
        (h.AgreesWith (Engine.ofGrammars shelf parser p.config) ↔
          shelf p.config.engineSource = none ∨ b.hasDefaultTheme = p.config.hasDefaultTheme) ∧
        ∀ e e', h = some e → Engine.ofGrammars shelf parser p.config = .ok e' → e = e' := by
  intro loader t
  constructor
  · intro i p hp
    obtain ⟨more, h, hanswered⟩ :=
      (orderly_after loader gateOpen es).exists_answered loader gateOpen hp
    refine ⟨more, h, ?_⟩
    rw [after_append]
    exact hanswered
  · intro p hp h ha
    obtain ⟨b, hb, hkey, rfl⟩ := exists_builtFor_of_answered hp ha
    obtain ⟨hagrees, hsame⟩ := agreesWith_ofGrammars_iff hs parser hkey
    exact ⟨b, hb, hagrees, hsame⟩

/-- The engine for `neonByNight` was built for `neonByDay`, if it was built at all. -/
theorem answer_agrees_iff_neonByNight :
    GrammarShelf.bare.RespectsPaths ∧
      ⟨.neonByNight, .answered none⟩ ∈
        (after bareLoader false (askTwice .neonByDay .neonByNight)).requests ∧
      ∃ b, (after bareLoader false (askTwice .neonByDay .neonByNight)).builtFor?
          (EngineKey.ofConfig .neonByNight) = some b ∧
        (Handle.AgreesWith none (Engine.ofGrammars .bare .treeless .neonByNight) ↔
          GrammarShelf.bare Config.neonByNight.engineSource = none ∨
            b.hasDefaultTheme = Config.neonByNight.hasDefaultTheme) := by
  have hs : GrammarShelf.bare.RespectsPaths := fun _ _ _ => rfl
  obtain ⟨-, hanswers⟩ := answer_agrees_iff hs .treeless false
    (askTwice .neonByDay .neonByNight)
  obtain ⟨b, hb, hagrees, -⟩ := hanswers _ mem_requests_neonByNight none rfl
  exact ⟨hs, mem_requests_neonByNight, b, hb, hagrees⟩

/-- The default theme of `neonByNight` is built in and its directory of grammars is
there, but the request is refused since one for `neonByDay` came first. -/
theorem neonByNight_refused :
    ⟨.neonByNight, .answered none⟩ ∈
        (after bareLoader false (askTwice .neonByDay .neonByNight)).requests ∧
      ¬ Handle.AgreesWith none (Engine.ofGrammars .bare .treeless .neonByNight) := by
  refine ⟨mem_requests_neonByNight, ?_⟩
  intro h
  have hlight : (Theme.named? Config.neonByNight.defaultTheme).isSome := by decide +kernel
  have hown := Engine.toOption_ofGrammars .bare .treeless .neonByNight
  have hbuilt := h.isSome_eq
  rw [isOk_eq_isSome_toOption, hown, if_pos hlight] at hbuilt
  cases hbuilt

end Traffic

end PageHighlight
