/-
  Proofs/Engine/Traffic.lean --- a cache of engines under any number of requests.

  WHAT THIS FILE IS FOR.  Requests for engines are made, go on and are given up in
  any order whatsoever: `Traffic.after` is the cache with all its requests after any
  such history.  For every key at most one engine is ever built, for the first
  configuration whose turn it is, and every request of the key is answered with what
  came of it (`Traffic.Sound`).
-/
import Mathlib.Data.List.Induction
import PageHighlight.Proofs.Engine

set_option autoImplicit false

namespace PageHighlight

open EngineCache (Pending)

/-! ## Histories of requests -/

/-- A cache of engines and the requests that were made of it. -/
structure Traffic where
  /-- The cache. -/
  cache : EngineCache
  /-- The requests that were not given up, in the order in which they were made. -/
  requests : List Pending
  /-- The next ticket. -/
  ticket : Ticket
  /-- The configurations for which an engine was built, or turned out not to be had,
  in order. -/
  built : List Config

/-- What can happen to a cache of engines. -/
inductive TrafficEvent where
  | ask (config : Config)
  /-- a request takes a step, if it can go on -/
  | goOn (request : Nat)
  /-- what is being built for a key is there -/
  | arrive (key : EngineKey)
  | giveUp (request : Nat)

namespace Traffic

/-- Nobody asked for anything yet. -/
def start : Traffic := ⟨.empty, [], 0, []⟩

/-- The configurations whose engine a step of a request brings. -/
def builtBy (p : Pending) : List Config :=
  match p.request with
  | .building _ => [p.config]
  | _ => []

/-- The traffic after an event. -/
def apply (l : Loader) (gateOpen : Bool) (t : Traffic) : TrafficEvent → Traffic
  | .ask config =>
    let (cache, request) := t.cache.ask l gateOpen (EngineKey.ofConfig config) t.ticket
    { t with cache := cache, requests := t.requests ++ [⟨config, request⟩], ticket := t.ticket + 1 }
  | .goOn i =>
    match t.requests[i]? with
    | none => t
    | some p =>
      let key := EngineKey.ofConfig p.config
      if t.cache.canGoOn key p.request then
        let (cache, request) := t.cache.goOn l gateOpen p.config key p.request
        { t with
          cache := cache
          requests := t.requests.set i { p with request := request }
          built := t.built ++ builtBy p }
      else t
  | .arrive key => { t with cache := t.cache.arrive key }
  | .giveUp i =>
    match t.requests[i]? with
    | none => t
    | some p =>
      { t with
        cache := t.cache.giveUp (EngineKey.ofConfig p.config) p.request
        requests := t.requests.eraseIdx i }

/-- The traffic after a history. -/
def after (l : Loader) (gateOpen : Bool) (es : List TrafficEvent) : Traffic :=
  es.foldl (apply l gateOpen) start

theorem after_append (l : Loader) (gateOpen : Bool) (es es' : List TrafficEvent) :
    after l gateOpen (es ++ es') = es'.foldl (apply l gateOpen) (after l gateOpen es) :=
  List.foldl_append

theorem after_snoc (l : Loader) (gateOpen : Bool) (es : List TrafficEvent) (e : TrafficEvent) :
    after l gateOpen (es ++ [e]) = (after l gateOpen es).apply l gateOpen e :=
  after_append l gateOpen es [e]

/-- The configuration for which the engine of a key was built. -/
def builtFor? (key : EngineKey) (t : Traffic) : Option Config :=
  t.built.find? (EngineKey.ofConfig · = key)

/-! ## Every answer is the one engine of its key -/

/-- The engines of the cache are those that were built, each for the first
configuration of its key, and requests are answered with them. -/
structure Sound (l : Loader) (t : Traffic) : Prop where
  handle_eq : ∀ key, (t.cache.cell key).handle = (t.builtFor? key).map l.handle
  /-- Nobody builds what is there. -/
  handle_eq_none : ∀ key, (t.cache.cell key).builder.isSome → (t.cache.cell key).handle = none
  answer_eq : ∀ p ∈ t.requests, ∀ h, p.request = .answered h →
    (t.builtFor? (EngineKey.ofConfig p.config)).map l.handle = some h

variable {l : Loader} {gateOpen : Bool} {t : Traffic}

theorem sound_start (l : Loader) : start.Sound l where
  handle_eq _ := rfl
  handle_eq_none _ _ := rfl
  answer_eq := by simp [start]

/-- An operation that brings no engine keeps the traffic sound, if whatever it
answers is the engine of the key. -/
theorem Sound.keep (ht : t.Sound l) {cache : EngineCache} (hc : t.cache.Keeps cache)
    {requests : List Pending} (ticket : Ticket)
    (hr : ∀ p ∈ requests, p ∈ t.requests ∨ ∀ h, p.request = .answered h →
      (t.cache.cell (EngineKey.ofConfig p.config)).handle = some h) :
    Sound l { t with cache := cache, requests := requests, ticket := ticket } where
  handle_eq key := (hc key).1.trans (ht.handle_eq key)
  handle_eq_none key hb := by
    rw [(hc key).1]
    exact ((hc key).2 hb).elim (ht.handle_eq_none key) id
  answer_eq p hp h hh := by
    rcases hr p hp with hp | hp
    · exact ht.answer_eq p hp h hh
    · exact (ht.handle_eq _).symm.trans (hp h hh)

theorem Sound.ask (ht : t.Sound l) (config : Config) :
    (t.apply l gateOpen (.ask config)).Sound l := by
  obtain ⟨hc, hh⟩ :=
    EngineCache.keeps_ask l gateOpen (EngineKey.ofConfig config) t.ticket t.cache
  refine ht.keep hc (t.ticket + 1) ?_
  intro p hp
  rcases List.mem_append.mp hp with hp | hp
  · exact .inl hp
  · obtain rfl := List.mem_singleton.mp hp
    exact .inr hh

theorem builtFor?_of_built_eq {t t' : Traffic} {config : Config}
    (h : t'.built = t.built ++ [config]) (key : EngineKey) :
    t'.builtFor? key =
      (t.builtFor? key).or (if EngineKey.ofConfig config = key then some config else none) := by
  by_cases hk : EngineKey.ofConfig config = key <;> simp [builtFor?, h, List.find?_append, hk]

/-- The engine that a request brings is the first one of its key. -/
theorem Sound.bring (ht : t.Sound l) {config : Config}
    (hb : (t.cache.cell (EngineKey.ofConfig config)).builder.isSome) (cell : Cell)
    (hk : cell.key = EngineKey.ofConfig config) (hn : cell.builder = none)
    (hh : cell.handle = some (l.handle config)) {t' : Traffic}
    (hc : t'.cache = t.cache.put cell)
    (hr : ∀ p ∈ t'.requests, p ∈ t.requests ∨ p = ⟨config, .answered (l.handle config)⟩)
    (hbuilt : t'.built = t.built ++ [config]) : t'.Sound l := by
  have hfirst : t.builtFor? (EngineKey.ofConfig config) = none := by
    have heq := ht.handle_eq (EngineKey.ofConfig config)
    rw [ht.handle_eq_none _ hb] at heq
    exact Option.map_eq_none_iff.mp heq.symm
  constructor
  · intro key
    rw [hc, builtFor?_of_built_eq hbuilt]
    by_cases h : EngineKey.ofConfig config = key
    · subst h
      simp [EngineCache.cell_put hk, hh, hfirst]
    · rw [EngineCache.cell_put_of_ne (hk.symm ▸ h), ht.handle_eq key, if_neg h, Option.or_none]
  · intro key
    rw [hc]
    by_cases h : EngineKey.ofConfig config = key
    · subst h
      simp [EngineCache.cell_put hk, hn]
    · rw [EngineCache.cell_put_of_ne (hk.symm ▸ h)]
      exact ht.handle_eq_none key
  · intro p hp h ha
    rw [builtFor?_of_built_eq hbuilt]
    rcases hr p hp with hp | rfl
    · -- the configuration that was first for an earlier answer still is
      obtain ⟨b, hb, hbh⟩ := Option.map_eq_some_iff.mp (ht.answer_eq p hp h ha)
      simp [hb, hbh]
    · cases ha
      simp [hfirst]

theorem Sound.goOn (ht : t.Sound l) (i : Nat) : (t.apply l gateOpen (.goOn i)).Sound l := by
  simp only [apply]
  split
  · exact ht
  · next p hp =>
    obtain ⟨config, request⟩ := p
    split
    · next hgo =>
      cases request with
      | queued ticket =>
        obtain ⟨hc, hh⟩ := EngineCache.keeps_goOn_queued l gateOpen (EngineKey.ofConfig config)
          ticket t.cache config
        simp only [builtBy, List.append_nil]
        refine ht.keep hc t.ticket ?_
        intro p hp
        rcases List.mem_or_eq_of_mem_set hp with hp | rfl
        · exact .inl hp
        · exact .inr hh
      | building ticket =>
        have hb : (t.cache.cell (EngineKey.ofConfig config)).builder.isSome := by
          obtain ⟨b, hb, -⟩ := (Option.any_eq_true _ _).mp hgo
          simp [hb]
        refine ht.bring hb { t.cache.cell (EngineKey.ofConfig config) with
          builder := none, waiting := [], handle := some (l.handle config) }
          (EngineCache.cell_key _ t.cache) rfl rfl rfl ?_ rfl
        intro p hp
        exact List.mem_or_eq_of_mem_set hp
      | answered h => simp [EngineCache.canGoOn] at hgo
    · exact ht

theorem Sound.apply (ht : t.Sound l) (e : TrafficEvent) : (t.apply l gateOpen e).Sound l := by
  cases e with
  | ask config => exact ht.ask config
  | goOn i => exact ht.goOn i
  | arrive key =>
    exact ht.keep (EngineCache.keeps_arrive key t.cache) t.ticket fun p hp => .inl hp
  | giveUp i =>
    simp only [Traffic.apply]
    split
    · exact ht
    · next p hp =>
      exact ht.keep (EngineCache.keeps_giveUp _ t.cache p.request) t.ticket
        fun q hq => .inl (List.mem_of_mem_eraseIdx hq)

/-- Traffic is sound after every history. -/
theorem sound_after (l : Loader) (gateOpen : Bool) (es : List TrafficEvent) :
    (after l gateOpen es).Sound l := by
  induction es using List.reverseRecOn with
  | nil => exact sound_start l
  | append_singleton es e ih =>
    rw [after_snoc]
    exact ih.apply e

/-- An answer is what came of the engine of its key, built for the first
configuration of the key. -/
theorem exists_builtFor_of_answered {es : List TrafficEvent} {p : Pending} {h : Handle}
    (hp : p ∈ (after l gateOpen es).requests) (ha : p.request = .answered h) :
    ∃ b, (after l gateOpen es).builtFor? (EngineKey.ofConfig p.config) = some b ∧
      EngineKey.ofConfig b = EngineKey.ofConfig p.config ∧ h = l.handle b := by
  have hb := (sound_after l gateOpen es).answer_eq p hp h ha
  obtain ⟨b, hb, hh⟩ := Option.map_eq_some_iff.mp hb
  exact ⟨b, hb, by simpa using List.find?_some hb, hh.symm⟩

end Traffic

end PageHighlight
