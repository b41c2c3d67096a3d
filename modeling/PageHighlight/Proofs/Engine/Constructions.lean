/-
  Proofs/Engine/Constructions.lean --- the loader is called once for every key.

  WHAT THIS FILE IS FOR.  Building engines is what the cache is there to avoid.  At any
  time the loader is at work on a key for one request at most (`loading_le_one`); when its
  work has come to an end, with an engine or without one, the outcome stays and the loader
  is never called for the key again (`Sound.settled`); and if nobody gives up, one call is
  all that a key ever takes (`Prompt`).  A request that is given up while the loader is at
  work for it is the one reason for a second call.
-/
import PageHighlight.Proofs.Engine.Agreement

set_option autoImplicit false

namespace PageHighlight

open EngineCache (Pending)

/-! ## Calls of the loader -/

namespace EngineCache

variable (l : Loader) (gateOpen : Bool) (key : EngineKey) (ticket : Ticket) (c : EngineCache)

@[simp] theorem calls_put (cell : Cell) : (c.put cell).calls = c.calls := rfl

@[simp] theorem calls_startBuilding :
    (c.startBuilding l gateOpen key ticket).calls = key :: c.calls := rfl

@[simp] theorem calls_arrive : (c.arrive key).calls = c.calls := rfl

@[simp] theorem calls_giveUp (r : Request) : (c.giveUp key r).calls = c.calls := by
  cases hr : r.waiter? with
  | none =>
    cases r with
    | answered h => rfl
    | _ => cases hr
  | some w => rw [giveUp_eq_put key w.1 c hr, calls_put]

end EngineCache

namespace Traffic

variable {l : Loader} {gateOpen : Bool} {t : Traffic} {key : EngineKey}

/-- An event calls the loader for a key whose outcome is not there, or not at all. -/
theorem calls_apply (l : Loader) (gateOpen : Bool) (t : Traffic) (e : TrafficEvent) :
    (t.apply l gateOpen e).cache.calls = t.cache.calls ∨
      ∃ key, (t.cache.cell key).handle = none ∧
        (t.apply l gateOpen e).cache.calls = key :: t.cache.calls := by
  cases e with
  | ask config =>
    simp only [apply]
    rcases EngineCache.ask_cases l gateOpen (EngineKey.ofConfig config) t.ticket t.cache with
      ⟨h, -, he⟩ | ⟨hh, -, he⟩ | ⟨-, -, he⟩
    · exact .inl (by rw [he])
    · exact .inr ⟨_, hh, by rw [he, EngineCache.calls_startBuilding]⟩
    · exact .inl (by rw [he, EngineCache.calls_put])
  | goOn i =>
    simp only [apply]
    split
    · exact .inl rfl
    · next p hp =>
      split
      · cases hr : p.request with
        | queued ticket =>
          rcases EngineCache.goOn_queued_cases l gateOpen (EngineKey.ofConfig p.config) ticket
            t.cache p.config with ⟨h, -, he⟩ | ⟨hh, he⟩
          · exact .inl (by rw [he])
          · exact .inr ⟨_, hh, by rw [he, EngineCache.calls_startBuilding]⟩
        | building ticket => exact .inl rfl
        | answered h => exact .inl rfl
      · exact .inl rfl
  | arrive key => exact .inl rfl
  | giveUp i =>
    simp only [apply]
    split
    · exact .inl rfl
    · exact .inl (EngineCache.calls_giveUp _ _ _)

/-- Engines that were built stay built. -/
theorem built_apply (l : Loader) (gateOpen : Bool) (t : Traffic) (e : TrafficEvent) :
    ∃ more, (t.apply l gateOpen e).built = t.built ++ more := by
  cases e with
  | ask config => exact ⟨[], (List.append_nil _).symm⟩
  | goOn i =>
    simp only [apply]
    split
    · exact ⟨[], (List.append_nil _).symm⟩
    · split
      · exact ⟨_, rfl⟩
      · exact ⟨[], (List.append_nil _).symm⟩
  | arrive key => exact ⟨[], (List.append_nil _).symm⟩
  | giveUp i =>
    simp only [apply]
    split <;> exact ⟨[], (List.append_nil _).symm⟩

/-! ## What has come to an end -/

/-- An outcome that is there stays, and the loader is not called for its key. -/
theorem Sound.settled_apply (ht : t.Sound l) (gateOpen : Bool) {h : Handle}
    (hh : (t.cache.cell key).handle = some h) (e : TrafficEvent) :
    ((t.apply l gateOpen e).cache.cell key).handle = some h ∧
      (t.apply l gateOpen e).cache.calls.count key = t.cache.calls.count key := by
  constructor
  · obtain ⟨more, hmore⟩ := built_apply l gateOpen t e
    rw [ht.handle_eq key, Option.map_eq_some_iff] at hh
    obtain ⟨b, hb, rfl⟩ := hh
    have hb' : (t.apply l gateOpen e).builtFor? key = some b := by
      unfold builtFor? at hb ⊢
      rw [hmore, List.find?_append, hb, Option.some_or]
    rw [(ht.apply e).handle_eq key, hb']
    rfl
  · rcases calls_apply l gateOpen t e with he | ⟨key', hnone, he⟩
    · rw [he]
    · have hne : key' ≠ key := by
        rintro rfl
        rw [hnone] at hh
        cases hh
      rw [he, List.count_cons_of_ne hne]

/-- So it is after every history. -/
theorem Sound.settled (ht : t.Sound l) (gateOpen : Bool) {h : Handle}
    (hh : (t.cache.cell key).handle = some h) (es : List TrafficEvent) :
    ((es.foldl (Traffic.apply l gateOpen) t).cache.cell key).handle = some h ∧
      (es.foldl (Traffic.apply l gateOpen) t).cache.calls.count key =
        t.cache.calls.count key := by
  induction es generalizing t with
  | nil => exact ⟨hh, rfl⟩
  | cons e es ih =>
    obtain ⟨hhandle, hcount⟩ := ht.settled_apply gateOpen hh e
    obtain ⟨hhandle', hcount'⟩ := ih (ht.apply e) hhandle
    exact ⟨hhandle', hcount'.trans hcount⟩

/-! ## One call at a time -/

/-- Whether the loader is at work on a key for a request. -/
def loads (key : EngineKey) (p : Pending) : Bool :=
  match p.request with
  | .building _ => EngineKey.ofConfig p.config = key
  | _ => false

/-- For how many requests the loader is at work on a key. -/
def loading (key : EngineKey) (t : Traffic) : Nat := t.requests.countP (loads key)

theorem loading_eq (key : EngineKey) (t : Traffic) :
    t.loading key = (t.waiters key).countP (·.2) := by
  rw [loading, waiters, List.countP_filterMap]
  refine List.countP_congr fun p _ => ?_
  unfold loads waiterFor
  cases p.request <;> by_cases hk : EngineKey.ofConfig p.config = key <;>
    simp [hk, Request.waiter?]

/-- The loader is at work on a key for one request at most. -/
theorem Orderly.loading_le_one (h : t.Orderly) (key : EngineKey) : t.loading key ≤ 1 := by
  rw [loading_eq]
  by_cases hpos : 0 < (t.waiters key).countP (·.2)
  · obtain ⟨⟨ticket, started⟩, hmem, hstarted⟩ := List.countP_pos_iff.1 hpos
    obtain rfl : started = true := hstarted
    obtain ⟨as, bs, hsplit⟩ := List.append_of_mem hmem
    have hqueues := h key
    rw [hsplit] at hqueues ⊢
    obtain ⟨-, rfl, rfl, -⟩ := hqueues.builds
    simp [List.countP_map, Function.comp_def]
  · omega

/-- It is at work on none whose outcome is there. -/
theorem Orderly.loading_of_settled (h : t.Orderly) {x : Handle}
    (hh : (t.cache.cell key).handle = some x) : t.loading key = 0 := by
  rw [loading_eq, List.countP_eq_zero]
  intro w hw
  rw [(h key).queued (by rw [hh]; rfl) w hw]
  exact Bool.false_ne_true

/-! ## Nobody gives up -/

/-- The keys that were asked for in a history. -/
def asked (es : List TrafficEvent) : List EngineKey :=
  es.filterMap fun
    | .ask config => some (EngineKey.ofConfig config)
    | _ => none

/-- The loader was called once for each of these keys and for no other one, and its work is
under way or has come to an end. -/
structure Prompt (t : Traffic) (keys : List EngineKey) : Prop where
  count_eq : ∀ key, t.cache.calls.count key = if key ∈ keys then 1 else 0
  known : ∀ key, key ∈ keys ↔
    (t.cache.cell key).handle.isSome ∨ (t.cache.cell key).builder.isSome
  started : ∀ key b, (t.cache.cell key).builder = some b → b.started = true

namespace Prompt

variable {keys : List EngineKey}

theorem start : Traffic.start.Prompt [] where
  count_eq _ := rfl
  known key := by simp [Traffic.start]
  started key b hb := by simp [Traffic.start] at hb

/-- A key whose outcome is there, or whose engine is being built, was asked for, and asking
again calls nobody. -/
theorem ask (h : t.Prompt keys) (config : Config) :
    (t.apply l gateOpen (.ask config)).Prompt (keys ++ [EngineKey.ofConfig config]) := by
  have again : EngineKey.ofConfig config ∈ keys → ∀ key,
      (key ∈ keys ++ [EngineKey.ofConfig config] ↔ key ∈ keys) := by
    intro hmem key
    simp only [List.mem_append, List.mem_singleton, or_iff_left_iff_imp]
    rintro rfl
    exact hmem
  simp only [Traffic.apply]
  rcases EngineCache.ask_cases l gateOpen (EngineKey.ofConfig config) t.ticket t.cache with
    ⟨x, hh, he⟩ | ⟨hh, hb, he⟩ | ⟨hh, hb, he⟩
  · have hmem := (h.known (EngineKey.ofConfig config)).2 (.inl (by rw [hh]; rfl))
    rw [he]
    refine ⟨fun key => ?_, fun key => ?_, h.started⟩
    · rw [h.count_eq]
      exact if_congr (again hmem key).symm rfl rfl
    · rw [again hmem]
      exact h.known key
  · have hnew : EngineKey.ofConfig config ∉ keys := by
      rw [h.known, hh, hb]
      simp
    rw [he]
    refine ⟨fun key => ?_, fun key => ?_, fun key b => ?_⟩
    · rw [EngineCache.calls_startBuilding, List.count_cons, h.count_eq]
      by_cases hk : key = EngineKey.ofConfig config
      · subst hk
        simp [hnew]
      · simp [hk, Ne.symm hk]
    · by_cases hk : key = EngineKey.ofConfig config
      · subst hk
        simp
      · rw [EngineCache.sameBut_startBuilding l gateOpen _ t.ticket t.cache key hk, ← h.known]
        simp [hk]
    · by_cases hk : key = EngineKey.ofConfig config
      · subst hk
        rw [EngineCache.cell_startBuilding]
        rintro ⟨⟩
        rfl
      · rw [EngineCache.sameBut_startBuilding l gateOpen _ t.ticket t.cache key hk]
        exact h.started key b
  · have hmem := (h.known (EngineKey.ofConfig config)).2 (.inr hb)
    have hcell : ∀ key,
        ((t.cache.ask l gateOpen (EngineKey.ofConfig config) t.ticket).1.cell key).handle =
            (t.cache.cell key).handle ∧
          ((t.cache.ask l gateOpen (EngineKey.ofConfig config) t.ticket).1.cell key).builder =
            (t.cache.cell key).builder := by
      intro key
      by_cases hk : key = EngineKey.ofConfig config
      · subst hk
        rw [he]
        simp only [EngineCache.cell_put (EngineCache.key_withWaiting _ t.cache _)]
        exact ⟨trivial, trivial⟩
      · rw [EngineCache.sameBut_ask l gateOpen _ t.ticket t.cache key hk]
        exact ⟨rfl, rfl⟩
    refine ⟨fun key => ?_, fun key => ?_, fun key b => ?_⟩
    · rw [he, EngineCache.calls_put, h.count_eq]
      exact if_congr (again hmem key).symm rfl rfl
    · rw [again hmem, (hcell key).1, (hcell key).2]
      exact h.known key
    · rw [(hcell key).2]
      exact h.started key b

/-- Nobody's turn to build comes, since nobody gave it up; so a request that goes on brings
the outcome, or finds it there. -/
theorem goOn (h : t.Prompt keys) (i : Nat) : (t.apply l gateOpen (.goOn i)).Prompt keys := by
  simp only [Traffic.apply]
  split
  · exact h
  · next p hp =>
    obtain ⟨config, r⟩ := p
    split
    · next hgo =>
      cases r with
      | queued ticket =>
        rcases EngineCache.goOn_queued_cases l gateOpen (EngineKey.ofConfig config) ticket t.cache
          config with ⟨x, hh, he⟩ | ⟨hh, he⟩
        · rw [he]
          exact ⟨h.count_eq, h.known, h.started⟩
        · obtain ⟨b, hb, -, hstarted⟩ : ∃ b,
              (t.cache.cell (EngineKey.ofConfig config)).builder = some b ∧
                b.ticket = ticket ∧ b.started = false := by
            simpa [EngineCache.canGoOn, hh, Option.any_eq_true] using hgo
          rw [h.started _ b hb] at hstarted
          cases hstarted
      | building ticket =>
        have hb : (t.cache.cell (EngineKey.ofConfig config)).builder.isSome := by
          obtain ⟨b, hb, -⟩ := (Option.any_eq_true _ _).mp hgo
          simp [hb]
        have hmem := (h.known _).2 (.inr hb)
        refine ⟨h.count_eq, fun key => ?_, fun key b => ?_⟩
        · by_cases hk : key = EngineKey.ofConfig config
          · subst hk
            simp [EngineCache.cell_goOn_building, hmem]
          · simp only
            rw [EngineCache.sameBut_goOn l gateOpen _ t.cache config _ key hk]
            exact h.known key
        · by_cases hk : key = EngineKey.ofConfig config
          · subst hk
            simp [EngineCache.cell_goOn_building]
          · simp only
            rw [EngineCache.sameBut_goOn l gateOpen _ t.cache config _ key hk]
            exact h.started key b
      | answered x => simp [EngineCache.canGoOn] at hgo
    · exact h

theorem arrive (h : t.Prompt keys) (key : EngineKey) :
    (t.apply l gateOpen (.arrive key)).Prompt keys := by
  have hcell : ∀ key', (t.cache.arrive key).cell key' = t.cache.cell key' ∨
      (t.cache.arrive key).cell key' = EngineCache.arriveIn (t.cache.cell key') := by
    intro key'
    by_cases hk : key' = key
    · subst hk
      exact .inr (EngineCache.cell_arrive key' t.cache)
    · exact .inl (EngineCache.sameBut_arrive key t.cache key' hk)
  refine ⟨h.count_eq, fun key' => ?_, fun key' b => ?_⟩
  · rcases hcell key' with he | he
    · simp only [Traffic.apply, he]
      exact h.known key'
    · simp only [Traffic.apply, he, EngineCache.arriveIn, Option.isSome_map]
      exact h.known key'
  · rcases hcell key' with he | he
    · simp only [Traffic.apply, he]
      exact h.started key' b
    · simp only [Traffic.apply, he, EngineCache.arriveIn, Option.map_eq_some_iff]
      rintro ⟨b', hb', rfl⟩
      rw [if_pos (h.started key' b' hb')]
      exact h.started key' b' hb'

end Prompt

/-- Where nobody gives up, the loader is called once for every key that is asked for. -/
theorem prompt_after {es : List TrafficEvent} (hes : ∀ i, .giveUp i ∉ es) :
    (after l gateOpen es).Prompt (asked es) := by
  induction es using List.reverseRecOn with
  | nil => exact .start
  | append_singleton es e ih =>
    have ih := ih fun i hi => hes i (List.mem_append_left _ hi)
    rw [after_snoc, asked, List.filterMap_append]
    cases e with
    | ask config => exact ih.ask config
    | goOn i =>
      rw [List.filterMap_cons_none rfl, List.filterMap_nil, List.append_nil]
      exact ih.goOn i
    | arrive key =>
      rw [List.filterMap_cons_none rfl, List.filterMap_nil, List.append_nil]
      exact ih.arrive key
    | giveUp i => exact absurd (List.mem_append_right _ List.mem_cons_self) (hes i)

/-! ## The loader's calls -/

theorem handle_eq_none_iff {l : Loader} {c : Config} :
    l.handle c = none ↔ ∃ e, l.build c = .error e := by
  unfold Loader.handle
  cases l.build c <;> simp [Except.toOption]

/-- The loader is called once for every key.  After every history of requests, in which
they are made, go on and are given up in any order: the loader is at work on a key for one
request at most; when its work comes to an end, its outcome is that of the key; from then
on the loader is not at work on the key and is not called for it again, and the outcome
stays; every request that was answered was answered with the outcome of its key, which is
no engine if and only if the loader failed; and if nobody gave up, the loader was called
once for each key that was asked for, and for no other one. -/
theorem one_call_per_key (l : Loader) (gateOpen : Bool) (es : List TrafficEvent) :
    let t := after l gateOpen es
    (∀ key, t.loading key ≤ 1) ∧
    (∀ (i : Nat) (config : Config) (ticket : Ticket),
      t.requests[i]? = some ⟨config, .building ticket⟩ →
      t.cache.canGoOn (EngineKey.ofConfig config) (.building ticket) = true →
      ((t.apply l gateOpen (.goOn i)).cache.cell (EngineKey.ofConfig config)).handle =
        some (l.handle config)) ∧
    (∀ key h, (t.cache.cell key).handle = some h → ∀ es',
      let t' := after l gateOpen (es ++ es')
      t'.loading key = 0 ∧ t'.cache.calls.count key = t.cache.calls.count key ∧
        (t'.cache.cell key).handle = some h) ∧
    (∀ p ∈ t.requests, ∀ h, p.request = .answered h →
      (t.cache.cell (EngineKey.ofConfig p.config)).handle = some h ∧
      ∃ b, t.builtFor? (EngineKey.ofConfig p.config) = some b ∧ h = l.handle b ∧
        (h = none ↔ ∃ e, l.build b = .error e)) ∧
    ((∀ i, .giveUp i ∉ es) →
      ∀ key, t.cache.calls.count key = if key ∈ asked es then 1 else 0) := by
  intro t
  have hsound : t.Sound l := sound_after l gateOpen es
  refine ⟨(orderly_after l gateOpen es).loading_le_one, ?_, ?_, ?_, fun hes =>
    (prompt_after hes).count_eq⟩
  · intro i config ticket hp hgo
    simp only [Traffic.apply, hp, hgo, if_true, EngineCache.cell_goOn_building]
  · intro key h hh es' t'
    have hsettled := hsound.settled gateOpen hh es'
    rw [← after_append] at hsettled
    exact ⟨(orderly_after l gateOpen (es ++ es')).loading_of_settled hsettled.1, hsettled.2,
      hsettled.1⟩
  · intro p hp h ha
    obtain ⟨b, hb, -, rfl⟩ := exists_builtFor_of_answered hp ha
    refine ⟨?_, b, hb, rfl, handle_eq_none_iff⟩
    rw [hsound.handle_eq, hb]
    rfl

/-- A loader that fails is called once for two requests, and both of them get no engine. -/
theorem one_call_per_key_failing :
    let c := Config.standard []
    let es := askTwice c c
    let t := after .failing false es
    t.requests = [⟨c, .answered none⟩, ⟨c, .answered none⟩] ∧
    t.cache.calls.count (EngineKey.ofConfig c) = 1 ∧
    (t.cache.cell (EngineKey.ofConfig c)).handle = some none ∧
    ∀ es', (after .failing false (es ++ es')).cache.calls.count (EngineKey.ofConfig c) = 1 := by
  intro c es t
  have hrequests : t.requests = [⟨c, .answered none⟩, ⟨c, .answered none⟩] :=
    requests_after_askTwice .failing false rfl
  obtain ⟨-, -, hsettled, hanswered, hcount⟩ := one_call_per_key .failing false es
  have hone : t.cache.calls.count (EngineKey.ofConfig c) = 1 := by
    rw [hcount (by simp [es, askTwice])]
    simp [es, askTwice, asked]
  have hhandle := (hanswered ⟨c, .answered none⟩
    (by rw [hrequests]; exact List.mem_cons_self) none rfl).1
  refine ⟨hrequests, hone, hhandle, fun es' => ?_⟩
  exact (hsettled _ none hhandle es').2.1.trans hone

/-- The request that the loader is at work for is given up: the loader is called again, for
the next one. -/
example (c : Config) :
    let t := after .gated false [.ask c, .ask c, .giveUp 0, .goOn 0]
    t.requests = [⟨c, .building 1⟩] ∧
      t.cache.calls = [EngineKey.ofConfig c, EngineKey.ofConfig c] := by
  have hcalls : EngineCache.empty.calls = [] := rfl
  simp [after, start, Traffic.apply, EngineCache.ask, EngineCache.giveUp, EngineCache.canGoOn,
    EngineCache.goOn, EngineCache.cell_put, hcalls]

end Traffic

end PageHighlight
