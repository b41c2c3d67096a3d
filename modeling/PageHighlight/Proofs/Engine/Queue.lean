/-
  Proofs/Engine/Queue.lean --- nobody waits for an engine in vain.

  WHAT THIS FILE IS FOR.  The requests of a key that were not answered yet are those
  that its cell knows of: first the one whose turn it is to build, then those in the
  queue, in the order in which they asked (`Cell.Queues`).  Whoever is given up leaves
  the queue, and its turn goes to the next one.  Therefore somebody can go on as long
  as anybody waits, and after every history every request can be answered
  (`Traffic.exists_answered`).
-/
import Mathlib.Data.List.Nodup
import PageHighlight.Proofs.Engine.Traffic

set_option autoImplicit false

namespace PageHighlight

open EngineCache (Pending)

/-! ## Who waits -/

/-- The ticket of a request that was not answered, and whether it builds. -/
def Request.waiter? : Request → Option (Ticket × Bool)
  | .queued ticket => some (ticket, false)
  | .building ticket => some (ticket, true)
  | .answered _ => none

namespace Cell

/-- The requests that a cell knows of, the one whose turn it is first. -/
def waiters (cell : Cell) : List (Ticket × Bool) :=
  (cell.builder.map fun b => (b.ticket, b.started)).toList ++ cell.waiting.map (·, false)

/-- A cell without the request of a ticket. -/
def leave (ticket : Ticket) (cell : Cell) : Cell :=
  match cell.builder with
  | some b =>
    if b.ticket = ticket then
      match cell.waiting with
      | [] => { cell with builder := none }
      | next :: rest => { cell with builder := some ⟨next, false, false⟩, waiting := rest }
    else { cell with waiting := cell.waiting.filter (· ≠ ticket) }
  | none => { cell with waiting := cell.waiting.filter (· ≠ ticket) }

theorem key_leave (ticket : Ticket) (cell : Cell) : (cell.leave ticket).key = cell.key := by
  unfold leave
  split
  · split
    · split <;> rfl
    · rfl
  · rfl

theorem handle_leave (ticket : Ticket) (cell : Cell) :
    (cell.leave ticket).handle = cell.handle := by
  unfold leave
  split
  · split
    · split <;> rfl
    · rfl
  · rfl

/-- Until the engine is there, a cell knows of the requests that wait for it; then
nobody builds any more. -/
structure Queues (cell : Cell) (ws : List (Ticket × Bool)) (next : Ticket) : Prop where
  waiters_eq : cell.handle = none → ws = cell.waiters
  waiting_eq : cell.handle = none → cell.builder = none → cell.waiting = []
  queued : cell.handle.isSome → ∀ w ∈ ws, w.2 = false
  nodup : (ws.map (·.1)).Nodup
  lt_next : ∀ w ∈ ws, w.1 < next

namespace Queues

variable {cell : Cell} {ws as bs : List (Ticket × Bool)} {next ticket : Ticket} {started : Bool}

theorem mono (h : cell.Queues ws next) {next' : Ticket} (hn : next ≤ next') :
    cell.Queues ws next' :=
  { h with lt_next := fun w hw => Nat.lt_of_lt_of_le (h.lt_next w hw) hn }

/-- If the engine is not there, the request whose turn it is comes before all others. -/
theorem first (h : cell.Queues (as ++ (ticket, started) :: bs) next) (hh : cell.handle = none) :
    ∃ b, cell.builder = some b ∧
      (ticket = b.ticket → as = [] ∧ started = b.started ∧ bs = cell.waiting.map (·, false)) ∧
      (ticket ≠ b.ticket → ∃ as', as = (b.ticket, b.started) :: as' ∧
        as' ++ (ticket, started) :: bs = cell.waiting.map (·, false)) := by
  have heq := h.waiters_eq hh
  cases hb : cell.builder with
  | none =>
    rw [waiters, hb, h.waiting_eq hh hb] at heq
    simp at heq
  | some b =>
    rw [waiters, hb] at heq
    refine ⟨b, rfl, ?_, ?_⟩
    · rintro rfl
      cases as with
      | nil =>
        simp only [Option.map_some, Option.toList_some, List.nil_append, List.singleton_append,
          List.cons.injEq, Prod.mk.injEq, true_and] at heq
        exact ⟨rfl, heq.1, heq.2⟩
      | cons a as =>
        -- the ticket would be there twice
        simp only [Option.map_some, Option.toList_some, List.cons_append, List.cons.injEq] at heq
        have hnodup := h.nodup
        simp [heq.1] at hnodup
    · intro hne
      cases as with
      | nil =>
        simp only [Option.map_some, Option.toList_some, List.nil_append, List.singleton_append,
          List.cons.injEq, Prod.mk.injEq] at heq
        exact absurd heq.1.1 hne
      | cons a as =>
        simp only [Option.map_some, Option.toList_some, List.cons_append, List.cons.injEq] at heq
        exact ⟨as, by rw [heq.1], heq.2⟩

theorem nodup_append (h : cell.Queues (as ++ (ticket, started) :: bs) next) :
    ((as ++ bs).map (·.1)).Nodup :=
  h.nodup.sublist ((List.Sublist.append_left (List.sublist_cons_self _ bs) as).map _)

theorem lt_next_append (h : cell.Queues (as ++ (ticket, started) :: bs) next) :
    ∀ w ∈ as ++ bs, w.1 < next := by
  intro w hw
  refine h.lt_next w ?_
  rcases List.mem_append.mp hw with hw | hw
  · exact List.mem_append_left _ hw
  · exact List.mem_append_right _ (List.mem_cons_of_mem _ hw)

/-! ### What becomes of a queue -/

/-- A request that is answered leaves. -/
theorem answer (h : cell.Queues (as ++ (ticket, started) :: bs) next)
    (hh : cell.handle.isSome) : cell.Queues (as ++ bs) next where
  waiters_eq hnone := by simp [hnone] at hh
  waiting_eq hnone := by simp [hnone] at hh
  queued _ w hw := by
    refine h.queued hh w ?_
    rcases List.mem_append.mp hw with hw | hw
    · exact List.mem_append_left _ hw
    · exact List.mem_append_right _ (List.mem_cons_of_mem _ hw)
  nodup := h.nodup_append
  lt_next := h.lt_next_append

/-- A request comes, as the last one. -/
theorem snoc (h : cell.Queues ws next) (hh : cell.handle = none) {cell' : Cell}
    (hh' : cell'.handle = none) (hcell : cell'.waiters = cell.waiters ++ [(next, started)])
    (hn : cell'.builder = none → cell'.waiting = []) :
    cell'.Queues (ws ++ [(next, started)]) (next + 1) where
  waiters_eq _ := by rw [hcell, h.waiters_eq hh]
  waiting_eq _ := hn
  queued hsome := by simp [hh'] at hsome
  nodup := by
    rw [List.map_append, List.nodup_append]
    refine ⟨h.nodup, List.nodup_singleton _, ?_⟩
    intro k hk k' hk'
    obtain ⟨w, hw, rfl⟩ := List.mem_map.mp hk
    obtain rfl := List.mem_singleton.mp hk'
    exact Nat.ne_of_lt (h.lt_next w hw)
  lt_next w hw := by
    rcases List.mem_append.mp hw with hw | hw
    · exact Nat.lt_succ_of_lt (h.lt_next w hw)
    · obtain rfl := List.mem_singleton.mp hw
      exact Nat.lt_succ_self next

/-- The request whose turn it is begins to build. -/
theorem turn (h : cell.Queues (as ++ (ticket, false) :: bs) next) (hh : cell.handle = none)
    {b : Builder} (hb : cell.builder = some b) (hk : b.ticket = ticket) (arrived : Bool) :
    ({ cell with builder := some ⟨ticket, true, arrived⟩ } : Cell).Queues
      (as ++ (ticket, true) :: bs) next where
  waiters_eq _ := by
    obtain ⟨b', hb', hfirst, -⟩ := h.first hh
    cases hb.symm.trans hb'
    obtain ⟨rfl, -, rfl⟩ := hfirst hk.symm
    rfl
  waiting_eq _ hn := by cases hn
  queued hsome := by
    have hnone : Option.isSome cell.handle = true := hsome
    simp [hh] at hnone
  nodup := by simpa using h.nodup
  lt_next := by simpa [or_imp, forall_and] using h.lt_next

/-- A request that builds is the first one, and the engine is not there. -/
theorem builds (h : cell.Queues (as ++ (ticket, true) :: bs) next) :
    cell.handle = none ∧ bs = cell.waiting.map (·, false) ∧ as = [] ∧
      ∃ b, cell.builder = some b ∧ b.ticket = ticket ∧ b.started = true := by
  have hmem : (ticket, true) ∈ as ++ (ticket, true) :: bs :=
    List.mem_append_right _ List.mem_cons_self
  have hnone : cell.handle = none := by
    cases hh : cell.handle with
    | none => rfl
    | some handle => cases h.queued (by simp [hh]) _ hmem
  obtain ⟨b, hb, hfirst, hlater⟩ := h.first hnone
  by_cases hk : ticket = b.ticket
  · obtain ⟨has, hstarted, hbs⟩ := hfirst hk
    exact ⟨hnone, hbs, has, b, hb, hk.symm, hstarted.symm⟩
  · -- those that wait for their turn do not build
    obtain ⟨as', -, hwaiting⟩ := hlater hk
    have hwrong : (ticket, true) ∈ cell.waiting.map (·, false) :=
      hwaiting ▸ List.mem_append_right _ List.mem_cons_self
    simp at hwrong

/-- The request that builds brings the engine. -/
theorem bring (h : cell.Queues (as ++ (ticket, true) :: bs) next) (handle : Handle) :
    ({ cell with builder := none, waiting := [], handle := some handle } : Cell).Queues
      (as ++ bs) next where
  waiters_eq hnone := by cases hnone
  waiting_eq hnone := by cases hnone
  queued _ := by
    obtain ⟨-, rfl, rfl, -⟩ := h.builds
    simp
  nodup := h.nodup_append
  lt_next := h.lt_next_append

/-- What is being built is there. -/
theorem arriveIn (h : cell.Queues ws next) : (EngineCache.arriveIn cell).Queues ws next where
  waiters_eq hh := by
    rw [h.waiters_eq hh, waiters, waiters, EngineCache.arriveIn, Option.map_map]
    congr 3
    funext b
    cases hb : b.started <;> simp [hb]
  waiting_eq hh hn := h.waiting_eq hh (by simpa [EngineCache.arriveIn] using hn)
  queued := h.queued
  nodup := h.nodup
  lt_next := h.lt_next

/-- Taking a ticket out of a queue takes out the request that has it. -/
theorem filter_ticket (h : ((as ++ (ticket, started) :: bs).map (·.1)).Nodup) :
    (as ++ (ticket, started) :: bs).filter (·.1 ≠ ticket) = as ++ bs := by
  have hnodup : (ticket :: (as ++ bs).map (·.1)).Nodup := by
    have hperm : (as ++ (ticket, started) :: bs).Perm ((ticket, started) :: (as ++ bs)) :=
      List.perm_middle
    exact (hperm.map (·.1)).nodup_iff.mp h
  have hout (w : Ticket × Bool) (hw : w ∈ as ++ bs) : w.1 ≠ ticket := by
    rintro rfl
    exact (List.nodup_cons.mp hnodup).1 (List.mem_map_of_mem hw)
  rw [List.filter_append, List.filter_cons_of_neg (by simp), ← List.filter_append,
    List.filter_eq_self]
  intro w hw
  simpa using hout w hw

/-- A request that is given up leaves, and its turn goes to the next one. -/
theorem leave (h : cell.Queues (as ++ (ticket, started) :: bs) next) :
    (cell.leave ticket).Queues (as ++ bs) next := by
  cases hh : cell.handle with
  | some handle =>
    have hanswer := h.answer (by simp [hh])
    have hleave : (cell.leave ticket).handle = some handle := (cell.handle_leave ticket).trans hh
    exact ⟨by simp [hleave], by simp [hleave], fun _ => hanswer.queued (by simp [hh]),
      hanswer.nodup, hanswer.lt_next⟩
  | none =>
    have hleave : (cell.leave ticket).handle = none := (cell.handle_leave ticket).trans hh
    obtain ⟨b, hb, hfirst, hlater⟩ := h.first hh
    refine ⟨fun _ => ?_, fun _ => ?_, by simp [hleave], h.nodup_append, h.lt_next_append⟩
    · by_cases hk : ticket = b.ticket
      · obtain ⟨rfl, -, rfl⟩ := hfirst hk
        simp only [Cell.leave, hb, hk.symm, if_true]
        cases cell.waiting with
        | nil => rfl
        | cons k rest => rfl
      · obtain ⟨as', rfl, hwaiting⟩ := hlater hk
        have hnodup : ((as' ++ (ticket, started) :: bs).map (·.1)).Nodup := by
          have hall := h.nodup
          rw [List.cons_append, List.map_cons, List.nodup_cons] at hall
          exact hall.2
        have hrest : (cell.waiting.filter (· ≠ ticket)).map (·, false) = as' ++ bs := by
          rw [← filter_ticket hnodup, hwaiting, List.filter_map]
          rfl
        simp only [Cell.leave, hb, Ne.symm hk, if_false, waiters, hrest]
        rfl
    · by_cases hk : ticket = b.ticket
      · simp only [Cell.leave, hb, hk.symm, if_true]
        cases cell.waiting with
        | nil => exact fun _ => rfl
        | cons k rest => exact fun hn => by cases hn
      · simp [Cell.leave, hb, Ne.symm hk]

end Queues

end Cell

/-! ## Operations on one key -/

namespace EngineCache

/-- The cells of all keys but one are the same. -/
def SameBut (key : EngineKey) (c c' : EngineCache) : Prop :=
  ∀ key', key' ≠ key → c'.cell key' = c.cell key'

section

variable (l : Loader) (gateOpen : Bool) (key : EngineKey) (ticket : Ticket) (c : EngineCache)

theorem SameBut.refl : SameBut key c c := fun _ _ => rfl

theorem sameBut_put {cell : Cell} (hk : cell.key = key) : SameBut key c (c.put cell) :=
  fun _ h => cell_put_of_ne (hk ▸ h.symm) c

theorem key_withWaiting (waiting : List Ticket) :
    ({ c.cell key with waiting := waiting } : Cell).key = key := cell_key key c

theorem sameBut_startBuilding : SameBut key c (c.startBuilding l gateOpen key ticket) :=
  sameBut_put key c (key_withBuilder key c _)

theorem sameBut_ask : SameBut key c (c.ask l gateOpen key ticket).1 := by
  rcases ask_cases l gateOpen key ticket c with ⟨h, -, he⟩ | ⟨-, -, he⟩ | ⟨-, -, he⟩
  · rw [he]
    exact SameBut.refl key c
  · rw [he]
    exact sameBut_startBuilding l gateOpen key ticket c
  · rw [he]
    exact sameBut_put key c (cell_key key c)

theorem sameBut_goOn (config : Config) (r : Request) :
    SameBut key c (c.goOn l gateOpen config key r).1 := by
  cases r with
  | queued ticket =>
    rcases goOn_queued_cases l gateOpen key ticket c config with ⟨h, -, he⟩ | ⟨-, he⟩
    · rw [he]
      exact SameBut.refl key c
    · rw [he]
      exact sameBut_startBuilding l gateOpen key ticket c
  | building ticket => exact sameBut_put key c (cell_key key c)
  | answered h => exact SameBut.refl key c

theorem sameBut_arrive : SameBut key c (c.arrive key) := sameBut_put key c (cell_key key c)

theorem giveUp_eq_put {r : Request} {started : Bool} (hr : r.waiter? = some (ticket, started)) :
    c.giveUp key r = c.put ((c.cell key).leave ticket) := by
  have hgiveUp : c.giveUp key r = c.giveUp key (.queued ticket) := by
    cases r with
    | answered h => cases hr
    | _ =>
      cases hr
      rfl
  rw [hgiveUp]
  simp only [giveUp, Cell.leave]
  cases (c.cell key).builder with
  | none => rfl
  | some b =>
    by_cases hk : b.ticket = ticket
    · simp only [hk, if_true]
      cases (c.cell key).waiting <;> rfl
    · simp only [hk, if_false]

end

end EngineCache

/-! ## Orderly traffic -/

namespace Traffic

/-- The ticket of a request for a key that was not answered, and whether it builds. -/
def waiterFor (key : EngineKey) (p : Pending) : Option (Ticket × Bool) :=
  if EngineKey.ofConfig p.config = key then p.request.waiter? else none

/-- The requests for a key that were not answered. -/
def waiters (key : EngineKey) (t : Traffic) : List (Ticket × Bool) :=
  t.requests.filterMap (waiterFor key)

/-- Every cell knows of the requests that wait for its engine. -/
def Orderly (t : Traffic) : Prop :=
  ∀ key, (t.cache.cell key).Queues (t.waiters key) t.ticket

theorem orderly_start : start.Orderly := by
  intro key
  have hnone : start.waiters key = [] := rfl
  rw [hnone]
  exact ⟨fun _ => rfl, fun _ _ => rfl, by simp, by simp, by simp⟩

variable {l : Loader} {gateOpen : Bool} {t t' : Traffic}

/-- What happens to the requests of one key leaves the others in order. -/
theorem Orderly.change (h : t.Orderly) (key : EngineKey)
    (hcell : (t'.cache.cell key).Queues (t'.waiters key) t'.ticket)
    (hcells : t.cache.SameBut key t'.cache)
    (hwaiters : ∀ key', key' ≠ key → t'.waiters key' = t.waiters key')
    (hticket : t.ticket ≤ t'.ticket) : t'.Orderly := by
  intro key'
  by_cases hk : key' = key
  · exact hk ▸ hcell
  · rw [hcells key' hk, hwaiters key' hk]
    exact (h key').mono hticket

theorem filterMap_singleton {α β : Type} (f : α → Option β) (x : α) :
    [x].filterMap f = (f x).toList := by
  cases h : f x <;> simp [h]

theorem waiterFor_self (config : Config) (r : Request) :
    waiterFor (EngineKey.ofConfig config) ⟨config, r⟩ = r.waiter? := if_pos rfl

theorem waiterFor_of_ne {key : EngineKey} {config : Config} (h : key ≠ EngineKey.ofConfig config)
    (r : Request) : waiterFor key ⟨config, r⟩ = none := if_neg h.symm

theorem Orderly.ask (h : t.Orderly) (config : Config) :
    (t.apply l gateOpen (.ask config)).Orderly := by
  have hqueues := h (EngineKey.ofConfig config)
  have hwaiters (key : EngineKey) : (t.apply l gateOpen (.ask config)).waiters key =
      t.waiters key ++ (waiterFor key ⟨config,
        (t.cache.ask l gateOpen (EngineKey.ofConfig config) t.ticket).2⟩).toList := by
    simp only [waiters, Traffic.apply, List.filterMap_append, filterMap_singleton]
  refine h.change (EngineKey.ofConfig config) ?_
    (EngineCache.sameBut_ask l gateOpen _ t.ticket t.cache) ?_ (Nat.le_succ t.ticket)
  · rw [hwaiters, waiterFor_self]
    simp only [Traffic.apply]
    rcases EngineCache.ask_cases l gateOpen (EngineKey.ofConfig config) t.ticket t.cache with
      ⟨x, -, he⟩ | ⟨hh, hb, he⟩ | ⟨hh, hb, he⟩
    · rw [he]
      simpa [Request.waiter?] using hqueues.mono (Nat.le_succ t.ticket)
    · rw [he]
      refine hqueues.snoc hh ?_ ?_ ?_
      · simp [hh]
      · simp [Cell.waiters, hb, hqueues.waiting_eq hh hb]
      · simp
    · rw [he]
      have hcell := EngineCache.cell_put (EngineCache.key_withWaiting (EngineKey.ofConfig config)
        t.cache ((t.cache.cell (EngineKey.ofConfig config)).waiting ++ [t.ticket])) t.cache
      simp only [hcell]
      refine hqueues.snoc hh hh ?_ ?_
      · simp [Cell.waiters]
      · intro hn
        have hnone : (t.cache.cell (EngineKey.ofConfig config)).builder = none := hn
        simp [hnone] at hb
  · intro key' hk
    rw [hwaiters, waiterFor_of_ne hk]
    exact List.append_nil _

/-- A list around one of its places. -/
theorem exists_split {α : Type} {xs : List α} {i : Nat} {x : α} (h : xs[i]? = some x) :
    ∃ as bs, xs = as ++ x :: bs ∧ (∀ y, xs.set i y = as ++ y :: bs) ∧
      xs.eraseIdx i = as ++ bs := by
  obtain ⟨hlt, rfl⟩ := List.getElem?_eq_some_iff.mp h
  refine ⟨xs.take i, xs.drop (i + 1), ?_, ?_, List.eraseIdx_eq_take_drop_succ xs i⟩
  · rw [List.getElem_cons_drop, List.take_append_drop]
  · intro y
    rw [List.set_eq_take_append_cons_drop, if_pos hlt]

/-- The requests of a key around one of them. -/
theorem waiters_eq_of_split {config : Config} {r : Request} {as bs : List Pending}
    (h : t.requests = as ++ ⟨config, r⟩ :: bs) {w : Ticket × Bool} (hw : r.waiter? = some w) :
    t.waiters (EngineKey.ofConfig config) =
      as.filterMap (waiterFor (EngineKey.ofConfig config)) ++
        w :: bs.filterMap (waiterFor (EngineKey.ofConfig config)) := by
  have hself := (waiterFor_self config r).trans hw
  rw [waiters, h, List.filterMap_append, List.filterMap_cons_some hself]

theorem Orderly.giveUp (h : t.Orderly) (i : Nat) :
    (t.apply l gateOpen (.giveUp i)).Orderly := by
  simp only [Traffic.apply]
  split
  · exact h
  · next p hp =>
    obtain ⟨config, r⟩ := p
    obtain ⟨as, bs, hrequests, -, herase⟩ := exists_split hp
    have hothers (key : EngineKey) (hk : key ≠ EngineKey.ofConfig config) :
        (t.requests.eraseIdx i).filterMap (waiterFor key) = t.waiters key := by
      rw [waiters, herase, hrequests]
      simp [waiterFor_of_ne hk]
    have hqueues := h (EngineKey.ofConfig config)
    cases hw : r.waiter? with
    | none =>
      have hsame : t.cache.giveUp (EngineKey.ofConfig config) r = t.cache := by
        cases r with
        | answered x => rfl
        | _ => cases hw
      have hself : (t.requests.eraseIdx i).filterMap (waiterFor (EngineKey.ofConfig config)) =
          t.waiters (EngineKey.ofConfig config) := by
        rw [waiters, herase, hrequests]
        simp [waiterFor_self, hw]
      simp only [hsame]
      refine h.change _ ?_ (.refl _ _) hothers (Nat.le_refl _)
      rw [waiters, hself]
      exact hqueues
    | some w =>
      obtain ⟨ticket, started⟩ := w
      have hput := EngineCache.giveUp_eq_put (EngineKey.ofConfig config) ticket t.cache hw
      have hkey : ((t.cache.cell (EngineKey.ofConfig config)).leave ticket).key =
          EngineKey.ofConfig config := (Cell.key_leave ticket _).trans (EngineCache.cell_key _ _)
      rw [waiters_eq_of_split hrequests hw] at hqueues
      simp only [hput]
      refine h.change _ ?_ (EngineCache.sameBut_put _ t.cache hkey) hothers (Nat.le_refl _)
      rw [EngineCache.cell_put hkey, waiters, herase, List.filterMap_append]
      exact hqueues.leave

theorem Orderly.goOn (h : t.Orderly) (i : Nat) : (t.apply l gateOpen (.goOn i)).Orderly := by
  simp only [Traffic.apply]
  split
  · exact h
  · next p hp =>
    obtain ⟨config, r⟩ := p
    obtain ⟨as, bs, hrequests, hset, -⟩ := exists_split hp
    split
    · next hgo =>
      have hothers (key : EngineKey) (hk : key ≠ EngineKey.ofConfig config) (r' : Request) :
          (t.requests.set i ⟨config, r'⟩).filterMap (waiterFor key) = t.waiters key := by
        rw [waiters, hset, hrequests]
        simp [waiterFor_of_ne hk]
      have hself (r' : Request) : (t.requests.set i ⟨config, r'⟩).filterMap
            (waiterFor (EngineKey.ofConfig config)) =
          as.filterMap (waiterFor (EngineKey.ofConfig config)) ++
            (r'.waiter?.toList ++ bs.filterMap (waiterFor (EngineKey.ofConfig config))) := by
        rw [hset, List.filterMap_append]
        cases hw : r'.waiter? <;> simp [waiterFor_self, hw]
      have hqueues := h (EngineKey.ofConfig config)
      refine h.change (EngineKey.ofConfig config) ?_
        (EngineCache.sameBut_goOn l gateOpen _ t.cache config r)
        (fun key hk => hothers key hk _) (Nat.le_refl _)
      rw [waiters, hself]
      cases r with
      | queued ticket =>
        rw [waiters_eq_of_split hrequests rfl] at hqueues
        rcases EngineCache.goOn_queued_cases l gateOpen (EngineKey.ofConfig config) ticket t.cache
          config with ⟨x, hh, he⟩ | ⟨hh, he⟩
        · simp only [he]
          exact hqueues.answer (by simp [hh])
        · obtain ⟨b, hb, hturn, -⟩ : ∃ b,
              (t.cache.cell (EngineKey.ofConfig config)).builder = some b ∧
                b.ticket = ticket ∧ b.started = false := by
            simpa [EngineCache.canGoOn, hh, Option.any_eq_true] using hgo
          simp only [he, EngineCache.cell_startBuilding]
          exact hqueues.turn hh hb hturn _
      | building ticket =>
        rw [waiters_eq_of_split hrequests rfl] at hqueues
        simp only [EngineCache.cell_goOn_building]
        exact hqueues.bring _
      | answered x => simp [EngineCache.canGoOn] at hgo
    · exact h

theorem Orderly.arrive (h : t.Orderly) (key : EngineKey) :
    (t.apply l gateOpen (.arrive key)).Orderly := by
  refine h.change _ ?_ (EngineCache.sameBut_arrive key t.cache) (fun _ _ => rfl) (Nat.le_refl _)
  simp only [Traffic.apply, EngineCache.cell_arrive]
  exact (h key).arriveIn

theorem Orderly.apply (h : t.Orderly) (e : TrafficEvent) : (t.apply l gateOpen e).Orderly := by
  cases e with
  | ask config => exact h.ask config
  | goOn i => exact h.goOn i
  | arrive key => exact h.arrive key
  | giveUp i => exact h.giveUp i

/-- Traffic is orderly after every history. -/
theorem orderly_after (l : Loader) (gateOpen : Bool) (es : List TrafficEvent) :
    (after l gateOpen es).Orderly := by
  induction es using List.reverseRecOn with
  | nil => exact orderly_start
  | append_singleton es e ih =>
    rw [after_snoc]
    exact ih.apply e

/-! ## Nobody waits in vain -/

/-- Who builds can bring the engine. -/
theorem Orderly.exists_brought (h : t.Orderly) {i : Nat} {config : Config} {ticket : Ticket}
    (hp : t.requests[i]? = some ⟨config, .building ticket⟩) :
    ∃ es : List TrafficEvent,
      ((es.foldl (Traffic.apply l gateOpen) t).cache.cell
        (EngineKey.ofConfig config)).handle.isSome ∧
      (es.foldl (Traffic.apply l gateOpen) t).requests =
        t.requests.set i ⟨config, .answered (l.handle config)⟩ := by
  obtain ⟨as, bs, hrequests, -, -⟩ := exists_split hp
  have hqueues := h (EngineKey.ofConfig config)
  rw [waiters_eq_of_split hrequests rfl] at hqueues
  obtain ⟨-, -, -, b, hb, hticket, hstarted⟩ := hqueues.builds
  have hgo : (t.cache.arrive (EngineKey.ofConfig config)).canGoOn (EngineKey.ofConfig config)
      (.building ticket) = true := by
    simp [EngineCache.canGoOn, EngineCache.arriveIn, hb, hticket, hstarted]
  refine ⟨[.arrive (EngineKey.ofConfig config), .goOn i], ?_⟩
  simp only [List.foldl_cons, List.foldl_nil, Traffic.apply, hp, hgo, if_true,
    EngineCache.cell_goOn_building]
  exact ⟨rfl, rfl⟩

/-- The request whose turn it is can bring the engine. -/
theorem Orderly.exists_brought_of_turn (h : t.Orderly) {i : Nat} {config : Config} {r : Request}
    (hp : t.requests[i]? = some ⟨config, r⟩) {b : Builder}
    (hh : (t.cache.cell (EngineKey.ofConfig config)).handle = none)
    (hb : (t.cache.cell (EngineKey.ofConfig config)).builder = some b)
    (hr : r.waiter? = some (b.ticket, b.started)) :
    ∃ es : List TrafficEvent,
      ((es.foldl (Traffic.apply l gateOpen) t).cache.cell
        (EngineKey.ofConfig config)).handle.isSome ∧
      (es.foldl (Traffic.apply l gateOpen) t).requests =
        t.requests.set i ⟨config, .answered (l.handle config)⟩ := by
  cases r with
  | answered x => cases hr
  | building ticket => exact h.exists_brought hp
  | queued ticket =>
    obtain ⟨hticket, hstarted⟩ : ticket = b.ticket ∧ false = b.started := by
      simpa [Request.waiter?] using hr
    have hgo : t.cache.canGoOn (EngineKey.ofConfig config) (.queued ticket) = true := by
      simp [EngineCache.canGoOn, hb, hticket, ← hstarted]
    have hlt : i < t.requests.length := (List.getElem?_eq_some_iff.mp hp).1
    have hrequests : (t.apply l gateOpen (.goOn i)).requests =
        t.requests.set i ⟨config, .building ticket⟩ := by
      simp only [Traffic.apply, hp, hgo, if_true, EngineCache.goOn, hh]
    have hp' : (t.apply l gateOpen (.goOn i)).requests[i]? = some ⟨config, .building ticket⟩ := by
      rw [hrequests, List.getElem?_set_self hlt]
    obtain ⟨es, hhandle, hes⟩ := (h.apply (.goOn i)).exists_brought hp'
    refine ⟨.goOn i :: es, hhandle, ?_⟩
    rw [List.foldl_cons, hes, hrequests, List.set_set]

/-- If anybody waits for an engine, then it is somebody's turn to build it. -/
theorem Orderly.exists_turn (h : t.Orderly) {key : EngineKey}
    (hh : (t.cache.cell key).handle = none) (hw : t.waiters key ≠ []) :
    ∃ (b : Builder) (j : Nat) (config : Config) (r : Request),
      (t.cache.cell key).builder = some b ∧ t.requests[j]? = some ⟨config, r⟩ ∧
      EngineKey.ofConfig config = key ∧ r.waiter? = some (b.ticket, b.started) := by
  have heq := (h key).waiters_eq hh
  cases hb : (t.cache.cell key).builder with
  | none =>
    rw [heq, Cell.waiters, hb, (h key).waiting_eq hh hb] at hw
    exact absurd rfl hw
  | some b =>
    have hmem : (b.ticket, b.started) ∈ t.waiters key := by
      rw [heq, Cell.waiters, hb]
      exact List.mem_cons_self
    obtain ⟨p, hp, hwaiter⟩ := List.mem_filterMap.mp hmem
    obtain ⟨hkey, hr⟩ := Option.ite_none_right_eq_some.mp hwaiter
    obtain ⟨j, hj⟩ := List.getElem?_of_mem hp
    exact ⟨b, j, p.config, p.request, rfl, hj, hkey, hr⟩

/-- Every request can be answered. -/
theorem Orderly.exists_answered (h : t.Orderly) (l : Loader) (gateOpen : Bool) {i : Nat}
    {config : Config} {r : Request} (hp : t.requests[i]? = some ⟨config, r⟩) :
    ∃ (es : List TrafficEvent) (x : Handle),
      (es.foldl (Traffic.apply l gateOpen) t).requests[i]? = some ⟨config, .answered x⟩ := by
  have hlt : i < t.requests.length := (List.getElem?_eq_some_iff.mp hp).1
  have answered_at_once (t' : Traffic) {ticket : Ticket}
      (hp : t'.requests[i]? = some ⟨config, .queued ticket⟩)
      (hh : (t'.cache.cell (EngineKey.ofConfig config)).handle.isSome) :
      ∃ x, (t'.apply l gateOpen (.goOn i)).requests[i]? = some ⟨config, .answered x⟩ := by
    obtain ⟨x, hx⟩ := Option.isSome_iff_exists.mp hh
    have hlt : i < t'.requests.length := (List.getElem?_eq_some_iff.mp hp).1
    refine ⟨x, ?_⟩
    simp only [Traffic.apply, hp, EngineCache.canGoOn, EngineCache.goOn, hx, Option.isSome_some,
      Bool.true_or, if_true]
    exact List.getElem?_set_self hlt
  cases r with
  | answered x => exact ⟨[], x, hp⟩
  | building ticket =>
    obtain ⟨es, -, hes⟩ := h.exists_brought hp
    exact ⟨es, _, by rw [hes, List.getElem?_set_self hlt]⟩
  | queued ticket =>
    cases hh : (t.cache.cell (EngineKey.ofConfig config)).handle with
    | some x =>
      obtain ⟨x, hx⟩ := answered_at_once t hp (by simp [hh])
      exact ⟨[.goOn i], x, hx⟩
    | none =>
      -- somebody else may have to bring the engine first
      have hwaits : t.waiters (EngineKey.ofConfig config) ≠ [] := by
        obtain ⟨as, bs, hrequests, -, -⟩ := exists_split hp
        rw [waiters_eq_of_split hrequests rfl]
        simp
      obtain ⟨b, j, config', r', hb, hj, hkey, hr'⟩ := h.exists_turn hh hwaits
      rw [← hkey] at hh hb
      obtain ⟨es, hhandle, hes⟩ := h.exists_brought_of_turn hj hh hb hr'
      by_cases hij : j = i
      · subst hij
        cases hp.symm.trans hj
        exact ⟨es, _, by rw [hes, List.getElem?_set_self hlt]⟩
      · rw [hkey] at hhandle
        have hstill := hp
        rw [← List.getElem?_set_ne hij, ← hes] at hstill
        obtain ⟨x, hx⟩ := answered_at_once _ hstill hhandle
        refine ⟨es ++ [.goOn i], x, ?_⟩
        rw [List.foldl_append]
        exact hx

end Traffic

end PageHighlight
