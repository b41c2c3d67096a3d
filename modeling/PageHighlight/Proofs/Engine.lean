/-
  Proofs/Engine.lean --- every answer of the engine cache is the engine itself.

  WHAT THIS FILE IS FOR.  A render gets its engine from a cache that many requests
  work on.  No operation brings an engine or loses one (`Keeps`), but for the last step
  of the request that builds it.  If all of them are made for one configuration, then
  what the cache remembers of a key is what the loader makes of the configuration
  (`Remembers`), and so is every answer.
-/
import PageHighlight.Engine.Cache

set_option autoImplicit false

namespace PageHighlight

namespace EngineCache

/-! ## Cells -/

theorem cell_key (key : EngineKey) (c : EngineCache) : (c.cell key).key = key := by
  unfold cell
  cases h : c.cells.find? (·.key = key) with
  | none => rfl
  | some cell => simpa using List.find?_some h

theorem find?_putCell (cell : Cell) (cells : List Cell) :
    (putCell cell cells).find? (·.key = cell.key) = some cell := by
  induction cells with
  | nil => simp [putCell]
  | cons c cells ih =>
    simp only [putCell]
    by_cases h : c.key = cell.key
    · simp [h]
    · rw [if_neg h]
      simpa [h] using ih

/-- The cell that was put is the cell of its key. -/
theorem cell_put {key : EngineKey} {cell : Cell} (hk : cell.key = key) (c : EngineCache) :
    (c.put cell).cell key = cell := by
  subst hk
  unfold EngineCache.cell put
  rw [find?_putCell]
  rfl

theorem find?_putCell_of_ne {cell : Cell} {key : EngineKey} (hk : cell.key ≠ key)
    (cells : List Cell) :
    (putCell cell cells).find? (·.key = key) = cells.find? (·.key = key) := by
  induction cells with
  | nil => simp [putCell, hk]
  | cons c cells ih =>
    simp only [putCell]
    by_cases h : c.key = cell.key
    · simp [h, hk]
    · rw [if_neg h]
      simp only [List.find?_cons, ih]

/-- Putting a cell leaves those of other keys alone. -/
theorem cell_put_of_ne {cell : Cell} {key : EngineKey} (hk : cell.key ≠ key) (c : EngineCache) :
    (c.put cell).cell key = c.cell key := by
  unfold EngineCache.cell put
  rw [find?_putCell_of_ne hk]

@[simp] theorem cell_empty (key : EngineKey) : empty.cell key = ⟨key, none, [], none⟩ := rfl

theorem key_withBuilder (key : EngineKey) (c : EngineCache) (b : Option Builder) :
    ({ c.cell key with builder := b } : Cell).key = key := cell_key key c

@[simp] theorem cell_startBuilding (l : Loader) (gateOpen : Bool) (key : EngineKey)
    (ticket : Ticket) (c : EngineCache) :
    (c.startBuilding l gateOpen key ticket).cell key =
      { c.cell key with builder := some ⟨ticket, true, arrivesAtOnce l gateOpen⟩ } :=
  cell_put (key_withBuilder key c _) c

@[simp] theorem cell_arrive (key : EngineKey) (c : EngineCache) :
    (c.arrive key).cell key = arriveIn (c.cell key) :=
  cell_put (show (arriveIn (c.cell key)).key = key from cell_key key c) c

theorem cell_goOn_building (l : Loader) (gateOpen : Bool) (config : Config) (key : EngineKey)
    (ticket : Ticket) (c : EngineCache) :
    (c.goOn l gateOpen config key (.building ticket)).1.cell key =
      { c.cell key with builder := none, waiting := [], handle := some (l.handle config) } := by
  have hk : ({ c.cell key with
      builder := none, waiting := [], handle := some (l.handle config) } : Cell).key = key :=
    cell_key key c
  exact cell_put hk c

/-! ## What operations make of the cells -/

/-- An engine that is there stays, none comes, and nobody begins to build one that
is there. -/
def Keeps (c c' : EngineCache) : Prop :=
  ∀ key, (c'.cell key).handle = (c.cell key).handle ∧
    ((c'.cell key).builder.isSome → (c.cell key).builder.isSome ∨ (c.cell key).handle = none)

theorem Keeps.refl (c : EngineCache) : c.Keeps c := fun _ => ⟨rfl, .inl⟩

/-- A cell is put that has the engine of the one before. -/
theorem Keeps.put {c : EngineCache} {key : EngineKey} {cell : Cell} (hk : cell.key = key)
    (hh : cell.handle = (c.cell key).handle)
    (hb : cell.builder.isSome → (c.cell key).builder.isSome ∨ (c.cell key).handle = none) :
    c.Keeps (c.put cell) := by
  intro key'
  by_cases h : key = key'
  · subst h
    rw [cell_put hk]
    exact ⟨hh, hb⟩
  · rw [cell_put_of_ne (hk ▸ h)]
    exact ⟨rfl, .inl⟩

section

variable (l : Loader) (gateOpen : Bool) (key : EngineKey) (ticket : Ticket) (c : EngineCache)

/-- Asking is answered if the engine is there, begins to build if nobody does, and
waits otherwise. -/
theorem ask_cases :
    (∃ h, (c.cell key).handle = some h ∧ c.ask l gateOpen key ticket = (c, .answered h)) ∨
      ((c.cell key).handle = none ∧ (c.cell key).builder = none ∧
        c.ask l gateOpen key ticket =
          (c.startBuilding l gateOpen key ticket, .building ticket)) ∨
      ((c.cell key).handle = none ∧ (c.cell key).builder.isSome ∧
        c.ask l gateOpen key ticket =
          (c.put { c.cell key with waiting := (c.cell key).waiting ++ [ticket] },
            .queued ticket)) := by
  cases hh : (c.cell key).handle with
  | some h => exact .inl ⟨h, rfl, by simp only [ask, hh]⟩
  | none =>
    cases hb : (c.cell key).builder with
    | none => exact .inr (.inl ⟨rfl, rfl, by simp only [ask, hh, hb]⟩)
    | some b => exact .inr (.inr ⟨rfl, rfl, by simp only [ask, hh, hb]⟩)

/-- Who goes on in the queue is answered if the engine is there, and begins to build
otherwise. -/
theorem goOn_queued_cases (config : Config) :
    (∃ h, (c.cell key).handle = some h ∧
        c.goOn l gateOpen config key (.queued ticket) = (c, .answered h)) ∨
      ((c.cell key).handle = none ∧ c.goOn l gateOpen config key (.queued ticket) =
        (c.startBuilding l gateOpen key ticket, .building ticket)) := by
  cases hh : (c.cell key).handle with
  | some h => exact .inl ⟨h, rfl, by simp only [goOn, hh]⟩
  | none => exact .inr ⟨rfl, by simp only [goOn, hh]⟩

theorem keeps_startBuilding (h : (c.cell key).handle = none) :
    c.Keeps (c.startBuilding l gateOpen key ticket) :=
  Keeps.put (c := c) (key_withBuilder key c _) rfl fun _ => .inr h

/-- Asking leaves the engines as they are, and an answer is the engine of the key. -/
theorem keeps_ask :
    c.Keeps (c.ask l gateOpen key ticket).1 ∧
      ∀ h, (c.ask l gateOpen key ticket).2 = .answered h → (c.cell key).handle = some h := by
  rcases ask_cases l gateOpen key ticket c with ⟨h, hh, he⟩ | ⟨hh, -, he⟩ | ⟨hh, -, he⟩
  · rw [he]
    refine ⟨Keeps.refl c, ?_⟩
    rintro h' ⟨rfl⟩
    exact hh
  · rw [he]
    refine ⟨keeps_startBuilding l gateOpen key ticket c hh, ?_⟩
    rintro h' ⟨⟩
  · rw [he]
    refine ⟨Keeps.put (cell_key key c) rfl fun _ => .inr hh, ?_⟩
    rintro h' ⟨⟩

/-- Who goes on in the queue leaves the engines as they are, and an answer is the
engine of the key. -/
theorem keeps_goOn_queued (config : Config) :
    c.Keeps (c.goOn l gateOpen config key (.queued ticket)).1 ∧
      ∀ h, (c.goOn l gateOpen config key (.queued ticket)).2 = .answered h →
        (c.cell key).handle = some h := by
  rcases goOn_queued_cases l gateOpen key ticket c config with ⟨h, hh, he⟩ | ⟨hh, he⟩
  · rw [he]
    refine ⟨Keeps.refl c, ?_⟩
    rintro h' ⟨rfl⟩
    exact hh
  · rw [he]
    refine ⟨keeps_startBuilding l gateOpen key ticket c hh, ?_⟩
    rintro h' ⟨⟩

theorem keeps_arrive : c.Keeps (c.arrive key) := by
  refine Keeps.put (cell_key key c) rfl ?_
  intro hb
  exact .inl (by simpa [arriveIn] using hb)

theorem keeps_giveUp (r : Request) : c.Keeps (c.giveUp key r) := by
  have keep (b : Option Builder) (waiting : List Ticket)
      (hb : b.isSome → (c.cell key).builder.isSome) :
      c.Keeps (c.put { c.cell key with builder := b, waiting := waiting }) :=
    Keeps.put (cell_key key c) rfl fun h => .inl (hb h)
  cases r with
  | answered h => exact Keeps.refl c
  | _ =>
    simp only [giveUp]
    split
    · next b hb =>
      split
      · split
        · exact keep _ _ (by simp)
        · exact keep _ _ (by simp [hb])
      · exact keep _ _ id
    · exact keep _ _ id

end

/-! ## What is remembered of a key -/

/-- If the cache knows the engine of a key, it is this one. -/
def Remembers (key : EngineKey) (h : Handle) (c : EngineCache) : Prop :=
  ∀ h', (c.cell key).handle = some h' → h' = h

theorem remembers_empty (key : EngineKey) (h : Handle) : empty.Remembers key h := by
  intro h' hh
  cases hh

section

variable {key : EngineKey} {h : Handle} {c : EngineCache}

theorem Remembers.keep (hc : c.Remembers key h) {c' : EngineCache} (hk : c.Keeps c') :
    c'.Remembers key h := by
  intro h' hh
  exact hc h' ((hk key).1.symm.trans hh)

/-- Asking changes no memory, and an answer is what is remembered. -/
theorem Remembers.ask (hc : c.Remembers key h) (l : Loader) (gateOpen : Bool) (ticket : Ticket) :
    (c.ask l gateOpen key ticket).1.Remembers key h ∧
      ∀ h', (c.ask l gateOpen key ticket).2 = .answered h' → h' = h := by
  obtain ⟨hk, hanswer⟩ := keeps_ask l gateOpen key ticket c
  exact ⟨hc.keep hk, fun h' he => hc h' (hanswer h' he)⟩

/-- A request that goes on leaves what the loader makes of its configuration, and an
answer is that. -/
theorem Remembers.goOn {l : Loader} {config : Config}
    (hc : c.Remembers key (l.handle config)) (gateOpen : Bool) {r : Request}
    (hr : ∀ h', r = .answered h' → h' = l.handle config) :
    (c.goOn l gateOpen config key r).1.Remembers key (l.handle config) ∧
      ∀ h', (c.goOn l gateOpen config key r).2 = .answered h' → h' = l.handle config := by
  cases r with
  | queued ticket =>
    obtain ⟨hk, hanswer⟩ := keeps_goOn_queued l gateOpen key ticket c config
    exact ⟨hc.keep hk, fun h' he => hc h' (hanswer h' he)⟩
  | building ticket =>
    constructor
    · intro h' hh
      rw [cell_goOn_building] at hh
      exact (Option.some.inj hh).symm
    · intro h' he
      cases he
      rfl
  | answered h => exact ⟨hc, hr⟩

theorem Remembers.arrive (hc : c.Remembers key h) : (c.arrive key).Remembers key h :=
  hc.keep (keeps_arrive key c)

theorem Remembers.giveUp (hc : c.Remembers key h) (r : Request) :
    (c.giveUp key r).Remembers key h :=
  hc.keep (keeps_giveUp key c r)

end

end EngineCache

end PageHighlight
