/-
  Proofs/Grammar/Loading.lean --- what loading grammars does.

  WHAT THIS FILE IS FOR.  Whether a grammar can be had depends on the directory alone
  (`Registry.offered?`).  Loading it comes to one of three things (`Registry.load_cases`):
  it is there already, or it is on offer and is added, or the load fails and changes
  nothing.  So what is there in the end are the grammars that were asked for and can be had,
  in whatever order and however often they were asked for (`Registry.get?_loadAll`).
-/
import PageHighlight.Grammar.Registry

set_option autoImplicit false

namespace PageHighlight

namespace Registry

/-- The grammar that loading a name gives, whatever was loaded before. -/
def offered? (name : Text) (r : Registry) : Option Text :=
  match r.file? name with
  | some (.grammar g) =>
    if r.metadata.isOutdated name = false ∧ symbolName name = g then some g else none
  | _ => none

/-- A load comes to one of three things: the grammar is there already, and nothing changes;
it is on offer, and is added to those that are there; or it is neither, and the load fails
and leaves the directory as it is. -/
theorem load_cases (name : Text) (r : Registry) :
    ((r.get? name).isSome = true ∧ r.load name = (.ok (), r)) ∨
    (∃ g, r.get? name = none ∧ r.offered? name = some g ∧
      r.load name = (.ok (), { r with loaded := (name, g) :: r.loaded })) ∨
    (r.get? name = none ∧ r.offered? name = none ∧ ∃ e, r.load name = (.error e, r)) := by
  unfold load offered?
  cases r.get? name with
  | some g => exact .inl ⟨rfl, rfl⟩
  | none =>
    refine .inr ?_
    cases r.file? name with
    | none => exact .inr ⟨rfl, rfl, _, rfl⟩
    | some file =>
      simp only
      cases r.metadata.isOutdated name with
      | true => cases file <;> exact .inr ⟨trivial, rfl, _, rfl⟩
      | false =>
        cases file with
        | other => exact .inr ⟨trivial, rfl, _, rfl⟩
        | grammar g =>
          by_cases hg : symbolName name = g
          · exact .inl ⟨g, trivial, if_pos ⟨rfl, hg⟩, if_pos hg⟩
          · exact .inr ⟨trivial, if_neg fun h => hg h.2, _, if_neg hg⟩

/-- A load that fails leaves the directory as it is. -/
theorem load_eq_self_of_error {name : Text} {r : Registry} {e : Error}
    (h : (r.load name).1 = .error e) : (r.load name).2 = r := by
  rcases load_cases name r with ⟨-, heq⟩ | ⟨g, -, -, heq⟩ | ⟨-, -, e', heq⟩
  · rw [heq]
  · rw [heq] at h
    cases h
  · rw [heq]

/-- Loading a name changes nothing, or adds the grammar on offer to those that are there. -/
theorem load_snd_cases (r : Registry) (name : Text) :
    (r.load name).2 = r ∨
      ∃ g, r.get? name = none ∧ r.offered? name = some g ∧
        (r.load name).2 = { r with loaded := (name, g) :: r.loaded } := by
  rcases load_cases name r with ⟨-, heq⟩ | ⟨g, hget, hoffered, heq⟩ | ⟨-, -, e, heq⟩
  · exact .inl (by rw [heq])
  · exact .inr ⟨g, hget, hoffered, by rw [heq]⟩
  · exact .inl (by rw [heq])

theorem loadAll_cons (name : Text) (names : List Text) (r : Registry) :
    r.loadAll (name :: names) = (r.load name).2.loadAll names := rfl

theorem loadAll_concat (r : Registry) (names : List Text) (name : Text) :
    r.loadAll (names ++ [name]) = ((r.loadAll names).load name).2 := by
  simp only [loadAll, List.foldl_append, List.foldl_cons, List.foldl_nil]

/-- Nothing but what is loaded changes. -/
theorem exists_loadAll_eq (names : List Text) (r : Registry) :
    ∃ loaded, r.loadAll names = { r with loaded := loaded } := by
  induction names generalizing r with
  | nil => exact ⟨r.loaded, rfl⟩
  | cons n names ih =>
    obtain ⟨loaded, hrest⟩ := ih (r.load n).2
    rw [loadAll_cons, hrest]
    rcases r.load_snd_cases n with h | ⟨g, -, -, h⟩ <;> exact ⟨loaded, by rw [h]⟩

theorem metadata_loadAll (names : List Text) (r : Registry) :
    (r.loadAll names).metadata = r.metadata := by
  obtain ⟨loaded, h⟩ := r.exists_loadAll_eq names
  rw [h]

theorem offered?_loadAll (names : List Text) (r : Registry) (name : Text) :
    (r.loadAll names).offered? name = r.offered? name := by
  obtain ⟨loaded, h⟩ := r.exists_loadAll_eq names
  rw [h]
  rfl

theorem get?_cons (name name' g : Text) (r : Registry) :
    get? name' { r with loaded := (name, g) :: r.loaded } =
      if name' = name then some g else r.get? name' := by
  by_cases h : name = name'
  · simp [get?, h]
  · simp [get?, h, Ne.symm h]

theorem offered?_load (r : Registry) (name name' : Text) :
    (r.load name).2.offered? name' = r.offered? name' := by
  rcases r.load_snd_cases name with h | ⟨g, -, -, h⟩ <;> rw [h]
  rfl

theorem get?_load (r : Registry) (name name' : Text) :
    (r.load name).2.get? name' =
      (r.get? name').or (if name' = name then r.offered? name' else none) := by
  by_cases hn : name' = name
  · subst hn
    rw [if_pos rfl]
    rcases load_cases name' r with ⟨hget, heq⟩ | ⟨g, hget, hoffered, heq⟩ | ⟨hget, hoffered, e, heq⟩
    · rw [heq, Option.or_of_isSome hget]
    · rw [heq, get?_cons, if_pos rfl, hget, hoffered, Option.none_or]
    · rw [heq, hget, hoffered, Option.none_or]
  · rw [if_neg hn, Option.or_none]
    rcases r.load_snd_cases name with h | ⟨g, -, -, h⟩
    · rw [h]
    · rw [h, get?_cons, if_neg hn]

/-- What is there after loading: what was there, and what was asked for and is on
offer.  The order of loading plays no part. -/
theorem get?_loadAll (names : List Text) (r : Registry) (name : Text) :
    (r.loadAll names).get? name =
      (r.get? name).or (if name ∈ names then r.offered? name else none) := by
  induction names generalizing r with
  | nil => simp [loadAll]
  | cons n names ih =>
    rw [loadAll_cons, ih, get?_load, offered?_load]
    by_cases hn : name = n
    · cases r.get? name <;> cases r.offered? name <;> simp [hn]
    · simp [hn]

/-- A load succeeds if and only if the grammar is there or on offer. -/
theorem load_eq_ok_iff {r : Registry} {name : Text} :
    (r.load name).1 = .ok () ↔ (r.get? name).isSome = true ∨ (r.offered? name).isSome = true := by
  rcases load_cases name r with ⟨hget, heq⟩ | ⟨g, hget, hoffered, heq⟩ | ⟨hget, hoffered, e, heq⟩
  · simp [heq, hget]
  · simp [heq, hoffered]
  · simp [heq, hget, hoffered]

theorem exists_load_eq_error_iff {r : Registry} {name : Text} :
    (∃ e, (r.load name).1 = .error e) ↔ r.get? name = none ∧ r.offered? name = none := by
  have hfails : (∃ e, (r.load name).1 = .error e) ↔ ¬ (r.load name).1 = .ok () := by
    cases (r.load name).1 <;> simp
  rw [hfails, load_eq_ok_iff, not_or, Option.not_isSome_iff_eq_none, Option.not_isSome_iff_eq_none]

/-- A grammar that is asked for is missing in the end if and only if loading it failed,
after whatever was loaded before it. -/
theorem get?_loadAll_eq_none_iff {names before after : List Text} {name : Text}
    (hnames : names = before ++ name :: after) (r : Registry) :
    (r.loadAll names).get? name = none ↔ ∃ e, ((r.loadAll before).load name).1 = .error e := by
  have hmem : name ∈ names := hnames ▸ List.mem_append_right _ List.mem_cons_self
  rw [exists_load_eq_error_iff, offered?_loadAll, get?_loadAll, get?_loadAll, if_pos hmem]
  cases r.get? name with
  | some g => simp
  | none =>
    cases r.offered? name with
    | none => simp
    | some g => simp

/-- Registries of one directory know the same grammars if they were asked for the
same ones, wherever the directory is said to be. -/
theorem get?_loadAll_congr {names names' : List Text} (h : ∀ n, n ∈ names ↔ n ∈ names')
    (path path' : Text) (d : GrammarDirectory) (name : Text) :
    ((ofDirectory path d).loadAll names).get? name =
      ((ofDirectory path' d).loadAll names').get? name := by
  rw [get?_loadAll, get?_loadAll]
  simp only [h name]
  rfl

/-! ## The names of what is there -/

theorem mem_loaded_iff {r : Registry} {name : Text} :
    name ∈ r.loaded.map (·.1) ↔ (r.get? name).isSome = true := by
  rw [get?, Option.isSome_map, List.find?_isSome, List.mem_map]
  simp only [decide_eq_true_eq]

/-- No grammar is loaded again. -/
theorem nodup_load {r : Registry} (h : (r.loaded.map (·.1)).Nodup) (name : Text) :
    ((r.load name).2.loaded.map (·.1)).Nodup := by
  rcases r.load_snd_cases name with heq | ⟨g, hget, -, heq⟩
  · rwa [heq]
  · have hnew : name ∉ r.loaded.map (·.1) := by
      rw [mem_loaded_iff, hget]
      exact Bool.false_ne_true
    rw [heq]
    exact List.nodup_cons.2 ⟨hnew, h⟩

theorem nodup_loadAll {r : Registry} (h : (r.loaded.map (·.1)).Nodup) (names : List Text) :
    ((r.loadAll names).loaded.map (·.1)).Nodup := by
  induction names generalizing r with
  | nil => exact h
  | cons n names ih => exact ih (nodup_load h n)

/-! ## Loads that succeed -/

/-- Of the loads of some names, one after another, one of this name succeeded. -/
def Succeeded (r : Registry) (names : List Text) (name : Text) : Prop :=
  ∃ before after, names = before ++ name :: after ∧ ((r.loadAll before).load name).1 = .ok ()

/-- What is loaded already is not touched. -/
theorem load_of_isSome {r : Registry} {name : Text} (h : (r.get? name).isSome = true) :
    r.load name = (.ok (), r) := by
  obtain ⟨g, hg⟩ := Option.isSome_iff_exists.1 h
  rw [load, hg]

/-- A grammar is there in the end if and only if one of its loads succeeded. -/
theorem isSome_get?_loadAll_iff {r : Registry} (h : r.loaded = []) (names : List Text)
    (name : Text) :
    ((r.loadAll names).get? name).isSome = true ↔ r.Succeeded names name := by
  have hget : r.get? name = none := by rw [get?, h]; rfl
  have hnow : ∀ before, ((r.loadAll before).load name).1 = .ok () ↔
      (r.offered? name).isSome = true := by
    intro before
    rw [load_eq_ok_iff, offered?_loadAll, get?_loadAll, hget, Option.none_or]
    split
    · exact or_self_iff
    · simp
  rw [get?_loadAll, hget, Option.none_or]
  constructor
  · intro hsome
    obtain ⟨hmem, hoffered⟩ : name ∈ names ∧ (r.offered? name).isSome = true := by
      split at hsome
      · next hmem => exact ⟨hmem, hsome⟩
      · exact absurd hsome Bool.false_ne_true
    obtain ⟨before, after, rfl⟩ := List.append_of_mem hmem
    exact ⟨before, after, rfl, (hnow before).2 hoffered⟩
  · rintro ⟨before, after, rfl, hok⟩
    rw [if_pos (List.mem_append_right _ List.mem_cons_self)]
    exact (hnow before).1 hok

end Registry

end PageHighlight
