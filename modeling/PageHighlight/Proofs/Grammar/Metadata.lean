/-
  Proofs/Grammar/Metadata.lean --- which grammars a directory records as outdated.

  WHAT THIS FILE IS FOR.  Whatever the text of a record is, what is read of it has every
  name once, in ascending order (`GrammarMetadata.ascending_read`), since an entry that
  comes again replaces the earlier one.  So the names that are recorded for another
  interface are listed in order (`ascending_outdated`), and they are the recorded ones of
  which this is said one at a time (`mem_outdated_iff`).  A text that is no record says it
  of none, since nothing is read of it (`read_of_isMalformed`).
-/
import PageHighlight.Grammar.Metadata
import PageHighlight.Proofs.Json.Fields
import PageHighlight.Proofs.Text.Sorted

set_option autoImplicit false

namespace PageHighlight

namespace GrammarMetadata

/-- The text is no record: it is not JSON, or what it describes is not a record, its
grammars missing or one of them without a version. -/
def IsMalformed (t : Text) : Prop :=
  ∀ m, Json.readWholeText (Json.readRecord fields none) t ≠ .ok (some m)

theorem read_of_isMalformed {t : Text} (h : IsMalformed t) : read t = [] := by
  unfold read
  split
  · next m hm => exact absurd hm (h m)
  · rfl

/-! ## Names -/

theorem map_fst_filterMap_find? {entries : List (Text × GrammarInfo)} {names : List Text}
    (h : ∀ n ∈ names, n ∈ entries.map (·.1)) :
    (names.filterMap fun n => entries.find? (·.1 = n)).map (·.1) = names := by
  induction names with
  | nil => rfl
  | cons n names ih =>
    obtain ⟨hn, hnames⟩ := List.forall_mem_cons.1 h
    cases hfind : entries.find? (·.1 = n) with
    | none =>
      obtain ⟨e, he, rfl⟩ := List.mem_map.1 hn
      exact absurd (List.find?_eq_none.1 hfind e he) (by simp)
    | some e =>
      have he : e.1 = n := by simpa using List.find?_some hfind
      rw [List.filterMap_cons, hfind]
      exact congrArg₂ List.cons he (ih hnames)

theorem map_fst_ofEntries (entries : List (Text × GrammarInfo)) :
    (ofEntries entries).map (·.1) = Text.sort (Text.distinct (entries.map (·.1))) := by
  refine map_fst_filterMap_find? fun n hn => ?_
  rw [List.map_reverse, List.mem_reverse]
  exact Text.mem_sort_distinct.1 hn

/-- Of the entries of one name the last one counts. -/
theorem mem_ofEntries_iff {entries : List (Text × GrammarInfo)} {e : Text × GrammarInfo} :
    e ∈ ofEntries entries ↔ entries.reverse.find? (·.1 = e.1) = some e := by
  rw [ofEntries, List.mem_filterMap]
  constructor
  · rintro ⟨n, -, hfind⟩
    have he : e.1 = n := by simpa using List.find?_some hfind
    rwa [he]
  · intro hfind
    refine ⟨e.1, Text.mem_sort_distinct.2 (List.mem_map_of_mem ?_), hfind⟩
    exact List.mem_reverse.1 (List.mem_of_find?_eq_some hfind)

/-- The names that a record has are in order, whatever its text is. -/
theorem ascending_read (t : Text) : Text.Ascending ((read t).map (·.1)) := by
  have hfields : ∀ f ∈ fields, f.Keeps fun m? => ∀ m ∈ m?, Text.Ascending (m.map (·.1)) := by
    intro f hf
    obtain rfl := List.mem_singleton.1 hf
    intro s t s' t' _ hread m hm
    simp only [Except.map] at hread
    split at hread
    · cases hread
    · cases hread
      obtain rfl := Option.some.inj hm
      rw [map_fst_ofEntries]
      exact Text.ascending_sort_distinct _
  unfold read
  split
  · next m hm => exact Json.of_readWholeText hfields (fun m hm => by cases hm) hm m rfl
  · exact .nil

/-! ## Outdated grammars -/

/-- A grammar is outdated if and only if its entry names another interface. -/
theorem isOutdated_iff {m : GrammarMetadata} (hm : Text.Ascending (m.map (·.1))) {name : Text}
    {info : GrammarInfo} (hmem : (name, info) ∈ m) :
    m.isOutdated name = true ↔ info.abiVersion ≠ abiVersion := by
  have hfind : m.find? (·.1 = name) = some (name, info) := by
    obtain ⟨e, he⟩ : ∃ e, m.find? (·.1 = name) = some e :=
      Option.isSome_iff_exists.1 (List.find?_isSome.2 ⟨(name, info), hmem, by simp⟩)
    have hname : e.1 = name := by simpa using List.find?_some he
    rw [he, List.inj_on_of_nodup_map hm.nodup (List.mem_of_find?_eq_some he) hmem hname]
  rw [isOutdated, hfind]
  exact decide_eq_true_iff

/-- A grammar that is not recorded is not outdated. -/
theorem isOutdated_of_not_mem {m : GrammarMetadata} {name : Text} (h : name ∉ m.map (·.1)) :
    m.isOutdated name = false := by
  have hfind : m.find? (·.1 = name) = none :=
    List.find?_eq_none.2 fun e he => by
      rw [decide_eq_true_iff]
      rintro rfl
      exact h (List.mem_map_of_mem he)
  rw [isOutdated, hfind]

theorem ascending_outdated {m : GrammarMetadata} (hm : Text.Ascending (m.map (·.1))) :
    Text.Ascending m.outdated :=
  .sort (hm.nodup.sublist (List.filter_sublist.map _))

theorem mem_outdated_iff {m : GrammarMetadata} (hm : Text.Ascending (m.map (·.1))) {name : Text} :
    name ∈ m.outdated ↔ name ∈ m.map (·.1) ∧ m.isOutdated name = true := by
  rw [outdated, (Text.perm_sort _).mem_iff, List.mem_map, List.mem_map]
  constructor
  · rintro ⟨e, he, rfl⟩
    obtain ⟨hmem, hother⟩ := List.mem_filter.1 he
    exact ⟨⟨e, hmem, rfl⟩, (isOutdated_iff hm hmem).2 (of_decide_eq_true hother)⟩
  · rintro ⟨⟨e, hmem, rfl⟩, hold⟩
    exact ⟨e, List.mem_filter.2 ⟨hmem, decide_eq_true ((isOutdated_iff hm hmem).1 hold)⟩, rfl⟩

end GrammarMetadata

end PageHighlight
