/-
  Proofs/Grammar/Registry.lean --- a directory of grammars, after any loads.

  WHAT THIS FILE IS FOR.  Grammars are loaded from a directory one after another, by
  whatever names and however often; a load fails if there is no file, if the directory
  records the grammar as outdated, if the file is no library, or if it is the library of
  something else.  `Registry.holds_what_succeeded` says what can be known of the directory
  in the end, from the loads that succeeded and from what the directory records.

  FILES AND NAMES.  Every name has a file of its own, and what comes of opening the file and
  of looking for the function in it is settled by the two.
-/
import PageHighlight.Proofs.Grammar.Loading
import PageHighlight.Proofs.Grammar.Metadata

set_option autoImplicit false

namespace PageHighlight

namespace Registry

/-! ## What a directory records -/

theorem metadata_ofDirectory (path : Text) (d : GrammarDirectory) :
    (ofDirectory path d).metadata = [] ∨
      ∃ t, d.metadata = some t ∧ (ofDirectory path d).metadata = GrammarMetadata.read t := by
  unfold ofDirectory
  cases d.metadata with
  | none => exact .inl rfl
  | some t => exact .inr ⟨t, rfl, rfl⟩

theorem ascending_metadata (path : Text) (d : GrammarDirectory) :
    Text.Ascending ((ofDirectory path d).metadata.map (·.1)) := by
  rcases metadata_ofDirectory path d with h | ⟨t, -, h⟩
  · rw [h]
    exact .nil
  · rw [h]
    exact GrammarMetadata.ascending_read t

/-- A directory whose record is missing or malformed records nothing. -/
theorem metadata_eq_nil {d : GrammarDirectory} (h : ∀ t ∈ d.metadata, GrammarMetadata.IsMalformed t)
    (path : Text) : (ofDirectory path d).metadata = [] := by
  rcases metadata_ofDirectory path d with hnil | ⟨t, ht, hread⟩
  · exact hnil
  · rw [hread, GrammarMetadata.read_of_isMalformed (h t ht)]

/-! ## Outdated grammars -/

/-- There is no file for a grammar. -/
def notFound (name : Text) (r : Registry) : Error :=
  .engineUnavailable ("grammar `".toList ++ name ++ "` not found at ".toList
    ++ r.libraryPath name)

/-- A grammar is recorded for another interface. -/
def isForAnother (name : Text) : Error :=
  .engineUnavailable ("grammar `".toList ++ name
    ++ "` was built for an outdated Tree-sitter ABI".toList)

theorem offered?_of_isOutdated {r : Registry} {name : Text}
    (h : r.metadata.isOutdated name = true) : r.offered? name = none := by
  unfold offered?
  split
  · exact if_neg fun hand => by
      rw [h] at hand
      exact Bool.noConfusion hand.1
  · rfl

/-- The record is asked before the file is opened, but not before it is found. -/
theorem load_of_isOutdated {r : Registry} {name : Text} (hget : r.get? name = none)
    (h : r.metadata.isOutdated name = true) :
    r.load name =
      (.error (if r.isInstalled name then isForAnother name else r.notFound name), r) := by
  rw [load, hget, isInstalled]
  cases r.file? name with
  | none => rfl
  | some file =>
    rw [h]
    rfl

/-! ## Loads -/

theorem isInstalled_loadAll (names : List Text) (r : Registry) (name : Text) :
    (r.loadAll names).isInstalled name = r.isInstalled name := by
  obtain ⟨loaded, h⟩ := r.exists_loadAll_eq names
  rw [h]
  rfl

theorem notFound_loadAll (names : List Text) (r : Registry) (name : Text) :
    (r.loadAll names).notFound name = r.notFound name := by
  obtain ⟨loaded, h⟩ := r.exists_loadAll_eq names
  rw [h]
  rfl

/-- A grammar that is recorded for another interface is never there, and its loads fail. -/
theorem load_of_recorded {path : Text} {d : GrammarDirectory} (names : List Text) {n : Text}
    {info : GrammarInfo} (hmem : (n, info) ∈ (ofDirectory path d).metadata)
    (hother : info.abiVersion ≠ GrammarMetadata.abiVersion) :
    let opened := ofDirectory path d
    let r := opened.loadAll names
    r.get? n = none ∧
      r.load n =
        (.error (if opened.isInstalled n then isForAnother n else opened.notFound n), r) := by
  intro opened r
  have hold : opened.metadata.isOutdated n = true :=
    (GrammarMetadata.isOutdated_iff (ascending_metadata path d) hmem).2 hother
  have hget : r.get? n = none := by
    rw [get?_loadAll, offered?_of_isOutdated hold, ite_self]
    rfl
  have hload := load_of_isOutdated hget ((metadata_loadAll names opened).symm ▸ hold)
  rw [isInstalled_loadAll, notFound_loadAll] at hload
  exact ⟨hget, hload⟩

theorem mem_loadedNames_iff {r : Registry} {name : Text} :
    name ∈ r.loadedNames ↔ (r.get? name).isSome = true :=
  (Text.perm_sort _).mem_iff.trans mem_loaded_iff

/-- After loads of any names from any directory, a grammar is there if and only if one of
its loads succeeded.  The names of those that are there are listed in ascending order, each
once.  A grammar that is recorded for another interface is never there: its loads fail
because there is no file, or else because of the record, whatever the file is.  The
grammars listed as outdated are in ascending order too, and they are the recorded ones that
are outdated.  Another load leaves the directory as it would be after all of them: one that
fails leaves it as it was, and so does one that succeeds if one of the same name succeeded
before.  If the record is missing or malformed, no grammar is outdated. -/
theorem holds_what_succeeded (path : Text) (d : GrammarDirectory) (names : List Text) :
    let opened := ofDirectory path d
    let r := opened.loadAll names
    (∀ n, (r.get? n).isSome = true ↔ opened.Succeeded names n) ∧
    Text.Ascending r.loadedNames ∧
    (∀ n, n ∈ r.loadedNames ↔ opened.Succeeded names n) ∧
    (∀ n info, (n, info) ∈ opened.metadata → info.abiVersion ≠ GrammarMetadata.abiVersion →
      r.get? n = none ∧
        r.load n =
          (.error (if opened.isInstalled n then isForAnother n else opened.notFound n), r)) ∧
    Text.Ascending r.outdated ∧
    (∀ n, n ∈ r.outdated ↔
      n ∈ opened.metadata.map (·.1) ∧ opened.metadata.isOutdated n = true) ∧
    (∀ n, (r.load n).2 = opened.loadAll (names ++ [n])) ∧
    (∀ n e, (r.load n).1 = .error e → (r.load n).2 = r) ∧
    (∀ n, opened.Succeeded names n → r.load n = (.ok (), r)) ∧
    ((∀ t ∈ d.metadata, GrammarMetadata.IsMalformed t) →
      r.outdated = [] ∧ ∀ n, r.metadata.isOutdated n = false) := by
  intro opened r
  have hthere : ∀ n, (r.get? n).isSome = true ↔ opened.Succeeded names n :=
    isSome_get?_loadAll_iff rfl names
  have hmetadata : r.metadata = opened.metadata := metadata_loadAll names opened
  have hascending := ascending_metadata path d
  have houtdated : r.outdated = opened.metadata.outdated := by rw [outdated, hmetadata]
  have hnone : (opened.loaded.map (·.1)).Nodup := .nil
  refine ⟨hthere, .sort (nodup_loadAll hnone names), fun n => mem_loadedNames_iff.trans (hthere n),
    fun n info => load_of_recorded names, ?_, ?_, fun n => (opened.loadAll_concat names n).symm,
    fun n e => load_eq_self_of_error, fun n hn => load_of_isSome ((hthere n).2 hn), ?_⟩
  · rw [houtdated]
    exact GrammarMetadata.ascending_outdated hascending
  · intro n
    rw [houtdated]
    exact GrammarMetadata.mem_outdated_iff hascending
  · intro hmalformed
    rw [outdated, hmetadata, metadata_eq_nil hmalformed]
    exact ⟨Text.Ascending.nil.sort_eq, fun _ => rfl⟩

/-- Of two grammars one is loaded, and again; the other one is recorded for an earlier
interface.  If the record is cut off, it does not say so. -/
theorem holds_what_succeeded_twoGrammars :
    let record : Text := "\x7b\"grammars\":\x7b\"lua\":\x7b\"abi_version\":13\x7d\x7d\x7d"
    let files : List (Text × LibraryFile) :=
      [("librust.so", .grammar "rust"), ("liblua.so", .grammar "lua")]
    let names : List Text := ["lua", "rust", "rust"]
    let opened := ofDirectory "grammars" ⟨some record, files⟩
    let r := opened.loadAll names
    ("lua".toList, ⟨13, none, none⟩) ∈ opened.metadata ∧ r.get? "lua" = none ∧
      (r.load "lua").1 = .error (isForAnother "lua") ∧ (r.load "lua").2 = r ∧
      opened.loadAll (names ++ ["lua".toList]) = r ∧ opened.Succeeded names "rust" ∧
      "rust".toList ∈ r.loadedNames ∧ r.load "rust" = (.ok (), r) ∧
      GrammarMetadata.IsMalformed (record.take 20) ∧
      ((ofDirectory "grammars" ⟨some (record.take 20), files⟩).loadAll names).outdated = [] := by
  intro record files names opened r
  obtain ⟨hthere, -, hnames, hold, -, -, hafter, hfails, hagain, -⟩ :=
    holds_what_succeeded "grammars" ⟨some record, files⟩ names
  have hread : opened.metadata = GrammarMetadata.ofEntries [("lua".toList, ⟨13, none, none⟩)] := rfl
  have hlua : ("lua".toList, ⟨13, none, none⟩) ∈ opened.metadata := by
    rw [hread, GrammarMetadata.mem_ofEntries_iff]
    rfl
  obtain ⟨hnone, hload⟩ := hold "lua" _ hlua (by decide)
  have hrecorded : opened.metadata.map (·.1) = ["lua".toList] := by
    rw [hread, GrammarMetadata.map_fst_ofEntries]
    exact List.mergeSort_singleton _
  have hoffered : opened.offered? "rust" = some "rust".toList := by
    have hnew : opened.metadata.isOutdated "rust" = false :=
      GrammarMetadata.isOutdated_of_not_mem (by rw [hrecorded]; decide)
    exact if_pos ⟨hnew, rfl⟩
  have hrust : opened.Succeeded names "rust" := by
    have hok : ((opened.loadAll ["lua"]).load "rust").1 = .ok () :=
      load_eq_ok_iff.2 (.inr (by rw [offered?_loadAll, hoffered]; rfl))
    exact ⟨["lua"], ["rust"], rfl, hok⟩
  have hmalformed : GrammarMetadata.IsMalformed (record.take 20) := by
    have hend : Json.readWholeText (Json.readRecord GrammarMetadata.fields none) (record.take 20) =
        .error .ended := rfl
    intro m
    rw [hend]
    exact nofun
  have hcut := holds_what_succeeded "grammars" ⟨some (record.take 20), files⟩ names
  have hfailed : (r.load "lua").1 = .error (isForAnother "lua") := congrArg Prod.fst hload
  have hkept : (r.load "lua").2 = r := hfails _ _ hfailed
  refine ⟨hlua, hnone, hfailed, hkept, (hafter "lua").symm.trans hkept, hrust,
    (hnames "rust").2 hrust, hagain _ hrust, hmalformed, ?_⟩
  exact (hcut.2.2.2.2.2.2.2.2.2 fun t ht => Option.some.inj ht ▸ hmalformed).1

end Registry

end PageHighlight
