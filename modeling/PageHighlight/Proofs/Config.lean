/-
  Proofs/Config.lean --- configurations that are written, and read again with parts of them
  left out.

  WHAT THIS FILE IS FOR.  A configuration is written as an object with a member for each of
  its fields, and the delays as such an object inside it (`Config.members`,
  `Timings.members`).  Reading takes every selection of the members, in every order and
  however their values are written, and changes no field whose member is missing
  (`Config.read_write_members`); that a whole configuration comes back is the case in which no
  member is missing.

  ONE FIELD AT A TIME.  What reading does to a configuration is `overlay`, and an overlay of
  several fields is one of each of them in turn (`foldl_overlay`), whatever the turn.
-/
import Mathlib.Data.List.Perm.Basic
import PageHighlight.Config
import PageHighlight.Proofs.Json.Reading

set_option autoImplicit false

namespace PageHighlight

/-! ## The members of an object -/

/-- The delays are numbers of 64 bits. -/
structure Timings.Fits (t : Timings) : Prop where
  shortDelay : t.shortDelay < Text.wordLimit
  fallbackDelay : t.fallbackDelay < Text.wordLimit
  settle : t.settle < Text.wordLimit
  copyRevert : t.copyRevert < Text.wordLimit

/-- The numbers of a configuration are numbers of 64 bits. -/
structure Config.Fits (c : Config) : Prop where
  batchSize : c.batchSize < Text.wordLimit
  timings : c.timings.Fits

/-- The members of the object that writes the delays. -/
def Timings.members (t : Timings) : List (Text × Json) :=
  [("short_delay_ms", .number t.shortDelay), ("fallback_delay_ms", .number t.fallbackDelay),
   ("settle_ms", .number t.settle), ("copy_revert_ms", .number t.copyRevert)]

/-- The members of the object that writes a configuration, given the value of the delays. -/
def Config.members (c : Config) (timings : Json) : List (Text × Json) :=
  [("default_theme", .text c.defaultTheme), ("dark_theme", .text c.darkTheme),
   ("languages", .texts c.languages), ("preload_themes", .texts c.preloadThemes),
   ("engine_source", .text c.engineSource), ("transformers", .texts c.transformers),
   ("exclusion_markers", .texts c.exclusionMarkers), ("dark_indicators", .texts c.darkIndicators),
   ("batch_size", .number c.batchSize), ("timings", timings)]

/-- The delays have different names. -/
theorem Timings.nodup_members (t : Timings) : (t.members.map Prod.fst).Nodup :=
  have hnames : (standard.members.map Prod.fst).Nodup := by decide
  hnames

/-- The fields of a configuration have different names. -/
theorem Config.nodup_members (c : Config) (timings : Json) :
    ((c.members timings).map Prod.fst).Nodup :=
  have hnames : (((standard []).members (.number 0)).map Prod.fst).Nodup := by decide
  hnames

theorem Config.write_eq (c : Config) :
    c.write = Json.write 0 (.object (c.members (.object c.timings.members))) := rfl

/-! ## What is read of them -/

/-- The delays with these names as in `t`, the others as in `base`. -/
def Timings.overlay (given : List Text) (t base : Timings) : Timings where
  shortDelay := if "short_delay_ms".toList ∈ given then t.shortDelay else base.shortDelay
  fallbackDelay := if "fallback_delay_ms".toList ∈ given then t.fallbackDelay else base.fallbackDelay
  settle := if "settle_ms".toList ∈ given then t.settle else base.settle
  copyRevert := if "copy_revert_ms".toList ∈ given then t.copyRevert else base.copyRevert

/-- The fields with these names as in `c`, the others as in `base`. -/
def Config.overlay (given : List Text) (c base : Config) : Config where
  defaultTheme := if "default_theme".toList ∈ given then c.defaultTheme else base.defaultTheme
  darkTheme := if "dark_theme".toList ∈ given then c.darkTheme else base.darkTheme
  languages := if "languages".toList ∈ given then c.languages else base.languages
  preloadThemes := if "preload_themes".toList ∈ given then c.preloadThemes else base.preloadThemes
  engineSource := if "engine_source".toList ∈ given then c.engineSource else base.engineSource
  transformers := if "transformers".toList ∈ given then c.transformers else base.transformers
  exclusionMarkers :=
    if "exclusion_markers".toList ∈ given then c.exclusionMarkers else base.exclusionMarkers
  darkIndicators :=
    if "dark_indicators".toList ∈ given then c.darkIndicators else base.darkIndicators
  batchSize := if "batch_size".toList ∈ given then c.batchSize else base.batchSize
  timings := if "timings".toList ∈ given then c.timings else base.timings

theorem ite_mem_cons {α : Type} (name first : Text) (given : List Text) (x y : α) :
    (if name ∈ first :: given then x else y) =
      if name ∈ given then x else if name ∈ [first] then x else y := by
  by_cases hfirst : name = first
  · simp [hfirst]
  · simp [hfirst]

theorem Timings.foldl_overlay (t : Timings) (given : List Text) (base : Timings) :
    given.foldl (fun s name => t.overlay [name] s) base = t.overlay given base := by
  induction given generalizing base with
  | nil => rfl
  | cons name given ih =>
    rw [List.foldl_cons, ih]
    simp only [overlay, ite_mem_cons _ name given]

theorem Config.foldl_overlay (c : Config) (given : List Text) (base : Config) :
    given.foldl (fun s name => c.overlay [name] s) base = c.overlay given base := by
  induction given generalizing base with
  | nil => rfl
  | cons name given ih =>
    rw [List.foldl_cons, ih]
    simp only [overlay, ite_mem_cons _ name given]

/-- If all names are given, nothing is left of the base. -/
theorem Timings.overlay_members (t base : Timings) :
    t.overlay (t.members.map Prod.fst) base = t := rfl

theorem Config.overlay_members (c base : Config) (timings : Json) :
    c.overlay ((c.members timings).map Prod.fst) base = c := rfl

/-! ## Fields -/

section

open Json

variable {σ : Type} {name : Text}

theorem reads_natField {put : σ → Nat → σ} {n : Nat} (hn : n < Text.wordLimit) (s : σ) :
    Reads ((Config.natField name put).read s) (.number n) (put s n) :=
  (reads_readNat hn hn).map (put s)

theorem reads_textField {put : σ → Text → σ} (t : Text) (s : σ) :
    Reads ((Config.textField name put).read s) (.text t) (put s t) :=
  (reads_readText t).map (put s)

theorem reads_textsField {put : σ → List Text → σ} (ts : List Text) (s : σ) :
    Reads ((Config.textsField name put).read s) (.texts ts) (put s ts) := by
  have hts : List.Forall₂ (Reads readText) (ts.map .text) ts := by
    rw [List.forall₂_map_left_iff, List.forall₂_same]
    exact fun t _ => reads_readText t
  exact (reads_readList hts).map (put s)

theorem Timings.takes {t : Timings} (ht : t.Fits) :
    ∀ m ∈ t.members, Takes Config.timingsFields m (t.overlay [m.1]) := by
  simp only [members, List.forall_mem_cons, List.not_mem_nil, false_imp_iff, implies_true, and_true]
  exact ⟨⟨_, rfl, reads_natField ht.shortDelay⟩, ⟨_, rfl, reads_natField ht.fallbackDelay⟩,
    ⟨_, rfl, reads_natField ht.settle⟩, ⟨_, rfl, reads_natField ht.copyRevert⟩⟩

theorem Config.takes {c : Config} {timings : Json} (hc : c.batchSize < Text.wordLimit)
    (htimings : Reads (readRecord timingsFields .standard) timings c.timings) :
    ∀ m ∈ c.members timings, Takes fields m (c.overlay [m.1]) := by
  simp only [members, List.forall_mem_cons, List.not_mem_nil, false_imp_iff, implies_true, and_true]
  exact ⟨⟨_, rfl, reads_textField c.defaultTheme⟩, ⟨_, rfl, reads_textField c.darkTheme⟩,
    ⟨_, rfl, reads_textsField c.languages⟩, ⟨_, rfl, reads_textsField c.preloadThemes⟩,
    ⟨_, rfl, reads_textField c.engineSource⟩, ⟨_, rfl, reads_textsField c.transformers⟩,
    ⟨_, rfl, reads_textsField c.exclusionMarkers⟩, ⟨_, rfl, reads_textsField c.darkIndicators⟩,
    ⟨_, rfl, reads_natField hc⟩,
    ⟨_, rfl, fun s => htimings.map fun timings => { s with timings }⟩⟩

/-! ## Objects with some of the members -/

/-- If every member of an object is the value of a field, so is every selection of them. -/
theorem reads_readRecord_of_subperm {fields : List (Json.Field σ)} {all ms : List (Text × Json)}
    (put : Text → σ → σ) (htakes : ∀ m ∈ all, Takes fields m (put m.1))
    (hnodup : (all.map Prod.fst).Nodup) (hms : ms.Subperm all) (s : σ) :
    Reads (readRecord fields s) (.object ms)
      ((ms.map Prod.fst).foldl (fun s name => put name s) s) := by
  refine reads_readRecord put (fun m hm => htakes m (hms.subset hm)) ?_ s
  obtain ⟨l, hperm, hsublist⟩ := hms
  exact (hperm.map _).nodup_iff.1 (hnodup.sublist (hsublist.map _))

theorem Timings.reads_members {t : Timings} (ht : t.Fits) {ts : List (Text × Json)}
    (hts : ts.Subperm t.members) (base : Timings) :
    Reads (readRecord Config.timingsFields base) (.object ts)
      (t.overlay (ts.map Prod.fst) base) := by
  have h := reads_readRecord_of_subperm (fun name => t.overlay [name]) (Timings.takes ht)
    t.nodup_members hts base
  rwa [foldl_overlay] at h

theorem Config.reads_members {c : Config} (hc : c.batchSize < Text.wordLimit) {timings : Json}
    (htimings : Reads (readRecord timingsFields .standard) timings c.timings)
    {ms : List (Text × Json)} (hms : ms.Subperm (c.members timings)) (base : Config) :
    Reads (readRecord fields base) (.object ms) (c.overlay (ms.map Prod.fst) base) := by
  have h := reads_readRecord_of_subperm (fun name => c.overlay [name])
    (Config.takes hc htimings) (c.nodup_members timings) hms base
  rwa [foldl_overlay] at h

variable {c : Config} {ts ms : List (Text × Json)} {u v w : Text}

theorem Config.read_append (hc : c.Fits) (hts : ts.Subperm c.timings.members)
    (hms : ms.Subperm (c.members (.object ts))) (hu : AllSpace u) (hv : Written (.object ms) v)
    (hw : AllSpace w) (base : Config) :
    read base (u ++ v ++ w) =
      .ok ({ c with timings := c.timings.overlay (ts.map Prod.fst) .standard }.overlay
        (ms.map Prod.fst) base) := by
  -- the members do not depend on the delays, but through their text
  let given : Config := { c with timings := c.timings.overlay (ts.map Prod.fst) .standard }
  have htimings := Timings.reads_members hc.timings hts .standard
  exact (Config.reads_members (c := given) hc.batchSize htimings hms base).readWholeText hu hv hw

/-- A configuration comes back from its text, whatever the base of the reading is.  If only
some of its members and of the members of its delays are written, in any order, with any
blanks and escapes, then these fields are read as they are, the missing delays are the
standard ones, and the other missing fields are those of the base, for which programs take
the standard configuration. -/
theorem Config.read_write_members (hc : c.Fits) :
    (∀ base, read base c.write = .ok c) ∧
    ∀ (base : Config) (ts ms : List (Text × Json)) (u v w : Text),
      ts.Subperm c.timings.members → ms.Subperm (c.members (.object ts)) →
      AllSpace u → Written (.object ms) v → AllSpace w →
      read base (u ++ v ++ w) =
        .ok ({ c with timings := c.timings.overlay (ts.map Prod.fst) .standard }.overlay
          (ms.map Prod.fst) base) := by
  refine ⟨fun base => ?_, fun base ts ms u v w hts hms hu hv hw =>
    read_append hc hts hms hu hv hw base⟩
  have hwhole := read_append hc (List.Subperm.refl _) (List.Subperm.refl _) allSpace_nil
    (written_write 0 _) allSpace_nil base
  rwa [List.nil_append, List.append_nil, ← write_eq, Timings.overlay_members,
    Config.overlay_members] at hwhole

/-- Two delays and the size of a batch, in an order of their own, and nothing else. -/
theorem Config.read_write_members_batchSize :
    let base := standard "/home/me/.config"
    let c := { base with batchSize := 7, timings := ⟨1, 2, 3, 4⟩ }
    let ts : List (Text × Json) := [("short_delay_ms", .number 1), ("fallback_delay_ms", .number 2)]
    let ms : List (Text × Json) := [("timings", .object ts), ("batch_size", .number 7)]
    c.Fits ∧ ts.Subperm c.timings.members ∧ ms.Subperm (c.members (.object ts)) ∧
      read base c.write = .ok c ∧
      read base (Json.write 0 (.object ms)) =
        .ok { base with batchSize := 7, timings := ⟨1, 2, 50, 2000⟩ } := by
  intro base c ts ms
  have hfits : c.Fits := ⟨by decide, by constructor <;> decide⟩
  have hts : ts.Subperm c.timings.members := (List.take_sublist 2 c.timings.members).subperm
  have hms : ms.Subperm (c.members (.object ts)) :=
    (List.reverse_perm _).subperm.trans (List.drop_sublist 8 (c.members (.object ts))).subperm
  obtain ⟨hwhole, hsome⟩ := Config.read_write_members hfits
  have hread := hsome base ts ms [] _ [] hts hms allSpace_nil (written_write 0 _) allSpace_nil
  rw [List.nil_append, List.append_nil] at hread
  exact ⟨hfits, hts, hms, hwhole base, hread⟩

end

end PageHighlight
