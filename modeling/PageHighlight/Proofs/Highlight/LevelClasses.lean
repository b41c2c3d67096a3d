/-
  Proofs/Highlight/LevelClasses.lean --- a rendered line has the class of its level and
  of no other.

  WHAT THIS FILE IS FOR.  Levels are given to numbers of lines when a source is
  annotated; their classes are given to lines of a fragment, after an engine and any
  passes were at work on it.  `Setting.level_classes` says that the two agree: the
  lines of the fragment are those of the source as it is shown, a line has a class
  `hl-k` if and only if `k` is its level, and a level for a line that is not there is
  given to none.

  HOW.  An engine gives a line no classes at all, and a pass none that tells a level
  (`MarkerPass.isUnleveled_applyAll`); giving out levels is looking each line up
  (`Fragment.getElem?_lines_withLevels`), since the numbers of an annotated source count
  from one and none occurs twice (`AnnotatedSource.isNumbered_levels`).
-/
import PageHighlight.Proofs.Annotation.Numbers
import PageHighlight.Proofs.Highlight.Lines
import PageHighlight.Proofs.Session.History
import PageHighlight.Session.Render

set_option autoImplicit false

namespace PageHighlight

/-! ## Classes that tell a level -/

/-- Whether a class tells a level. -/
def isLevelClass (c : Text) : Bool := "hl-".toList.isPrefixOf c

theorem isLevelClass_levelClass (l : Level) : isLevelClass (levelClass l) = true := by
  rw [isLevelClass, List.isPrefixOf_iff_prefix]
  exact ⟨Text.ofNat l.val, rfl⟩

theorem levelClass_injective {k l : Level} (h : levelClass k = levelClass l) : k = l := by
  have digits : ∀ m ≤ 4, ∀ n ≤ 4, Text.ofNat m = Text.ofNat n → m = n := by decide
  exact Level.ext (digits k.val k.le_four l.val l.le_four (List.append_cancel_left h))

/-! ## Passes -/

/-- No class of a line tells a level. -/
def RenderedLine.IsUnleveled (l : RenderedLine) : Prop := ∀ c ∈ l.classes, isLevelClass c = false

theorem RenderedLine.mem_classes_addAll {c : Text} (cs : List Text) {l : RenderedLine}
    (h : c ∈ (cs.foldl (fun l c => l.addClass c) l).classes) : c ∈ cs ∨ c ∈ l.classes := by
  induction cs generalizing l with
  | nil => exact .inr h
  | cons d cs ih =>
    rcases ih h with hc | hc
    · exact .inl (List.mem_cons_of_mem _ hc)
    · rcases mem_addClass.1 hc with rfl | hc
      · exact .inl List.mem_cons_self
      · exact .inr hc

namespace MarkerPass

/-- A pass none of whose markers stands for a class that tells a level. -/
def SparesLevels (p : MarkerPass) : Prop :=
  ∀ row ∈ p.table, ∀ c ∈ row.2, isLevelClass c = false

theorem sparesLevels_of_mem_resolve {names : List Text} {p : MarkerPass}
    (h : p ∈ resolve names) : p.SparesLevels := by
  have spare : ∀ p ∈ builtin, ∀ row ∈ p.table, ∀ c ∈ row.2, isLevelClass c = false := by
    decide
  obtain ⟨name, -, hname⟩ := List.mem_filterMap.1 h
  exact spare p (List.mem_of_find?_eq_some hname)

variable {p : MarkerPass}

/-- A pass gives a line no classes but those that its markers stand for. -/
theorem exists_row_of_mem_takeMarkers {t c : Text} (h : c ∈ (p.takeMarkers t).2) :
    ∃ row ∈ p.table, c ∈ row.2 := by
  fun_induction takeMarkers p t with
  | case1 t hfirst => cases h
  | case2 t before inner after hfirst rest classes hrest extra hextra ih =>
    rcases List.mem_append.1 h with hc | hc
    · obtain ⟨row, hrow, rfl⟩ := Option.map_eq_some_iff.1 hextra
      exact ⟨row, List.mem_of_find?_eq_some hrow, hc⟩
    · exact ih (by rw [hrest]; exact hc)
  | case3 t before inner after hfirst rest classes hrest hextra ih =>
    exact ih (by rw [hrest]; exact h)

theorem classes_takeFromLine (l : RenderedLine) : (p.takeFromLine l).1.classes = l.classes := by
  unfold takeFromLine
  dsimp only
  split <;> rfl

theorem exists_token_of_mem_takeFromLine {l : RenderedLine} {c : Text}
    (h : c ∈ (p.takeFromLine l).2) : ∃ t ∈ l.tokens, c ∈ (p.takeMarkers t.text).2 := by
  unfold takeFromLine at h
  dsimp only at h
  split at h
  · cases h
  · rw [List.flatMap_map] at h
    exact List.mem_flatMap.1 h

theorem applyToLine_eq (l : RenderedLine) :
    p.applyToLine l = (p.takeFromLine l).2.foldl (fun l c => l.addClass c) (p.takeFromLine l).1 :=
  rfl

theorem isUnleveled_applyToLine (hp : p.SparesLevels) {l : RenderedLine} (hl : l.IsUnleveled) :
    (p.applyToLine l).IsUnleveled := by
  intro c hc
  rw [applyToLine_eq] at hc
  rcases RenderedLine.mem_classes_addAll _ hc with hc | hc
  · obtain ⟨t, -, ht⟩ := exists_token_of_mem_takeFromLine hc
    obtain ⟨row, hrow, hc⟩ := exists_row_of_mem_takeMarkers ht
    exact hp row hrow c hc
  · rw [classes_takeFromLine] at hc
    exact hl c hc

theorem lines_apply (f : Fragment) : (p.apply f).lines = f.lines.map p.applyToLine := by
  unfold apply
  dsimp only
  split <;> rfl

/-- A pass leaves a fragment as many lines as it has. -/
theorem length_lines_apply (p : MarkerPass) (f : Fragment) :
    (p.apply f).lines.length = f.lines.length := by
  rw [lines_apply, List.length_map]

theorem length_lines_applyAll (passes : List MarkerPass) (f : Fragment) :
    (applyAll passes f).lines.length = f.lines.length := by
  induction passes generalizing f with
  | nil => rfl
  | cons p passes ih => exact (ih (p.apply f)).trans (p.length_lines_apply f)

theorem isUnleveled_applyAll {passes : List MarkerPass} (hpasses : ∀ p ∈ passes, p.SparesLevels)
    {f : Fragment} (hf : ∀ l ∈ f.lines, l.IsUnleveled) :
    ∀ l ∈ (applyAll passes f).lines, l.IsUnleveled := by
  induction passes generalizing f with
  | nil => exact hf
  | cons p passes ih =>
    refine ih (fun q hq => hpasses q (List.mem_cons_of_mem _ hq)) fun l hl => ?_
    rw [lines_apply] at hl
    obtain ⟨l', hl', rfl⟩ := List.mem_map.1 hl
    exact isUnleveled_applyToLine (hpasses p List.mem_cons_self) (hf l' hl')

end MarkerPass

/-! ## Giving out levels -/

theorem addClass_of_not_mem {c : Text} {classes : List Text} (h : c ∉ classes) :
    addClass c classes = classes ++ [c] :=
  if_neg (by simpa using h)

/-- A line with the classes of its level, if it has one. -/
def RenderedLine.withLevel (level : Option Level) (l : RenderedLine) : RenderedLine :=
  match level with
  | some k => (l.addClass "highlighted").addClass (levelClass k)
  | none => l

namespace RenderedLine

variable {l : RenderedLine}

/-- Of the classes that tell a level, a line has the one of its level and no other. -/
theorem IsUnleveled.filter_withLevel (h : l.IsUnleveled) (level : Option Level) :
    (l.withLevel level).classes.filter isLevelClass = (level.map levelClass).toList := by
  have hbare : l.classes.filter isLevelClass = [] := by
    rw [List.filter_eq_nil_iff]
    intro c hc
    rw [h c hc]
    exact Bool.false_ne_true
  cases level with
  | none => exact hbare
  | some k =>
    have hmark : (PageHighlight.addClass "highlighted" l.classes).filter isLevelClass = [] := by
      unfold PageHighlight.addClass
      split
      · exact hbare
      · rw [List.filter_append, hbare]
        rfl
    have hnew : levelClass k ∉ PageHighlight.addClass "highlighted" l.classes := by
      intro hm
      have hfilter := List.mem_filter.2 ⟨hm, isLevelClass_levelClass k⟩
      rw [hmark] at hfilter
      cases hfilter
    have happend : (l.withLevel (some k)).classes =
        PageHighlight.addClass "highlighted" l.classes ++ [levelClass k] :=
      addClass_of_not_mem hnew
    rw [happend, List.filter_append, hmark, List.nil_append,
      List.filter_cons_of_pos (isLevelClass_levelClass k)]
    rfl

theorem IsUnleveled.mem_withLevel_iff (h : l.IsUnleveled) (level : Option Level) (k : Level) :
    levelClass k ∈ (l.withLevel level).classes ↔ level = some k := by
  have hfilter : levelClass k ∈ (l.withLevel level).classes ↔
      levelClass k ∈ (l.withLevel level).classes.filter isLevelClass := by
    rw [List.mem_filter, and_iff_left (isLevelClass_levelClass k)]
  rw [hfilter, h.filter_withLevel, Option.mem_toList, Option.map_eq_some_iff]
  constructor
  · rintro ⟨m, rfl, hm⟩
    rw [levelClass_injective hm]
  · rintro rfl
    exact ⟨k, rfl, rfl⟩

theorem highlighted_mem_withLevel (level : Level) :
    "highlighted".toList ∈ (l.withLevel (some level)).classes :=
  mem_addClass.2 (.inr (mem_addClass.2 (.inl rfl)))

end RenderedLine

namespace Fragment

theorem withLevels_cons (n : Nat) (l : Level) (levels : LevelMap) (f : Fragment) :
    f.withLevels ((n, l) :: levels) =
      ((f.addLineClass (n - 1) "highlighted").addLineClass (n - 1) (levelClass l)).withLevels
        levels := rfl

/-- Giving out levels changes lines and nothing else. -/
theorem withLevels_eq (levels : LevelMap) (f : Fragment) :
    f.withLevels levels = { f with lines := (f.withLevels levels).lines } := by
  induction levels generalizing f with
  | nil => rfl
  | cons e levels ih =>
    obtain ⟨n, l⟩ := e
    rw [withLevels_cons, ih]
    rfl

/-- Giving out levels is looking each line up. -/
theorem getElem?_lines_withLevels {levels : LevelMap} (h : levels.IsNumbered) (f : Fragment)
    (i : Nat) :
    (f.withLevels levels).lines[i]? =
      (f.lines[i]?).map (RenderedLine.withLevel (levels.get? (i + 1))) := by
  induction levels generalizing f with
  | nil => exact Option.map_id'.symm
  | cons e levels ih =>
    obtain ⟨n, l⟩ := e
    have hn : 1 ≤ n := h.one_le (n, l) List.mem_cons_self
    rw [withLevels_cons, ih h.tail, LevelMap.get?_cons]
    by_cases hi : n = i + 1
    · subst hi
      have hlater : LevelMap.get? (i + 1) levels = none := by
        refine LevelMap.get?_eq_none_of_forall_ne fun e he => ?_
        exact Nat.ne_of_gt ((List.pairwise_cons.1 h.ascending).1 e he)
      rw [hlater, if_pos rfl, Nat.add_sub_cancel]
      simp only [addLineClass, List.getElem?_modify_eq, Option.map_eq_map, Option.map_map]
      rfl
    · have hi' : n - 1 ≠ i := by omega
      rw [if_neg hi]
      simp only [addLineClass, List.getElem?_modify_ne _ _ hi']

/-- A line that no pass gave a level has the class of the level that its number has, and of
no other one. -/
theorem classes_withLevels {levels : LevelMap} (h : levels.IsNumbered) {f : Fragment}
    (hf : ∀ l ∈ f.lines, l.IsUnleveled) {i : Nat} {line : RenderedLine}
    (hline : (f.withLevels levels).lines[i]? = some line) :
    (∀ k, levelClass k ∈ line.classes ↔ levels.get? (i + 1) = some k) ∧
      (line.classes.filter isLevelClass).length ≤ 1 ∧
      (∀ k, levels.get? (i + 1) = some k → "highlighted".toList ∈ line.classes) := by
  rw [getElem?_lines_withLevels h] at hline
  obtain ⟨l, hl, rfl⟩ := Option.map_eq_some_iff.1 hline
  have hbare := hf l (List.mem_of_getElem? hl)
  refine ⟨hbare.mem_withLevel_iff _, ?_, ?_⟩
  · rw [hbare.filter_withLevel]
    cases levels.get? (i + 1) <;> simp
  · intro k hk
    rw [hk]
    exact RenderedLine.highlighted_mem_withLevel k

theorem length_lines_withLevels (levels : LevelMap) (f : Fragment) :
    (f.withLevels levels).lines.length = f.lines.length := by
  induction levels generalizing f with
  | nil => rfl
  | cons e levels ih =>
    obtain ⟨n, l⟩ := e
    rw [withLevels_cons, ih]
    simp only [addLineClass, List.length_modify]

/-- A level for a line that is not there is given to none. -/
theorem withLevels_filter {levels : LevelMap} (h : levels.IsNumbered) (f : Fragment) :
    f.withLevels (levels.filter (·.1 ≤ f.lines.length)) = f.withLevels levels := by
  have hlines : (f.withLevels (levels.filter (·.1 ≤ f.lines.length))).lines =
      (f.withLevels levels).lines := by
    refine List.ext_getElem? fun i => ?_
    rw [getElem?_lines_withLevels h, getElem?_lines_withLevels (h.filter _)]
    rcases Nat.lt_or_ge i f.lines.length with hi | hi
    · have hget : LevelMap.get? (i + 1) (levels.filter (·.1 ≤ f.lines.length)) =
          levels.get? (i + 1) :=
        LevelMap.get?_filter (fun n => decide (n ≤ f.lines.length)) (decide_eq_true hi)
      rw [hget]
    · rw [List.getElem?_eq_none hi]
      rfl
  rw [withLevels_eq, hlines, ← withLevels_eq]

end Fragment

/-! ## Rendered blocks -/

theorem Engine.renderWith_eq_ok_iff {e : Engine} {passes : List MarkerPass}
    {code language theme : Text} {g : Fragment} :
    e.renderWith passes code language theme = .ok g ↔
      ∃ f, e.render code language theme = .ok f ∧ g = MarkerPass.applyAll passes f := by
  unfold renderWith
  cases e.render code language theme with
  | error fault => simp [Except.map]
  | ok f => simp [Except.map, eq_comm]

/-- What the passes of a setting make of a fragment that nothing was said about yet has its
lines, none of which has a class that tells a level. -/
theorem Setting.isUnleveled_applyAll (s : Setting) {f : Fragment} {ls : List Text}
    (hf : f.IsBare ls) :
    (MarkerPass.applyAll s.passes f).lines.length = ls.length ∧
      ∀ l ∈ (MarkerPass.applyAll s.passes f).lines, l.IsUnleveled := by
  refine ⟨(MarkerPass.length_lines_applyAll s.passes f).trans hf.length_lines, ?_⟩
  refine MarkerPass.isUnleveled_applyAll (fun p hp => ?_) fun l hl c hc => ?_
  · rw [s.passes_eq] at hp
    exact MarkerPass.sparesLevels_of_mem_resolve hp
  · rw [hf.classes_eq_nil hl] at hc
    cases hc

theorem Setting.render?_of_renderWith {s : Setting} {engine : Engine} {o : SourceBlock}
    {theme : Text} {f : Fragment}
    (h : engine.renderWith s.passes (AnnotatedSource.ofSource o.text).display o.language theme =
      .ok f) :
    s.render? engine o theme =
      .ok ⟨(f.withLevels (AnnotatedSource.ofSource o.text).levels).toHtml,
        (AnnotatedSource.ofSource o.text).display, (AnnotatedSource.ofSource o.text).levels,
        theme, ⟨(f.withLevels (AnnotatedSource.ofSource o.text).levels).text, .idle⟩⟩ := by
  simp only [render?, h]

/-- What a source block becomes, said of the fragment that the engine makes of it. -/
theorem Setting.render?_eq_ok_iff {s : Setting} {engine : Engine} {o : SourceBlock} {theme : Text}
    {r : RenderedBlock} :
    s.render? engine o theme = .ok r ↔
      ∃ f, engine.render (AnnotatedSource.ofSource o.text).display o.language theme = .ok f ∧
        let g := (MarkerPass.applyAll s.passes f).withLevels
          (AnnotatedSource.ofSource o.text).levels
        r = ⟨g.toHtml, (AnnotatedSource.ofSource o.text).display,
          (AnnotatedSource.ofSource o.text).levels, theme, ⟨g.text, .idle⟩⟩ := by
  constructor
  · intro h
    rw [render?] at h
    split at h
    · cases h
    · next g hg =>
      obtain ⟨f, hf, rfl⟩ := Engine.renderWith_eq_ok_iff.1 hg
      cases h
      exact ⟨f, hf, rfl⟩
  · rintro ⟨f, hf, rfl⟩
    exact render?_of_renderWith (Engine.renderWith_eq_ok_iff.2 ⟨f, hf, rfl⟩)

/-- The class of a level is on the line of the level.  An engine that is built in makes a
fragment of a code if and only if it offers the language with the theme and takes the code;
with grammars it takes a code that its parser makes a tree of, whatever the tree is.  The
fragment has the lines of the code, and no pass adds or drops a line.  So a source block is
rendered as a fragment with the lines of the source as it is shown, each of which has the
class of the level that the source gives to its number, counted from one, and of no other
level; a line with a level is highlighted, and levels of lines that are not there are given
to none. -/
theorem Setting.level_classes (s : Setting) {offers takes : Text → Text → Prop} {engine : Engine}
    (he : engine.IsBuiltIn offers takes) :
    (∀ code language theme, (∃ f, engine.render code language theme = .ok f) ↔
      offers language theme ∧ takes language code) ∧
    (∀ code language theme f, engine.render code language theme = .ok f →
      f.lines.map RenderedLine.text = Text.lines code ∧
        f.lines.length = (Text.lines code).length ∧ f.text = code) ∧
    (∀ (p : MarkerPass) (f : Fragment), (p.apply f).lines.length = f.lines.length) ∧
    ∀ (o : SourceBlock) (theme : Text),
      let source := AnnotatedSource.ofSource o.text
      offers o.language theme → takes o.language source.display →
      ∃ f g : Fragment,
        engine.renderWith s.passes source.display o.language theme = .ok f ∧
        g = f.withLevels source.levels ∧
        g = f.withLevels (source.levels.filter (·.1 ≤ (Text.lines source.display).length)) ∧
        s.render? engine o theme =
          .ok ⟨g.toHtml, source.display, source.levels, theme, ⟨g.text, .idle⟩⟩ ∧
        g.lines.length = (Text.lines source.display).length ∧
        ∀ i line, g.lines[i]? = some line →
          (∀ k, levelClass k ∈ line.classes ↔ source.levels.get? (i + 1) = some k) ∧
          (line.classes.filter isLevelClass).length ≤ 1 ∧
          (∀ k, source.levels.get? (i + 1) = some k → "highlighted".toList ∈ line.classes) := by
  refine ⟨he.exists_fragment_iff, fun code language theme f h => ?_,
    MarkerPass.length_lines_apply, ?_⟩
  · have hf := he.isBare h
    exact ⟨hf.text_lines, hf.length_lines, hf.text.trans (Text.unlines_lines code)⟩
  · intro o theme source hoffers htakes
    have hnumbered : source.levels.IsNumbered := AnnotatedSource.isNumbered_levels o.text
    obtain ⟨f, hf⟩ := (he.exists_fragment_iff source.display o.language theme).2
      ⟨hoffers, htakes⟩
    have hrender : engine.renderWith s.passes source.display o.language theme =
        .ok (MarkerPass.applyAll s.passes f) := Engine.renderWith_eq_ok_iff.2 ⟨f, hf, rfl⟩
    obtain ⟨hlength, hunleveled⟩ := s.isUnleveled_applyAll (he.isBare hf)
    refine ⟨_, _, hrender, rfl, ?_, render?_of_renderWith hrender, ?_,
      fun i line => Fragment.classes_withLevels hnumbered hunleveled⟩
    · rw [← hlength]
      exact (Fragment.withLevels_filter hnumbered _).symm
    · rw [Fragment.length_lines_withLevels, hlength]

/-! ## A tree that lies nowhere -/

/-- A tree whose bytes and rows belong to no source. -/
def Tree.stray : Tree := .node "string" 9 3 7 2 [.node "identifier" 0 100 0 50 []]

/-- An engine that sees this tree in every source. -/
def Engine.straying : Engine :=
  ⟨Text.sort ([Theme.gruvboxLight].map (·.name)),
    renderParsed ⟨fun _ => none, fun _ _ => some .stray⟩
      ⟨[], ⟨none, []⟩, [], [("rust", "rust")]⟩ [Theme.gruvboxLight]⟩

/-- Of two lines the first is highlighted, whatever the tree says, and the third is not
there. -/
theorem Setting.level_classes_straying :
    let source := AnnotatedSource.ofSource "// @highlight: 1,3\na\nb".toList
    source.levels = [(1, .one), (3, .one)] ∧
      ∃ f g : Fragment,
        Engine.straying.renderWith [] source.display "rust" "gruvbox-light" = .ok f ∧
        g = f.withLevels source.levels ∧ g.lines.length = 2 ∧
        (∃ line, g.lines[0]? = some line ∧ levelClass .one ∈ line.classes ∧
          "highlighted".toList ∈ line.classes) ∧
        ∃ line, g.lines[1]? = some line ∧ ∀ k, levelClass k ∉ line.classes := by
  intro source
  have hsource : source = ⟨"a\nb".toList, [(1, .one), (3, .one)]⟩ := by decide +kernel
  have hlines : (Text.lines source.display).length = 2 := by rw [hsource]; rfl
  have hbuiltIn : Engine.straying.IsBuiltIn _ _ := .parsed _ _ _
  obtain ⟨-, -, -, hblocks⟩ := Setting.level_classes (.forRust .plain) hbuiltIn
  obtain ⟨f, g, hf, hg, -, -, hlength, hclasses⟩ :=
    hblocks ⟨"// @highlight: 1,3\na\nb".toList, [], "rust"⟩ "gruvbox-light"
      ⟨⟨Theme.gruvboxLight, List.mem_singleton.2 rfl, rfl⟩, .inr rfl⟩
      (.inr ⟨"rust", rfl, rfl, rfl⟩)
  have hlength : g.lines.length = 2 := hlength.trans hlines
  have hfirst : g.lines[0]? = some g.lines[0] := List.getElem?_eq_getElem (by omega)
  have hsecond : g.lines[1]? = some g.lines[1] := List.getElem?_eq_getElem (by omega)
  have hlevel : source.levels.get? 1 = some .one := by rw [hsource]; rfl
  have hnone : source.levels.get? 2 = none := by rw [hsource]; rfl
  refine ⟨by rw [hsource], f, g, hf, hg, hlength, ⟨_, hfirst, ?_, ?_⟩, _, hsecond, ?_⟩
  · exact ((hclasses 0 _ hfirst).1 .one).2 hlevel
  · exact (hclasses 0 _ hfirst).2.2 .one hlevel
  · intro k hk
    have hk := ((hclasses 1 _ hsecond).1 k).1 hk
    rw [hnone] at hk
    cases hk

end PageHighlight
