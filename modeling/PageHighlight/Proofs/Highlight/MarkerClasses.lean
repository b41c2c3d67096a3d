/-
  Proofs/Highlight/MarkerClasses.lean --- the classes that a pass adds, and what it leaves
  as it is.

  WHAT THIS FILE IS FOR.  A pass gives a line the classes of the markers that it meets in
  it, and the block a class of its own.  `MarkerPass.classes_apply` says which markers those
  are: the ones that a scan of the runs of the line meets, as they were before the pass
  (`MarkerPass.Scans`).  A line without a marker of the pass stays as it is.

  SEARCHING A TEXT THAT CHANGES.  A marker is cut out of a text while the text is searched,
  and the search goes on where the marker stood (`MarkerPass.turn?`).  The text before this
  place is not searched again, so what the search finds is what a scan of the text finds
  that nothing is cut out of (`MarkerPass.takeInPlace_append`); and less of the text is left
  to search after each turn (`MarkerPass.turn?_lt`).
-/
import Mathlib.Data.List.Induction
import PageHighlight.Proofs.Highlight.Markers
import PageHighlight.Proofs.Text.Occurrences

set_option autoImplicit false

namespace PageHighlight

namespace MarkerPass

variable {p : MarkerPass} {t u v before inner after : Text}

/-! ## The markers of a text -/

/-- The first place at which a text opens a marker, and the marker up to the bracket that
closes it. -/
structure IsFirstMarker (t before inner after : Text) : Prop where
  cut : t = before ++ opener ++ inner ++ "]".toList ++ after
  first : ∀ a b, t = a ++ opener ++ b → before.length ≤ a.length
  closed : ']' ∉ inner

/-- A scan of a text from left to right, and the markers that it meets, blanks around them
left out.  It goes on behind each marker and ends where none is closed any more. -/
inductive Scans : Text → List Text → Prop where
  | done {t : Text} (h : ∀ a b, t = a ++ opener ++ b → ']' ∉ b) : Scans t []
  | meet {t before inner after : Text} {ms : List Text} (h : IsFirstMarker t before inner after)
      (hs : Scans after ms) : Scans t (Text.trim inner :: ms)

theorem firstMarker?_eq_some_iff :
    firstMarker? t = some (before, inner, after) ↔ IsFirstMarker t before inner after := by
  constructor
  · intro h
    have hcut := eq_of_firstMarker? h
    unfold firstMarker? at h
    split at h
    · cases h
    · next b r hopener =>
      split at h
      · cases h
      · next i a hclose =>
        cases h
        refine ⟨hcut, (Text.split?_eq_some_iff.1 hopener).2, fun hmem => ?_⟩
        obtain ⟨hr, hfirst⟩ := Text.split?_eq_some_iff.1 hclose
        obtain ⟨x, y, rfl⟩ := List.append_of_mem hmem
        have hle := hfirst x (y ++ "]".toList ++ after) (by rw [hr]; simp)
        rw [List.length_append, List.length_cons] at hle
        omega
  · rintro ⟨hcut, hfirst, hclosed⟩
    have hsplit : t = before ++ opener ++ (inner ++ ']' :: after) := by rw [hcut]; simp
    have hopener := Text.split?_eq_some_iff.2 ⟨hsplit, hfirst⟩
    have hclose : Text.split? "]" (inner ++ ']' :: after) = some (inner, after) :=
      Text.split?_singleton_append hclosed after
    simp only [firstMarker?, hopener, hclose]

theorem firstMarker?_eq_none_iff :
    firstMarker? t = none ↔ ∀ a b, t = a ++ opener ++ b → ']' ∉ b := by
  unfold firstMarker?
  cases hopener : Text.split? opener t with
  | none =>
    exact iff_of_true rfl fun a b ht =>
      absurd ⟨a, b, ht.symm⟩ (Text.split?_eq_none_iff.1 hopener)
  | some q =>
    obtain ⟨before, r⟩ := q
    obtain ⟨ht, hfirst⟩ := Text.split?_eq_some_iff.1 hopener
    dsimp only
    cases hclose : Text.split? "]" r with
    | none =>
      have hr : ']' ∉ r := fun hmem => by
        obtain ⟨x, y, rfl⟩ := List.append_of_mem hmem
        exact Text.split?_eq_none_iff.1 hclose ⟨x, y, by simp⟩
      refine iff_of_true rfl fun a b ht' hmem => hr ?_
      -- what follows a later place follows the first one, too
      have hle := hfirst a b ht'
      have hlength : b.length ≤ r.length := by
        have heq := congrArg List.length (ht.symm.trans ht')
        simp only [List.length_append] at heq
        omega
      have hsuffix : b <:+ r :=
        List.suffix_of_suffix_length_le ⟨a ++ opener, ht'.symm⟩ ⟨before ++ opener, ht.symm⟩ hlength
      exact hsuffix.subset hmem
    | some q =>
      obtain ⟨inner, after⟩ := q
      refine iff_of_false (Option.some_ne_none _) fun h => h before r ht ?_
      rw [Text.split?_eq_some hclose]
      simp

theorem length_lt_of_firstMarker? (h : firstMarker? t = some (before, inner, after)) :
    after.length < t.length := by
  have hlength := congrArg List.length (eq_of_firstMarker? h)
  have hclose : "]".toList.length = 1 := rfl
  simp only [List.length_append] at hlength
  omega

/-- The markers that a scan of a text meets. -/
def markers (t : Text) : List Text :=
  match _h : firstMarker? t with
  | none => []
  | some (_, inner, after) => Text.trim inner :: markers after
termination_by t.length
decreasing_by exact length_lt_of_firstMarker? _h

theorem markers_of_none (h : firstMarker? t = none) : markers t = [] := by
  unfold markers
  split
  · rfl
  · next hsome => rw [h] at hsome; cases hsome

theorem markers_of_some (h : firstMarker? t = some (before, inner, after)) :
    markers t = Text.trim inner :: markers after := by
  rw [markers]
  split
  · next hnone => rw [h] at hnone; cases hnone
  · next hsome => rw [h] at hsome; cases hsome; rfl

/-- A scan of a text meets its markers and no others. -/
theorem scans_iff {ms : List Text} : Scans t ms ↔ ms = markers t := by
  constructor
  · intro h
    induction h with
    | done h => rw [markers_of_none (firstMarker?_eq_none_iff.2 h)]
    | meet h hs ih => rw [markers_of_some (firstMarker?_eq_some_iff.2 h), ih]
  · rintro rfl
    fun_induction markers t with
    | case1 t hfirst => exact .done (firstMarker?_eq_none_iff.1 hfirst)
    | case2 t before inner after hfirst ih => exact .meet (firstMarker?_eq_some_iff.1 hfirst) ih

/-- The classes that a text asks for are those of its markers. -/
theorem classes_takeMarkers (p : MarkerPass) (t : Text) :
    (p.takeMarkers t).2 = (markers t).flatMap fun m => (p.classesFor? m).getD [] := by
  fun_induction takeMarkers p t with
  | case1 t hfirst =>
    rw [markers_of_none hfirst]
    rfl
  | case2 t before inner after hfirst rest classes hrest extra hextra ih =>
    rw [hrest] at ih
    rw [markers_of_some hfirst, List.flatMap_cons, hextra, ← ih]
    rfl
  | case3 t before inner after hfirst rest classes hrest hextra ih =>
    rw [hrest] at ih
    rw [markers_of_some hfirst, List.flatMap_cons, hextra, ← ih]
    rfl

/-- Nothing is taken out of a text whose markers the pass does not know. -/
theorem takeMarkers_of_unknown (h : ∀ m ∈ markers t, p.classesFor? m = none) :
    (p.takeMarkers t).1 = t := by
  fun_induction takeMarkers p t with
  | case1 t hfirst => rfl
  | case2 t before inner after hfirst rest classes hrest extra hextra ih =>
    rw [markers_of_some hfirst] at h
    rw [h _ List.mem_cons_self] at hextra
    cases hextra
  | case3 t before inner after hfirst rest classes hrest hextra ih =>
    rw [markers_of_some hfirst] at h
    have hafter := ih fun m hm => h m (List.mem_cons_of_mem _ hm)
    rw [hrest] at hafter
    rw [eq_of_firstMarker? hfirst, ← hafter]

/-! ## Searching a text that changes -/

/-- One turn of the search for markers in a text, from a place on.  A marker that the pass
knows is cut out, and the search goes on where it stood; otherwise it goes on behind the
marker.  The text and the place to go on with, and the classes of the marker. -/
def turn? (p : MarkerPass) (t : Text) (place : Nat) : Option (Text × Nat × List Text) :=
  match Text.split? opener (t.drop place) with
  | none => none
  | some (passed, _) =>
    let start := place + passed.length
    match Text.split? "]" (t.drop start) with
    | none => none
    | some (marker, _) =>
      let stop := start + marker.length
      match p.classesFor? (Text.trim ((t.take stop).drop (start + opener.length))) with
      | some extra => some (t.take start ++ t.drop (stop + 1), start, extra)
      | none => some (t, stop + 1, [])

/-- A turn looks at nothing before its place. -/
theorem turn?_append (p : MarkerPass) (u v : Text) :
    p.turn? (u ++ v) u.length =
      (firstMarker? v).map fun (before, inner, after) =>
        match p.classesFor? (Text.trim inner) with
        | some extra => (u ++ before ++ after, (u ++ before).length, extra)
        | none => (u ++ v, (u ++ before ++ opener ++ inner ++ "]".toList).length, []) := by
  unfold turn? firstMarker?
  rw [List.drop_left]
  cases hopener : Text.split? opener v with
  | none => rfl
  | some q =>
    obtain ⟨before, r⟩ := q
    obtain rfl := Text.split?_eq_some hopener
    have hstart : u.length + before.length = (u ++ before).length := List.length_append.symm
    have hdrop : (u ++ (before ++ opener ++ r)).drop (u ++ before).length = opener ++ r := by
      rw [List.append_assoc before, ← List.append_assoc u, List.drop_left]
    have hclose : Text.split? "]" (opener ++ r) =
        (Text.split? "]" r).map fun q => (opener ++ q.1, q.2) :=
      Text.split?_append_of_not_mem (by decide) [] r
    dsimp only
    rw [hstart, hdrop, hclose]
    cases hinner : Text.split? "]" r with
    | none => rfl
    | some q =>
      obtain ⟨inner, after⟩ := q
      obtain rfl := Text.split?_eq_some hinner
      have htext : u ++ (before ++ opener ++ (inner ++ "]".toList ++ after)) =
          u ++ before ++ opener ++ inner ++ "]".toList ++ after := by
        simp only [List.append_assoc]
      have hstop : (u ++ before).length + (opener ++ inner).length =
          (u ++ before ++ opener ++ inner).length := by
        simp only [List.length_append, Nat.add_assoc]
      have hbehind : (u ++ before ++ opener ++ inner).length + 1 =
          (u ++ before ++ opener ++ inner ++ "]".toList).length := by
        simp only [List.length_append]
        rfl
      have hmarker : ((u ++ before ++ opener ++ inner ++ "]".toList ++ after).take
          (u ++ before ++ opener ++ inner).length).drop (u ++ before ++ opener).length = inner := by
        rw [List.append_assoc _ "]".toList, List.take_left, List.drop_left]
      have hbefore : (u ++ before ++ opener ++ inner ++ "]".toList ++ after).take
          (u ++ before).length = u ++ before := by
        simp only [List.append_assoc (u ++ before), List.take_left]
      dsimp only [Option.map_some]
      rw [hstop, hbehind, htext, ← List.length_append, hmarker, hbefore, List.drop_left]
      cases p.classesFor? (Text.trim inner) <;> rfl

theorem turn?_lt {place place' : Nat} {t' : Text} {extra : List Text}
    (h : p.turn? t place = some (t', place', extra)) : t'.length - place' < t.length - place := by
  rcases Nat.lt_or_ge t.length place with hplace | hplace
  · rw [turn?, List.drop_eq_nil_of_le (Nat.le_of_lt hplace)] at h
    cases h
  · have hlength : (t.take place).length = place := List.length_take_of_le hplace
    have hturn := p.turn?_append (t.take place) (t.drop place)
    rw [List.take_append_drop, hlength, h] at hturn
    obtain ⟨⟨before, inner, after⟩, hfirst, hnext⟩ := Option.map_eq_some_iff.1 hturn.symm
    have hafter := length_lt_of_firstMarker? hfirst
    have hdrop := congrArg List.length (eq_of_firstMarker? hfirst)
    rw [List.length_drop] at hafter hdrop
    dsimp only at hnext
    split at hnext <;> cases hnext <;> simp only [List.length_append] at hdrop ⊢ <;> omega

/-- The search for markers in a text, from a place on: the text that is left, and the
classes of the markers that were cut out. -/
def takeInPlace (p : MarkerPass) (t : Text) (place : Nat) : Text × List Text :=
  match _h : p.turn? t place with
  | none => (t, [])
  | some (t', place', extra) =>
    let (rest, classes) := takeInPlace p t' place'
    (rest, extra ++ classes)
termination_by t.length - place
decreasing_by exact turn?_lt _h

theorem takeInPlace_of_none {place : Nat} (h : p.turn? t place = none) :
    p.takeInPlace t place = (t, []) := by
  rw [takeInPlace]
  split
  · rfl
  · next hsome => rw [h] at hsome; cases hsome

theorem takeInPlace_of_some {place place' : Nat} {t' : Text} {extra : List Text}
    (h : p.turn? t place = some (t', place', extra)) :
    p.takeInPlace t place =
      ((p.takeInPlace t' place').1, extra ++ (p.takeInPlace t' place').2) := by
  rw [takeInPlace]
  split
  · next hnone => rw [h] at hnone; cases hnone
  · next hsome => rw [h] at hsome; cases hsome; rfl

/-- The search from a place on leaves of the text behind it, and finds there, what is left
and found if markers are taken out of that text alone. -/
theorem takeInPlace_append (p : MarkerPass) (u v : Text) :
    p.takeInPlace (u ++ v) u.length = (u ++ (p.takeMarkers v).1, (p.takeMarkers v).2) := by
  fun_induction takeMarkers p v generalizing u with
  | case1 v hfirst =>
    have hturn := p.turn?_append u v
    rw [hfirst] at hturn
    exact takeInPlace_of_none hturn
  | case2 v before inner after hfirst rest classes hrest extra hextra ih =>
    have hturn := p.turn?_append u v
    simp only [hfirst, Option.map_some, hextra] at hturn
    rw [takeInPlace_of_some hturn, ih, hrest, List.append_assoc]
  | case3 v before inner after hfirst rest classes hrest hextra ih =>
    have hturn := p.turn?_append u v
    simp only [hfirst, Option.map_some, hextra] at hturn
    have hcut : u ++ v = u ++ before ++ opener ++ inner ++ "]".toList ++ after := by
      rw [eq_of_firstMarker? hfirst]
      simp only [List.append_assoc]
    rw [takeInPlace_of_some hturn, hcut, ih, hrest]
    simp only [List.append_assoc, List.nil_append]

/-! ## The classes of a line -/

/-- The classes that come to those of a line, each once and in the order in which they are
first asked for. -/
structure IsAdded (asked old added : List Text) : Prop where
  mem : ∀ c, c ∈ added ↔ c ∈ asked ∧ c ∉ old
  order : added.Pairwise fun c d => asked.idxOf c < asked.idxOf d

namespace IsAdded

variable {asked old added : List Text} {c : Text}

/-- The order does not change if more is asked for. -/
theorem order_append (h : IsAdded asked old added) (c : Text) :
    added.Pairwise fun d e => (asked ++ [c]).idxOf d < (asked ++ [c]).idxOf e :=
  h.order.imp_of_mem fun {d e} hd he hlt => by
    rwa [List.idxOf_append_of_mem ((h.mem d).1 hd).1, List.idxOf_append_of_mem ((h.mem e).1 he).1]

/-- A class that is there already is not added. -/
theorem again (h : IsAdded asked old added) (hc : c ∈ old ++ added) :
    IsAdded (asked ++ [c]) old added := by
  refine ⟨fun d => ?_, h.order_append c⟩
  have hmem := h.mem
  grind

/-- A class that is not there yet is added behind the others. -/
theorem anew (h : IsAdded asked old added) (hc : c ∉ old ++ added) :
    IsAdded (asked ++ [c]) old (added ++ [c]) := by
  have hmem := h.mem
  have hnew : c ∉ asked := by grind
  refine ⟨fun d => by grind, ?_⟩
  refine List.pairwise_append.2 ⟨h.order_append c, List.pairwise_singleton _ c, fun d hd e he => ?_⟩
  obtain rfl := List.mem_singleton.1 he
  have hasked := ((h.mem d).1 hd).1
  rw [List.idxOf_append_of_mem hasked, List.idxOf_append_of_notMem hnew]
  exact Nat.lt_of_lt_of_le (List.idxOf_lt_length_of_mem hasked) (Nat.le_add_right _ _)

end IsAdded

theorem classes_addAll (asked : List Text) (l : RenderedLine) :
    ∃ added, (asked.foldl (fun l c => l.addClass c) l).classes = l.classes ++ added ∧
      IsAdded asked l.classes added := by
  induction asked using List.reverseRecOn with
  | nil => exact ⟨[], (List.append_nil _).symm, by simp, .nil⟩
  | append_singleton asked c ih =>
    obtain ⟨added, hclasses, hadded⟩ := ih
    have hfold : ((asked ++ [c]).foldl (fun l c => l.addClass c) l).classes =
        addClass c (l.classes ++ added) := by
      rw [List.foldl_append, ← hclasses]
      rfl
    rw [hfold]
    by_cases hc : c ∈ l.classes ++ added
    · exact ⟨added, if_pos (by simpa using hc), hadded.again hc⟩
    · exact ⟨added ++ [c], by rw [addClass_of_not_mem hc, List.append_assoc], hadded.anew hc⟩

/-- A scan of a run of a line meets a marker that the pass knows. -/
def FindsIn (p : MarkerPass) (l : RenderedLine) : Prop :=
  ∃ t ∈ l.tokens, ∃ ms, Scans t.text ms ∧ ∃ m ∈ ms, (p.classesFor? m).isSome = true

/-- The classes that the markers of a line stand for, in the order in which they are met. -/
def asked (p : MarkerPass) (l : RenderedLine) : List Text :=
  l.tokens.flatMap fun t => (markers t.text).flatMap fun m => (p.classesFor? m).getD []

theorem findsIn_iff {l : RenderedLine} :
    p.FindsIn l ↔ ∃ t ∈ l.tokens, ∃ m ∈ markers t.text, (p.classesFor? m).isSome = true := by
  simp only [FindsIn, scans_iff, exists_eq_left]

instance (p : MarkerPass) (l : RenderedLine) : Decidable (p.FindsIn l) :=
  decidable_of_iff _ findsIn_iff.symm

/-- A built-in pass has classes for each of its markers. -/
theorem ne_nil_of_classesFor? (hp : p ∈ builtin) {m : Text} {classes : List Text}
    (h : p.classesFor? m = some classes) : classes ≠ [] := by
  have hbuiltin : ∀ p ∈ builtin, ∀ row ∈ p.table, row.2 ≠ [] := by decide
  obtain ⟨row, hrow, rfl⟩ := Option.map_eq_some_iff.1 h
  exact hbuiltin p hp row (List.mem_of_find?_eq_some hrow)

theorem asked_eq_nil_iff (hp : p ∈ builtin) {l : RenderedLine} :
    p.asked l = [] ↔ ¬ p.FindsIn l := by
  have hgetD : ∀ m, (p.classesFor? m).getD [] = [] ↔ ¬ (p.classesFor? m).isSome = true := by
    intro m
    cases h : p.classesFor? m with
    | none => simp
    | some classes => simpa using ne_nil_of_classesFor? hp h
  simp only [asked, List.flatMap_eq_nil_iff, hgetD, findsIn_iff, not_exists, not_and]

theorem flatMap_classes (p : MarkerPass) (l : RenderedLine) :
    (l.tokens.flatMap fun t => (p.takeMarkers t.text).2) = p.asked l :=
  List.flatMap_congr fun t _ => p.classes_takeMarkers t.text

theorem snd_takeFromLine (p : MarkerPass) (l : RenderedLine) :
    (p.takeFromLine l).2 = p.asked l := by
  rw [takeFromLine_eq, flatMap_classes]
  split
  · next hempty => exact (List.isEmpty_iff.1 hempty).symm
  · rfl

theorem meets_iff (hp : p ∈ builtin) {l : RenderedLine} : p.meets l = true ↔ p.FindsIn l := by
  rw [meets, snd_takeFromLine, Bool.not_eq_true', List.isEmpty_eq_false_iff, ne_eq,
    asked_eq_nil_iff hp, not_not]

/-- A line without a marker of the pass stays as it is. -/
theorem applyToLine_of_not_findsIn (hp : p ∈ builtin) {l : RenderedLine} (h : ¬ p.FindsIn l) :
    p.applyToLine l = l := by
  have hnone := (asked_eq_nil_iff hp).2 h
  have hunknown : ∀ t ∈ l.tokens, ∀ m ∈ markers t.text, p.classesFor? m = none :=
    fun t ht m hm => Option.not_isSome_iff_eq_none.1 fun hsome =>
      h (findsIn_iff.2 ⟨t, ht, m, hm, hsome⟩)
  have hstrip : ∀ t ∈ l.tokens, p.strip t = t := by
    intro t ht
    rw [strip, takeMarkers_of_unknown (hunknown t ht)]
  have htokens : l.tokens.map p.strip = l.tokens :=
    (List.map_congr_left hstrip).trans (List.map_id' _)
  have htaken : p.takeFromLine l = (l, []) := by
    rw [takeFromLine_eq, flatMap_classes, hnone, htokens]
    rfl
  rw [applyToLine_eq, htaken]
  rfl

/-- The classes that a line has behind its own after a pass. -/
theorem classes_applyToLine (p : MarkerPass) (l : RenderedLine) :
    ∃ added, (p.applyToLine l).classes = l.classes ++ added ∧
      IsAdded (p.asked l) l.classes added := by
  rw [applyToLine_eq, snd_takeFromLine, ← p.classes_takeFromLine l]
  exact classes_addAll (p.asked l) (p.takeFromLine l).1

/-! ## A fragment after a pass -/

theorem apply_eq (hp : p ∈ builtin) (f : Fragment) :
    p.apply f =
      let g := { f with lines := f.lines.map p.applyToLine }
      if ∃ l ∈ f.lines, p.FindsIn l then g.addClass p.blockClass else g := by
  have hany : f.lines.any p.meets = true ↔ ∃ l ∈ f.lines, p.FindsIn l := by
    simp only [List.any_eq_true, meets_iff hp]
  exact if_congr hany rfl rfl

/-- What a built-in pass does to a fragment, except for the texts of the lines in which it
finds markers.  A line in which a scan of the runs, as they were, meets no marker of the
pass stays as it is; the others have the classes of the markers so met, in the order in
which they are met, behind the classes that they had, and none twice.  The block has the
class of the pass behind its own, unless it had it, if there is such a line, and otherwise
the classes that it had.  Nothing else changes.  A scan of a text meets the markers of the
text, and a search that cuts markers out while it goes on finds the same; it ends, because
each turn leaves less to search. -/
theorem classes_apply (hp : p ∈ builtin) (f : Fragment) :
    let g := p.apply f
    (∀ t ms, Scans t ms ↔ ms = markers t) ∧
    ((∀ t, p.takeInPlace t 0 = p.takeMarkers t) ∧
      ∀ t place t' place' extra, p.turn? t place = some (t', place', extra) →
        t'.length - place' < t.length - place) ∧
    (g.theme = f.theme ∧ g.language = f.language ∧ g.background = f.background ∧
      g.foreground = f.foreground ∧ g.lines.length = f.lines.length) ∧
    (∀ (i : Nat) l, f.lines[i]? = some l → ∃ l', g.lines[i]? = some l' ∧
      (¬ p.FindsIn l → l' = l) ∧
      ∃ added, l'.classes = l.classes ++ added ∧ IsAdded (p.asked l) l.classes added) ∧
    ((∃ l ∈ f.lines, p.FindsIn l) ∧ p.blockClass ∉ f.classes →
      g.classes = f.classes ++ [p.blockClass]) ∧
    (¬ ((∃ l ∈ f.lines, p.FindsIn l) ∧ p.blockClass ∉ f.classes) → g.classes = f.classes) := by
  intro g
  have hg : g = let g := { f with lines := f.lines.map p.applyToLine }
      if ∃ l ∈ f.lines, p.FindsIn l then g.addClass p.blockClass else g := apply_eq hp f
  refine ⟨fun t ms => scans_iff, ⟨p.takeInPlace_append [], fun t place t' place' extra => turn?_lt⟩,
    ?_, fun i l hl => ?_, ?_, ?_⟩
  · rw [hg]
    dsimp only
    split <;> exact ⟨rfl, rfl, rfl, rfl, List.length_map _⟩
  · refine ⟨p.applyToLine l, ?_, applyToLine_of_not_findsIn hp, p.classes_applyToLine l⟩
    rw [show g.lines = _ from lines_apply f, List.getElem?_map, hl]
    rfl
  · rintro ⟨hfinds, hnew⟩
    rw [hg, if_pos hfinds]
    exact addClass_of_not_mem hnew
  · intro hnot
    rw [hg]
    dsimp only
    split
    · next hfinds =>
      have hold : p.blockClass ∈ f.classes := by
        by_contra hnew
        exact hnot ⟨hfinds, hnew⟩
      exact if_pos (by simpa using hold)
    · rfl

/-- A line that is marked twice for one pass and once for another, and a line with a marker
of another pass and one that is not closed. -/
def markedLines : Fragment :=
  ⟨"nord", "rust", default, default, ["shown"],
    [⟨[⟨"a // [!code ++] [!code focus]", none⟩, ⟨"[!code  -- ]", none⟩], ["add"]⟩,
     ⟨[⟨"b // [!code focus] [!code ++", none⟩], []⟩]⟩

/-- The first line has, behind its own class, those that its two markers stand for and that it
had not; the second line stays as it is. -/
theorem classes_apply_markedLines :
    diff ∈ builtin ∧ (diff.apply markedLines).classes = ["shown", "has-diff"] ∧
      (diff.apply markedLines).lines[1]? = markedLines.lines[1]? ∧
      ∃ l' added, (diff.apply markedLines).lines[0]? = some l' ∧ l'.classes = "add".toList :: added ∧
        IsAdded ["diff", "add", "diff", "remove"] ["add"] added := by
  have hp : diff ∈ builtin := by decide
  obtain ⟨-, -, -, hlines, hblock, -⟩ := classes_apply hp markedLines
  obtain ⟨l', hl', -, added, hclasses, hadded⟩ := hlines 0 _ rfl
  obtain ⟨l'', hl'', hsame, -⟩ := hlines 1 _ rfl
  have hasked : diff.asked ⟨[⟨"a // [!code ++] [!code focus]", none⟩, ⟨"[!code  -- ]", none⟩],
      ["add"]⟩ = ["diff".toList, "add".toList, "diff".toList, "remove".toList] := by
    decide +kernel
  rw [hasked] at hadded
  rw [hsame (by decide +kernel)] at hl''
  exact ⟨hp, hblock (by decide +kernel), hl'', l', added, hl', hclasses, hadded⟩

end MarkerPass

end PageHighlight
