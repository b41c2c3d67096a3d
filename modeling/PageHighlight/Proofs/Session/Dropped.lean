/-
  Proofs/Session/Dropped.lean --- what a cycle that is given up leaves behind.

  WHAT THIS FILE IS FOR.  A cycle that is given up lets the next one in, but it does not
  take its marks off.  A mark is a class, and a block is a candidate if it says its
  language or has no classes at all: a block without classes is none any more when it
  carries a mark that nobody takes off (`not_isCandidate_after_drop`).
  `isCandidate_after_drop` says of which blocks this is so, wherever the cycle was when it
  was given up and whatever happened to them meanwhile.
-/
import Mathlib.Data.List.Infix
import PageHighlight.Proofs.Session.AtWork

set_option autoImplicit false

namespace PageHighlight

/-! ## Candidates with a mark -/

namespace Config

variable {c : Config} {n n' : Node}

/-- A candidate that has got a mark is one if it said its language and marks do not
exclude a block. -/
theorem isCandidate_of_marked (hn : c.isCandidate n = true) (hpristine : n'.isRendered = false)
    (hclean : n.hasClass Page.loadingClass = false)
    (hmark : n'.hasClass Page.loadingClass = true)
    (hclasses : Page.lastingClasses n'.classes = Page.lastingClasses n.classes) :
    c.isCandidate n' = true ↔ n.classes ≠ [] ∧ Page.loadingClass ∉ c.exclusionMarkers := by
  have hlasting : Page.lastingClasses n'.classes = n.classes :=
    hclasses.trans (Node.lastingClasses_of_unmarked hclean)
  have htag : n'.tag? = n.tag? := by
    rw [Node.tag?, ← Language.tagOfClasses?_lastingClasses, hlasting]
    rfl
  have hnonempty : n'.classes ≠ [] := by
    intro hnil
    rw [Node.hasClass, hnil] at hmark
    cases hmark
  have hlanguage : n.tag?.isSome = true → n.classes ≠ [] := by
    intro hsome hnil
    rw [Node.tag?, hnil] at hsome
    cases hsome
  have hmem : ∀ marker, marker ≠ Page.loadingClass → n'.hasClass marker = n.hasClass marker := by
    intro marker hne
    have hiff : marker ∈ n.classes ↔ marker ∈ n'.classes := by
      rw [← hlasting, Page.lastingClasses, List.mem_filter]
      simp [hne]
    simp [Node.hasClass, hiff]
  obtain ⟨-, hkind, hmarkers⟩ := isCandidate_iff.1 hn
  rw [isCandidate_iff, htag]
  constructor
  · rintro ⟨-, hkind', hmarkers'⟩
    refine ⟨hlanguage (hkind'.resolve_right hnonempty), fun hexcluded => ?_⟩
    rw [hmarkers' _ hexcluded] at hmark
    cases hmark
  · rintro ⟨hclasses', hallowed⟩
    refine ⟨hpristine, .inl (hkind.resolve_right hclasses'), fun marker hmarker => ?_⟩
    rw [hmem marker fun he => hallowed (he ▸ hmarker)]
    exact hmarkers marker hmarker

end Config

/-! ## A cycle that is given up -/

namespace Session

variable {s : Setting} {first p : Page} {S : Session} {task part : Nat}

/-- A session whose page has no marks is in order when a call looks at the page. -/
theorem IsSound.marked_of_unmarked (h : S.IsSound s first)
    (hclean : ∀ n ∈ S.page.blocks, n.hasClass Page.loadingClass = false)
    (hlooks : S.CallAt task part .survey) : S.Marked := by
  have hnone : S.cycles.flatMap Cycle.marked = [] :=
    List.flatMap_eq_nil_iff.2 fun c hc => h.single.marked_eq_nil (.inl ⟨task, part, hlooks⟩) hc
  unfold Marked
  rw [hnone]
  refine ⟨h.faithful.inv.numbered, fun slot hslot o ho => ?_, List.forall_mem_nil _, ?_⟩
  · obtain ⟨a, -, hfaithful⟩ := exists_of_mem_right_of_forall₂ h.faithful.inv.page hslot
    obtain ⟨t, -, rfl⟩ := hfaithful.captured o ho
    exact Page.not_mem_sourceBlockOf _ _
  · intro n hn
    rw [hclean n hn]
    exact ⟨fun h => Bool.noConfusion h, fun h => nomatch h⟩

theorem page_giveUp (S : Session) (i : Nat) : (S.giveUp i).page = S.page := by
  rcases S.giveUp_cases i with he | ⟨t, -, -, he⟩
  · rw [he]
  · rw [he]
    exact t.activity.page_giveUp S.setting S.world

/-- The cycles of an activity with a cycle at work are cycles of the session. -/
theorem mem_cycles_of_pos {t : Task} {i : Nat} (ht : S.tasks[i]? = some t)
    (hpos : 0 < t.activeCycles) {c : Cycle} (hc : c ∈ t.activity.cycles) : c ∈ S.cycles := by
  refine List.mem_flatMap.2 ⟨t, List.mem_of_getElem? ht, ?_⟩
  unfold Task.activeCycles at hpos
  unfold Task.cycles
  split at hpos
  · cases hpos
  · next hlive =>
    rw [if_neg hlive]
    exact hc

/-- A mark is on the candidates that kept their numbers, from when the cycle has marked
them. -/
theorem StaysAtWork.hasClass_iff {mid : List Event} (h : S.StaysAtWork task part mid)
    (hS : S.IsSound s first) (hmarked : S.Marked) {c : Cycle}
    (hc : c ∈ (S.after (.proceed task part :: mid)).cycles) (hactive : c.isActive = true)
    {n' : Node} (hn' : n' ∈ (S.after (.proceed task part :: mid)).page.blocks) :
    n'.hasClass Page.loadingClass = true ↔
      n'.id ∈ s.config.candidates S.page ∧ c.marked ≠ [] := by
  have hafter := hS.after (.proceed task part :: mid)
  rw [(h.marked hS hmarked).marked n' hn', List.mem_flatMap, ← hS.faithful.setting]
  have hcandidates : c.marked ≠ [] → c.marked = S.setting.config.candidates S.page := by
    intro hne
    obtain ⟨id, hid⟩ := List.exists_mem_of_ne_nil _ hne
    exact (h.found? hS.single hc hactive).2 _ (Cycle.found?_of_mem_marked hid)
  constructor
  · rintro ⟨x, hx, hid⟩
    obtain rfl := hafter.single.eq_of_isActive hc hx hactive (Cycle.isActive_of_mem_marked hid)
    have hne := List.ne_nil_of_mem hid
    exact ⟨hcandidates hne ▸ hid, hne⟩
  · rintro ⟨hid, hne⟩
    exact ⟨c, hc, (hcandidates hne).symm ▸ hid⟩

/-- What is in the slot of a candidate has the number of a candidate if it has its number. -/
theorem IsSound.mem_candidates_iff (h : S.IsSound s first) (es : List Event) {i : Nat}
    {slot slot' : Slot} (hslot : S.page.slots[i]? = some slot)
    (hslot' : (S.after es).page.slots[i]? = some slot')
    (hcandidate : s.config.isCandidate slot.node = true) :
    slot'.node.id ∈ s.config.candidates S.page ↔ slot'.node.id = slot.node.id := by
  constructor
  · intro hid
    have hgiven : slot'.node.id ≤ S.page.allocated :=
      Setting.le_allocated_of_mem_candidates h.faithful.inv.numbered hid
    obtain ⟨a, ha, hevolves⟩ := forall₂_getElem? (h.evolves es).slots hslot'
    cases ha.symm.trans hslot
    rcases hevolves.identity with ⟨hsame, -⟩ | hnew
    · exact hsame
    · exact absurd hgiven (Nat.not_le.2 hnew)
  · intro hid
    rw [hid]
    exact (Setting.mem_candidates_iff h.faithful.inv.numbered (Page.node_mem_blocks hslot)).2
      hcandidate

/-- What a cycle that is given up leaves behind.  After every history of a session with a
fresh page, let the page have no marks when a call looks at it, and let the call be at work
from then on, whatever happens meanwhile; if its activity is then given up, wherever the
cycle is, the flag is not set any more.  But of the blocks that were candidates when it
looked at the page, one that is not rendered is still a candidate if and only if it has
classes and no mark excludes a block, or it was replaced and put back meanwhile, or the
cycle had not marked its candidates, or had taken its marks off. -/
theorem isCandidate_after_drop (hp : p.IsFresh) (past mid : List Event) :
    let S := (start s p).after past
    let T := S.after (.proceed task part :: mid)
    (∀ n ∈ S.page.blocks, n.hasClass Page.loadingClass = false) → S.StaysAtWork task part mid →
    ∀ (i : Nat) (t : Task), T.tasks[i]? = some t → 0 < t.activeCycles →
      (T.giveUp i).world.running = false ∧
      ∀ (k : Nat) (slot slot' : Slot), S.page.slots[k]? = some slot →
        (T.giveUp i).page.slots[k]? = some slot' → s.config.isCandidate slot.node = true →
        slot'.node.isRendered = false →
        (s.config.isCandidate slot'.node = true ↔
          (slot.node.classes ≠ [] ∧ Page.loadingClass ∉ s.config.exclusionMarkers) ∨
            slot'.node.id ≠ slot.node.id ∨ ∀ c ∈ t.activity.cycles, c.marked = []) := by
  intro S T hclean hstays i t ht hpos
  have hsound : S.IsSound s p := (isSound_start hp).after past
  have hafter : T.IsSound s p := hsound.after (.proceed task part :: mid)
  have hmarked := hsound.marked_of_unmarked hclean hstays.looks
  refine ⟨hafter.single.running_of_ended (e := .giveUp i) ht (activeCycles_giveUp ht hpos) hpos
    rfl, ?_⟩
  intro k slot slot' hslot hslot' hcandidate hpristine'
  rw [page_giveUp] at hslot'
  have hpristine : slot.node.isRendered = false := (Config.isCandidate_iff.1 hcandidate).1
  have hmem : slot.node ∈ S.page.blocks := Page.node_mem_blocks hslot
  obtain ⟨-, hclasses⟩ := hsound.pristine hafter hslot hslot' hpristine hpristine'
  obtain ⟨c, hc, hactive⟩ : ∃ c ∈ t.activity.cycles, c.isActive = true := by
    unfold Task.activeCycles at hpos
    split at hpos
    · cases hpos
    · exact List.countP_pos_iff.1 hpos
  have hcT := mem_cycles_of_pos ht hpos hc
  have hmark := hstays.hasClass_iff hsound hmarked hcT hactive (Page.node_mem_blocks hslot')
  have hcycles : (∀ c ∈ t.activity.cycles, c.marked = []) ↔ c.marked = [] := by
    refine ⟨fun h => h c hc, fun h x hx => ?_⟩
    cases hxactive : x.isActive with
    | false => exact Cycle.marked_of_not_isActive hxactive
    | true =>
      rwa [hafter.single.eq_of_isActive hcT (mem_cycles_of_pos ht hpos hx) hactive hxactive]
  rw [hsound.mem_candidates_iff _ hslot hslot' hcandidate] at hmark
  rw [hcycles]
  cases hhas : slot'.node.hasClass Page.loadingClass with
  | true =>
    obtain ⟨hsame, hne⟩ := hmark.1 hhas
    rw [Config.isCandidate_of_marked hcandidate hpristine' (hclean _ hmem) hhas hclasses]
    simp [hsame, hne]
  | false =>
    have hsame : slot'.node.classes = slot.node.classes := by
      rw [hsound.alike hafter hslot hslot' hpristine hpristine' (hclean _ hmem) hhas]
    rw [Config.isCandidate_congr (hpristine'.trans hpristine.symm) hsame, hcandidate]
    rw [hhas] at hmark
    simp only [true_iff]
    tauto

/-- A block without classes and one of Rust wait for their engine when the cycle is given
up: the second one is still a candidate, the first one is not. -/
theorem isCandidate_after_drop_twoBlocks :
    let p := ((Page.empty.addBlock [] "b".toList).2.addBlock ["language-rust".toList]
      "let x = 1;".toList).2
    let s := Setting.forRust .gated
    let S := (start s p).after [.call .cycle, .proceed 0 0]
    let T := S.after (.proceed 0 0 :: List.replicate 3 (.proceed 0 0))
    S.StaysAtWork 0 0 (List.replicate 3 (.proceed 0 0)) ∧ T.world.running = true ∧
    (T.giveUp 0).world.running = false ∧
    s.config.isCandidate ⟨1, [Page.loadingClass], .source "b".toList⟩ = false ∧
    s.config.isCandidate ⟨2, ["language-rust".toList, Page.loadingClass],
      .source "let x = 1;".toList⟩ = true := by
  intro p s S T
  have hfresh : p.IsFresh := (Page.isFresh_empty.pushBlock _ _ _ _).pushBlock _ _ _ _
  have hstays : S.StaysAtWork 0 0 (List.replicate 3 (.proceed 0 0)) := by
    refine ⟨⟨_, tasks_after_call (S := start s p) rfl, rfl, Nat.zero_lt_one, rfl⟩,
      fun early hearly => ?_⟩
    have hall : ∀ early ∈ (List.replicate 3 (Event.proceed 0 0)).inits,
        (S.after (.proceed 0 0 :: early)).world.running = true := by decide +kernel
    exact hall early ((List.mem_inits _ _).2 hearly)
  have htask : (T.tasks[0]?).map (fun t => (t.activeCycles, t.activity.cycles.map Cycle.marked)) =
      some (1, [[1, 2]]) := by decide +kernel
  obtain ⟨t, ht, hcycles⟩ := Option.map_eq_some_iff.1 htask
  obtain ⟨hone, hmarked⟩ := Prod.mk.inj hcycles
  obtain ⟨hrunning, hblocks⟩ := isCandidate_after_drop hfresh [.call .cycle, .proceed 0 0]
    (List.replicate 3 (.proceed 0 0)) (by decide +kernel) hstays 0 t ht (hone ▸ Nat.one_pos)
  have hmarks : ¬ ∀ c ∈ t.activity.cycles, c.marked = [] := by
    intro hnone
    have hmem : [1, 2] ∈ t.activity.cycles.map Cycle.marked := by simp [hmarked]
    obtain ⟨c, hc, he⟩ := List.mem_map.1 hmem
    rw [hnone c hc] at he
    cases he
  have hplain := hblocks 0 ⟨⟨1, [], .source "b".toList⟩, none, "<pre>".toList, []⟩
    ⟨⟨1, [Page.loadingClass], .source "b".toList⟩, some ⟨"b".toList, [], "text".toList⟩,
      "<pre>".toList, []⟩ (by decide +kernel) (by decide +kernel) (by decide +kernel) rfl
  have hrust := hblocks 1 ⟨⟨2, ["language-rust".toList], .source "let x = 1;".toList⟩, none,
      "<pre>".toList, []⟩
    ⟨⟨2, ["language-rust".toList, Page.loadingClass], .source "let x = 1;".toList⟩, none,
      "<pre>".toList, []⟩ (by decide +kernel) (by decide +kernel) (by decide +kernel) rfl
  refine ⟨hstays, by decide +kernel, ?_, ?_, ?_⟩
  · simp only [T, S, hrunning]
  · refine Bool.eq_false_iff.2 fun hcandidate => ?_
    rcases hplain.1 hcandidate with ⟨hne, -⟩ | hne | hnone
    · exact hne rfl
    · exact hne rfl
    · exact hmarks hnone
  · exact hrust.2 (.inl ⟨by decide, by decide +kernel⟩)

/-- A block without classes waits for its engine when the cycle is given up: it was a
candidate, no cycle is at work any more, and it is not a candidate for the next one. -/
theorem not_isCandidate_after_drop :
    let p := (Page.empty.addBlock [] "b".toList).2
    let s := Setting.forRust .gated
    let S := (start s p).after [.call .cycle, .proceed 0 0]
    let T := S.after (List.replicate 4 (.proceed 0 0))
    p.blocks.map (·.hasClass Page.loadingClass) = [false] ∧ S.CallAt 0 0 .survey ∧
    s.config.candidates S.page = [1] ∧ T.activeCycles = 1 ∧ T.movableParts 0 = [] ∧
    (T.giveUp 0).world.running = false ∧
    (T.giveUp 0).page.blocks = [⟨1, [Page.loadingClass], .source "b".toList⟩] ∧
    s.config.candidates (T.giveUp 0).page = [] := by
  intro p s S T
  refine ⟨by decide +kernel,
    ⟨_, tasks_after_call (S := start s p) rfl, rfl, Nat.zero_lt_one, rfl⟩, ?_⟩
  decide +kernel

end Session

end PageHighlight
