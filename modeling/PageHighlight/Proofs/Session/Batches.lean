/-
  Proofs/Session/Batches.lean --- where a cycle is, compared with the page it began
  with.

  WHAT THIS FILE IS FOR.  While a cycle is at work, each block of the page is in one of
  three states (`Node.Reached`): it was not picked and is as it was, it was picked and
  carries the mark, or it was replaced by what it is to become.  A picked block that is
  not pending any more was replaced if it is to be rendered.  `Cycle.Progress` says
  this of the whole page at every stage, together with the count of what was done; a
  step of the cycle keeps it (`Cycle.Progress.step`), whichever render of the batch
  takes it.

  WHY ORDER DOES NOT MATTER.  A render changes the block with its own number and no
  other one, and what it puts in is the fate of the block that the page began with.
  So the state of a block depends on its own render only.
-/
import PageHighlight.Proofs.Page.Blocks
import PageHighlight.Proofs.Session.Candidates
import PageHighlight.Proofs.Session.Fate
import PageHighlight.Proofs.Session.Original

set_option autoImplicit false

namespace PageHighlight

/-! ## Lists, element by element -/

theorem forall₂_set {α β : Type} {R : α → β → Prop} {l : List α} {l' : List β}
    (h : List.Forall₂ R l l') {i : Nat} {a : α} (ha : l[i]? = some a) {b : β} (hb : R a b) :
    List.Forall₂ R l (l'.set i b) := by
  induction h generalizing i with
  | nil => cases ha
  | cons hr h ih =>
    cases i with
    | zero =>
      cases ha
      exact .cons hb h
    | succ i => exact .cons hr (ih ha)

theorem forall₂_getElem? {α β : Type} {R : α → β → Prop} {l : List α} {l' : List β}
    (h : List.Forall₂ R l l') {i : Nat} {b : β} (hb : l'[i]? = some b) :
    ∃ a, l[i]? = some a ∧ R a b := by
  induction h generalizing i with
  | nil => cases hb
  | cons hr h ih =>
    cases i with
    | zero =>
      cases hb
      exact ⟨_, rfl, hr⟩
    | succ i => exact ih hb

/-- What holds of pairs may be weakened for the elements that are on the left. -/
theorem forall₂_imp_of_mem {α β : Type} {R S : α → β → Prop} {l : List α} {l' : List β}
    (h : List.Forall₂ R l l') (hRS : ∀ a ∈ l, ∀ b, R a b → S a b) : List.Forall₂ S l l' := by
  refine forall₂_trans (fun a b c hc hac hcb => ?_) (List.forall₂_same.2 fun a _ => Eq.refl a) h
  subst hac
  exact hRS a hc b hcb

theorem forall₂_and {α β : Type} {R S : α → β → Prop} {l : List α} {l' : List β}
    (h : List.Forall₂ R l l') (h' : List.Forall₂ S l l') :
    List.Forall₂ (fun a b => R a b ∧ S a b) l l' := by
  induction h with
  | nil => exact .nil
  | cons hr _ ih =>
    cases h' with
    | cons hs h' => exact .cons ⟨hr, hs⟩ (ih h')

/-- Replacing an element of a list by one with the same key, where keys occur once. -/
theorem mem_set_iff_of_nodup {α β : Type} {f : α → β} {l : List α} (hn : (l.map f).Nodup) {i : Nat}
    {a : α} (ha : l[i]? = some a) (b x : α) : x ∈ l.set i b ↔ x = b ∨ (x ∈ l ∧ f x ≠ f a) := by
  induction l generalizing i with
  | nil => cases ha
  | cons c l ih =>
    obtain ⟨hc, hn⟩ := List.nodup_cons.1 hn
    cases i with
    | zero =>
      cases ha
      have hne : ∀ y ∈ l, f y ≠ f a := fun y hy he => hc (he ▸ List.mem_map_of_mem hy)
      simp only [List.set_cons_zero, List.mem_cons]
      constructor
      · exact Or.imp_right fun hx => ⟨.inr hx, hne x hx⟩
      · rintro (rfl | ⟨rfl | hx, hfx⟩)
        · exact .inl rfl
        · exact absurd rfl hfx
        · exact .inr hx
    | succ i =>
      have hca : f c ≠ f a := fun he => hc (he ▸ List.mem_map_of_mem (List.mem_of_getElem? ha))
      simp only [List.set_cons_succ, List.mem_cons, ih hn ha]
      constructor
      · rintro (rfl | rfl | ⟨hx, hfx⟩)
        · exact .inr ⟨.inl rfl, hca⟩
        · exact .inl rfl
        · exact .inr ⟨.inr hx, hfx⟩
      · rintro (rfl | ⟨rfl | hx, hfx⟩)
        · exact .inr (.inl rfl)
        · exact .inl rfl
        · exact .inr (.inr ⟨hx, hfx⟩)

/-! ## Outcomes and fates -/

/-- An outcome tells a fate. -/
inductive Outcome.Tells : Outcome → Fate → Prop where
  | rendered (id : NodeId) (r : RenderedBlock) : Tells (.rendered id) (.rendered r)
  | skipped (why : SkipReason) : Tells (.skipped why) (.skipped why)
  | failed (e : Error) : Tells (.failed e) (.failed e)

namespace Tally

theorem count_ofFates {o : Outcome} {f : Fate} (h : o.Tells f) (fs : List Fate) :
    (ofFates fs).count o = ofFates (fs ++ [f]) := by
  cases h <;> simp [ofFates, count, List.countP_append, Fate.isRendered, Fate.isSkipped,
    Fate.isFailed]

end Tally

/-! ## Renders -/

namespace Render

/-- How far the render of a block is: it gets past the allow-list only if the block
does, and when it is done its outcome tells the fate of the block. -/
structure Tracks (s : Setting) (theme : Text) (n : Node) (r : Render) : Prop where
  sameId : r.id = n.id
  themed : r.theme = theme
  allowed : ∀ o, r.stage = .asking o ∨ (∃ request, r.stage = .waiting o request) ∨
    (∃ h, r.stage = .answered o h) → s.config.allows o.language = true
  outcome : ∀ o, r.outcome? = some o → o.Tells (s.fate theme n)

theorem tracks_of (s : Setting) (theme : Text) (n : Node) : Tracks s theme n (of n.id theme) := by
  refine ⟨rfl, rfl, ?_, ?_⟩
  · rintro o (h | ⟨request, h⟩ | ⟨handle, h⟩) <;> cases h
  · intro o h
    cases h

theorem map_id_of_tracks {s : Setting} {theme : Text} {ns : List Node} {rs : List Render}
    (h : List.Forall₂ (Tracks s theme) ns rs) : ns.map (·.id) = rs.map (·.id) := by
  induction h with
  | nil => rfl
  | cons hr _ ih => rw [List.map_cons, List.map_cons, hr.sameId, ih]

/-- Counting the outcomes of renders is counting the fates of their blocks. -/
theorem countAll_of_tracks {s : Setting} {theme : Text} {ns : List Node} {rs : List Render}
    (h : List.Forall₂ (Tracks s theme) ns rs) (hdone : ∀ r ∈ rs, r.outcome?.isSome = true)
    (fs : List Fate) :
    (Tally.ofFates fs).countAll rs = Tally.ofFates (fs ++ ns.map (s.fate theme)) := by
  induction h generalizing fs with
  | nil => simp [Tally.countAll]
  | @cons n r ns rs hr _ ih =>
    obtain ⟨o, ho⟩ := Option.isSome_iff_exists.1 (hdone r List.mem_cons_self)
    have hrest := ih (fun r hr => hdone r (List.mem_cons_of_mem _ hr)) (fs ++ [s.fate theme n])
    unfold Tally.countAll at hrest ⊢
    rw [List.filterMap_cons_some ho, List.foldl_cons, Tally.count_ofFates (hr.outcome o ho), hrest,
      List.map_cons, List.append_assoc, List.singleton_append]

end Render

namespace Page

theorem lastingClasses_withClass (n : Node) :
    lastingClasses (n.withClass loadingClass).classes = lastingClasses n.classes := by
  unfold Node.withClass
  split
  · rfl
  · exact lastingClasses_append_loading n.classes

end Page

/-- What is noted of a block that carries the mark is what the block was without it. -/
theorem World.Faithful.original {s : Setting} {first : Page} {w : World} (hw : w.Faithful s first)
    {n : Node} {t : Text} (hn : n.content = .source t) {slot : Slot} (hslot : slot ∈ w.page.slots)
    (hnode : slot.node = n.withClass Page.loadingClass) {o : SourceBlock}
    (ho : slot.captured = some o) : o = Page.sourceBlockOf n.classes t := by
  obtain ⟨f, -, hf⟩ := exists_of_mem_right_of_forall₂ hw.page hslot
  have hcontent : slot.node.content = .source t := by rw [hnode, Node.content_withClass, hn]
  obtain ⟨hfirst, hclasses⟩ := hf.pristine t hcontent
  obtain ⟨t', hfirst', rfl⟩ := hf.captured o ho
  cases hfirst.symm.trans hfirst'
  refine Page.sourceBlockOf_congr (hclasses.symm.trans ?_) t
  rw [hnode, Page.lastingClasses_withClass]

namespace Render

variable {s : Setting} {first : Page} {w : World} {theme : Text} {n : Node} {t : Text}

/-- What one step of the render of a block does to the blocks of the page: nothing, if
there is more to do or the block is not to be rendered, or it puts in what the block is
to become. -/
inductive Advances (s : Setting) (theme : Text) (n : Node) (w w' : World) (r' : Render) :
    Prop where
  | goesOn (blocks : w'.page.blocks = w.page.blocks) (undone : r'.outcome? = none)
  | leaves (blocks : w'.page.blocks = w.page.blocks)
      (unrendered : ∀ r, s.fate theme n ≠ .rendered r)
  | puts {r : RenderedBlock} (rendered : s.fate theme n = .rendered r)
      (blocks : w'.page.blocks = w.page.blocks.map fun m =>
        if m.id = n.id then ⟨w.page.allocated + 1, [Page.renderedClass], .rendered r⟩ else m)
      (done : r'.outcome? ≠ none)

theorem tracks_afterRequest (theme : Text) {id : NodeId} {o : SourceBlock} (hid : id = n.id)
    (ho : s.config.allows o.language = true) (request : Request) :
    Tracks s theme n ⟨id, theme, afterRequest o request⟩ ∧
      outcome? ⟨id, theme, afterRequest o request⟩ = none := by
  have hallowed : ∀ o', afterRequest o request = .asking o' ∨
      (∃ request', afterRequest o request = .waiting o' request') ∨
      (∃ h, afterRequest o request = .answered o' h) → o' = o := by
    intro o' h
    cases request <;> simp [afterRequest] at h <;> exact h.symm
  have hundone : outcome? ⟨id, theme, afterRequest o request⟩ = none := by
    cases request <;> rfl
  refine ⟨⟨hid, rfl, ?_, ?_⟩, hundone⟩
  · intro o' h
    rw [hallowed o' h]
    exact ho
  · intro o' h
    rw [hundone] at h
    cases h

/-- A render that is done does not ask for an engine. -/
theorem tracks_done {id : NodeId} (hid : id = n.id) {o : Outcome}
    (ho : o.Tells (s.fate theme n)) : Tracks s theme n ⟨id, theme, .done o⟩ := by
  refine ⟨hid, rfl, ?_, ?_⟩
  · rintro o' (h | ⟨request, h⟩ | ⟨handle, h⟩) <;> cases h
  · intro o' h
    cases h
    exact ho

theorem captured_of_marked (hw : w.Faithful s first) (hn : n.content = .source t)
    {slot : Slot} (hslot : slot ∈ w.page.slots)
    (hnode : slot.node = n.withClass Page.loadingClass) :
    (w.page.capture n.id).1 = some (Page.sourceBlockOf n.classes t) := by
  have hfind : w.page.slot? n.id = some slot := by
    have hid : slot.node.id = n.id := by rw [hnode, Node.id_withClass]
    rw [← hid]
    exact hw.numbered.slot?_eq_some hslot
  have hcontent : slot.node.content = .source t := by rw [hnode, Node.content_withClass, hn]
  simp only [Page.capture, hfind]
  cases ho : slot.captured with
  | some o => simp only [hw.original hn hslot hnode ho]
  | none =>
    have hsource : Page.sourceBlockOf slot.node.classes t = Page.sourceBlockOf n.classes t := by
      rw [hnode]
      exact Page.sourceBlockOf_congr (Page.lastingClasses_withClass n) t
    simp only [hcontent, hsource]

/-- A step of the render of a marked block tracks the block, and changes it at most. -/
theorem Tracks.step {r : Render} (h : Tracks s theme n r) (hw : w.Faithful s first)
    (hknows : r.Knows s w.page) (hn : n.content = .source t)
    (hmarked : n.withClass Page.loadingClass ∈ w.page.blocks) (hundone : r.outcome? = none) :
    Tracks s theme n (r.step s w).2 ∧ Advances s theme n w (r.step s w).1 (r.step s w).2 := by
  obtain ⟨slot, hslot, hnode⟩ := List.mem_map.1 hmarked
  obtain ⟨id, theme', stage⟩ := r
  obtain ⟨hid, htheme, hallowed, -⟩ := h
  subst hid htheme
  have hslotid : slot.node.id = n.id := by rw [hnode, Node.id_withClass]
  have original : ∀ o, w.page.Owns n.id o → o = Page.sourceBlockOf n.classes t :=
    fun o ho => hw.original hn hslot hnode (ho.2 slot hslot hslotid)
  cases stage with
  | start =>
    have hcapture : (w.write (·.capture n.id)).1 = some (Page.sourceBlockOf n.classes t) :=
      captured_of_marked hw hn hslot hnode
    have hblocks : (w.write (·.capture n.id)).2.page.blocks = w.page.blocks :=
      hw.numbered.blocks_capture n.id
    simp only [step, hcapture]
    split
    · next hallows =>
      refine ⟨⟨rfl, rfl, ?_, ?_⟩, .goesOn hblocks rfl⟩
      · rintro o (h | ⟨request, h⟩ | ⟨handle, h⟩) <;> cases h
        exact hallows
      · intro o h
        cases h
    · next hallows =>
      have hfate : s.fate theme' n =
          .skipped (.disallowed (Page.sourceBlockOf n.classes t).language) := by
        simp only [Setting.fate, hn, if_neg hallows]
      refine ⟨tracks_done rfl (hfate ▸ .skipped _), .leaves hblocks fun r hr => ?_⟩
      rw [hfate] at hr
      cases hr
  | asking o =>
    obtain ⟨htracks, hopen⟩ := tracks_afterRequest theme' (rfl : n.id = n.id)
      (hallowed o (.inl rfl)) (w.ticket.2.engines.ask s.loader w.ticket.2.gateOpen s.key
        w.ticket.1).2
    exact ⟨htracks, .goesOn rfl hopen⟩
  | waiting o request =>
    obtain ⟨htracks, hopen⟩ := tracks_afterRequest theme' (rfl : n.id = n.id)
      (hallowed o (.inr (.inl ⟨request, rfl⟩))) (w.engines.goOn s.loader w.gateOpen s.config s.key
        request).2
    exact ⟨htracks, .goesOn rfl hopen⟩
  | answered o handle =>
    obtain ⟨howns, hhandle⟩ := hknows
    have hallows := hallowed o (.inr (.inr ⟨handle, rfl⟩))
    cases original o howns
    cases handle with
    | none =>
      have hfate : s.fate theme' n = .skipped .engineUnavailable := by
        simp only [Setting.fate, hn, if_pos hallows, ← hhandle]
      refine ⟨tracks_done rfl (hfate ▸ .skipped _), .leaves rfl fun r hr => ?_⟩
      rw [hfate] at hr
      cases hr
    | some engine =>
      simp only [step]
      split
      · next e he =>
        have hfate : s.fate theme' n = .failed e := by
          simp only [Setting.fate, hn, if_pos hallows, ← hhandle, he]
        refine ⟨tracks_done rfl (hfate ▸ .failed _), .leaves rfl fun r hr => ?_⟩
        rw [hfate] at hr
        cases hr
      · next block hblock =>
        have hfate : s.fate theme' n = .rendered block := by
          simp only [Setting.fate, hn, if_pos hallows, ← hhandle, hblock]
        have hfind : w.page.slot? n.id = some slot := hslotid ▸ hw.numbered.slot?_eq_some hslot
        have hnew : (w.write (·.replace n.id block)).1 = some (w.page.allocated + 1) := by
          show (w.page.replace n.id block).1 = _
          simp only [Page.replace, hfind]
        simp only [hnew]
        exact ⟨tracks_done rfl (hfate ▸ .rendered _ _),
          .puts hfate (hw.numbered.blocks_replace n.id block) (by simp [outcome?])⟩
  | done o => cases hundone

end Render

/-! ## Blocks -/

/-- Where a block of the page that a cycle began with is, when some of the picked
blocks are pending. -/
inductive Node.Reached (s : Setting) (theme : Text) (bound : Nat) (ids : List NodeId)
    (pending : NodeId → Prop) : Node → Node → Prop where
  | unpicked {n : Node} (unpicked : n.id ∉ ids) : Reached s theme bound ids pending n n
  | marked {n : Node} (picked : n.id ∈ ids)
      (due : pending n.id ∨ ∀ r, s.fate theme n ≠ .rendered r) :
      Reached s theme bound ids pending n (n.withClass Page.loadingClass)
  | replaced {n : Node} (picked : n.id ∈ ids) (done : ¬pending n.id) {r : RenderedBlock}
      (rendered : s.fate theme n = .rendered r) {id : NodeId} (new : bound < id) :
      Reached s theme bound ids pending n ⟨id, [Page.renderedClass], .rendered r⟩

namespace Node.Reached

variable {s : Setting} {theme : Text} {bound : Nat} {ids : List NodeId}
  {pending pending' : NodeId → Prop} {n n' : Node}

theorem congr (h : Reached s theme bound ids pending n n')
    (hp : pending' n.id ↔ pending n.id) : Reached s theme bound ids pending' n n' := by
  cases h with
  | unpicked hn => exact .unpicked hn
  | marked picked due => exact .marked picked (due.imp_left hp.2)
  | replaced picked done rendered new =>
    exact .replaced picked (fun h => done (hp.1 h)) rendered new

/-- A picked block that is pending carries the mark. -/
theorem eq_of_pending (h : Reached s theme bound ids pending n n') (hpicked : n.id ∈ ids)
    (hpending : pending n.id) : n' = n.withClass Page.loadingClass := by
  cases h with
  | unpicked hn => exact absurd hpicked hn
  | marked picked due => rfl
  | replaced picked done rendered new => exact absurd hpending done

/-- A number that was given out before the cycle still names the same block. -/
theorem id_eq_iff (h : Reached s theme bound ids pending n n') {id : NodeId} (hid : id ≤ bound)
    (hpending : pending id) : n'.id = id ↔ n.id = id := by
  cases h with
  | unpicked hn => exact Iff.rfl
  | marked picked due => rw [Node.id_withClass]
  | replaced picked done rendered new =>
    refine ⟨fun he => absurd hid (he ▸ Nat.not_le.2 new), fun he => ?_⟩
    exact absurd (he ▸ hpending) done

end Node.Reached

/-! ## Batches -/

namespace Batches

/-- A block is pending while its render is not done. -/
def IsPending (b : Batches) (id : NodeId) : Prop :=
  id ∈ b.rest.flatten ∨ ∃ r ∈ b.current, r.id = id ∧ r.outcome? = none

/-- Where the batches of a cycle are that began with a page: the picked blocks are
those of earlier batches, which are counted, those of the batch at work, which are
tracked, and those of later ones. -/
structure Progress (s : Setting) (p : Page) (b : Batches) (past now later : List Node)
    (blocks : List Node) : Prop where
  theme : b.theme = s.config.resolveTheme p
  candidates : b.candidates = s.config.candidates p
  split : s.picked p = past ++ (now ++ later)
  tally : b.tally = Tally.ofFates (past.map (s.fate b.theme))
  current : List.Forall₂ (Render.Tracks s b.theme) now b.current
  rest : later.map (·.id) = b.rest.flatten
  blocks : List.Forall₂
    (Node.Reached s b.theme p.allocated (s.config.candidates p) b.IsPending) p.blocks blocks

end Batches

/-! ## Cycles -/

/-- Where a cycle is that began with a page: what it has still to do, what it has
counted, and what it made of the blocks. -/
inductive Cycle.Progress (s : Setting) (p : Page) : Cycle → List Node → Prop where
  | mark : Progress s p (.mark (s.config.resolveTheme p) (s.config.candidates p)) p.blocks
  | batch {b : Batches} {past now later : List Node} {blocks : List Node}
      (h : b.Progress s p past now later blocks) : Progress s p (.batch b) blocks
  | unmark {blocks : List Node}
      (h : List.Forall₂ (Node.Reached s (s.config.resolveTheme p) p.allocated
        (s.config.candidates p) fun _ => False) p.blocks blocks) :
      Progress s p (.unmark (s.config.candidates p)
        (Tally.ofFates ((s.picked p).map (s.fate (s.config.resolveTheme p))))) blocks
  | release {blocks : List Node}
      (h : List.Forall₂ (Node.Cycled s (s.config.resolveTheme p) p.allocated) p.blocks blocks) :
      Progress s p (.release (s.picked p).length
        (Tally.ofFates ((s.picked p).map (s.fate (s.config.resolveTheme p))))) blocks
  | done {blocks : List Node}
      (h : List.Forall₂ (Node.Cycled s (s.config.resolveTheme p) p.allocated) p.blocks blocks) :
      Progress s p (.done (s.reportOf (s.config.resolveTheme p) p)) blocks

namespace Setting

variable {s : Setting} {p : Page}

/-- A block that is picked shows its source. -/
theorem source_of_mem_picked {n : Node} (h : n ∈ s.picked p) : ∃ t, n.content = .source t := by
  have hcandidate := (List.mem_filter.1 h).2
  cases hn : n.content with
  | source t => exact ⟨t, rfl⟩
  | rendered r => simp [Config.isCandidate, Node.isRendered, Node.rendered?, hn] at hcandidate

end Setting

namespace Batches.Progress

variable {s : Setting} {p : Page} {b : Batches} {past now later : List Node} {blocks : List Node}

theorem candidates_eq (h : b.Progress s p past now later blocks) :
    s.config.candidates p =
      past.map (·.id) ++ (b.current.map (·.id) ++ b.rest.flatten) := by
  rw [s.candidates_eq, h.split, List.map_append, List.map_append, h.rest,
    Render.map_id_of_tracks h.current]

/-- After a batch is done, the next one begins, or the marks are taken off. -/
theorem next (h : b.Progress s p past now later blocks) (hsettled : b.isSettled = true) :
    Cycle.Progress s p b.next blocks := by
  have hdone : ∀ r ∈ b.current, r.outcome?.isSome = true := List.all_eq_true.1 hsettled
  have htally : b.tally.countAll b.current =
      Tally.ofFates ((past ++ now).map (s.fate b.theme)) := by
    rw [h.tally, Render.countAll_of_tracks h.current hdone, List.map_append]
  have hpending : ∀ id, b.IsPending id ↔ id ∈ b.rest.flatten := by
    refine fun id => ⟨?_, .inl⟩
    rintro (hid | ⟨r, hr, -, hundone⟩)
    · exact hid
    · have hr := hdone r hr
      rw [hundone] at hr
      cases hr
  unfold Batches.next
  cases hrest : b.rest with
  | nil =>
    have hlater : later = [] := by simpa [hrest] using h.rest
    have hpicked : s.picked p = past ++ now := by rw [h.split, hlater, List.append_nil]
    simp only [htally, h.candidates]
    rw [← hpicked, h.theme]
    refine .unmark ?_
    rw [← h.theme]
    refine h.blocks.imp fun n n' hn => hn.congr ?_
    rw [hpending, hrest]
    simp
  | cons ids rest =>
    have hids : later.map (·.id) = ids ++ rest.flatten := by rw [h.rest, hrest, List.flatten_cons]
    obtain ⟨now', later', rfl, rfl, hlater⟩ := List.map_eq_append_iff.1 hids
    refine .batch (show Progress s p _ (past ++ now) now' later' blocks from ⟨h.theme,
      h.candidates, ?_, htally, ?_, hlater, ?_⟩)
    · rw [h.split, List.append_assoc]
    · simp only [List.map_map, List.forall₂_map_right_iff]
      exact List.forall₂_same.2 fun n _ => Render.tracks_of s b.theme n
    · refine h.blocks.imp fun n n' hn => hn.congr ?_
      rw [hpending, hrest, List.flatten_cons, List.mem_append]
      simp [IsPending, Render.of, Render.outcome?, or_comm]

/-- Only the render that takes a step can get done by it. -/
theorem isPending_set (h : b.Progress s p past now later blocks) (hp : p.IsNumbered)
    {part : Nat} {r r' : Render} (hr : b.current[part]? = some r) (hid : r'.id = r.id)
    (id : NodeId) :
    IsPending { b with current := b.current.set part r' } id ↔
      if id = r.id then r'.outcome? = none else b.IsPending id := by
  have hnodup : (b.current.map (·.id) ++ b.rest.flatten).Nodup := by
    have hcandidates := Setting.nodup_candidates (s := s) hp
    rw [h.candidates_eq] at hcandidates
    exact (List.nodup_append.1 hcandidates).2.1
  obtain ⟨hcurrent, -, hdisjoint⟩ := List.nodup_append.1 hnodup
  have hmem : r.id ∈ b.current.map (·.id) := List.mem_map_of_mem (List.mem_of_getElem? hr)
  have hset := mem_set_iff_of_nodup hcurrent hr r'
  simp only [IsPending, hset]
  by_cases he : id = r.id
  · subst he
    rw [if_pos rfl]
    constructor
    · rintro (hrest | ⟨x, rfl | ⟨-, hne⟩, hxid, hundone⟩)
      · exact absurd rfl (hdisjoint _ hmem _ hrest)
      · exact hundone
      · exact absurd hxid hne
    · exact fun hundone => .inr ⟨r', .inl rfl, hid, hundone⟩
  · rw [if_neg he]
    refine or_congr Iff.rfl ⟨?_, ?_⟩
    · rintro ⟨x, rfl | ⟨hx, -⟩, hxid, hundone⟩
      · exact absurd (hxid.symm.trans hid) he
      · exact ⟨x, hx, hxid, hundone⟩
    · rintro ⟨x, hx, hxid, hundone⟩
      exact ⟨x, .inr ⟨hx, hxid ▸ he⟩, hxid, hundone⟩

/-- A step of a render of the batch at work keeps the progress of the batches. -/
theorem step {first : Page} {w : World} (h : b.Progress s p past now later w.page.blocks)
    (hp : p.IsNumbered) (hle : p.allocated ≤ w.page.allocated) (hw : w.Faithful s first)
    {part : Nat} {r : Render} (hr : b.current[part]? = some r) (hknows : r.Knows s w.page)
    (hundone : r.outcome? = none) :
    Progress s p { b with current := b.current.set part (r.step s w).2 } past now later
      (r.step s w).1.page.blocks := by
  obtain ⟨n, hn, htracks⟩ := forall₂_getElem? h.current hr
  have hid : r.id = n.id := htracks.sameId
  have hpicked : n ∈ s.picked p := by
    rw [h.split]
    exact List.mem_append_right _ (List.mem_append_left _ (List.mem_of_getElem? hn))
  have hblock : n ∈ p.blocks := (List.mem_filter.1 hpicked).1
  have hcandidate : n.id ∈ s.config.candidates p := List.mem_map_of_mem hpicked
  have hpending : b.IsPending n.id := .inr ⟨r, List.mem_of_getElem? hr, hid, hundone⟩
  obtain ⟨t, ht⟩ := Setting.source_of_mem_picked hpicked
  have hmarked : n.withClass Page.loadingClass ∈ w.page.blocks := by
    obtain ⟨n', hn', hreached⟩ := exists_of_mem_left_of_forall₂ h.blocks hblock
    rwa [hreached.eq_of_pending hcandidate hpending] at hn'
  obtain ⟨htracks', hadvances⟩ := htracks.step hw hknows ht hmarked hundone
  have hset := h.isPending_set hp hr (htracks'.sameId.trans hid.symm)
  rw [hid] at hset
  refine ⟨h.theme, h.candidates, h.split, h.tally, forall₂_set h.current hn htracks', h.rest, ?_⟩
  generalize (r.step s w).2 = r' at hset hadvances ⊢
  generalize (r.step s w).1 = w' at hadvances ⊢
  cases hadvances with
  | goesOn blocks undone =>
    rw [blocks]
    refine h.blocks.imp fun m m' hm => hm.congr ?_
    rw [hset]
    by_cases he : m.id = n.id
    · rw [if_pos he, he]
      exact iff_of_true undone hpending
    · rw [if_neg he]
  | leaves blocks unrendered =>
    rw [blocks]
    refine forall₂_imp_of_mem h.blocks fun m hmem m' hm => ?_
    by_cases he : m.id = n.id
    · cases hp.eq_of_id_eq hmem hblock he
      rw [hm.eq_of_pending hcandidate hpending]
      exact .marked hcandidate (.inr unrendered)
    · exact hm.congr (by rw [hset, if_neg he])
  | puts rendered blocks done =>
    rw [blocks, List.forall₂_map_right_iff]
    refine forall₂_imp_of_mem h.blocks fun m hmem m' hm => ?_
    have hm' := hm.id_eq_iff (Setting.le_allocated_of_mem_candidates hp hcandidate) hpending
    by_cases he : m.id = n.id
    · cases hp.eq_of_id_eq hmem hblock he
      rw [if_pos (hm'.2 rfl)]
      refine .replaced hcandidate ?_ rendered (Nat.lt_succ_of_le hle)
      rw [hset, if_pos rfl]
      exact done
    · rw [if_neg (mt hm'.1 he)]
      exact hm.congr (by rw [hset, if_neg he])

end Batches.Progress

namespace Cycle

variable {s : Setting} {p : Page}

/-- When its candidates are marked, a cycle begins with its first batch. -/
theorem progress_begin {w : World} (hblocks : w.page.blocks = p.blocks)
    (hw : w.page.IsNumbered) :
    Progress s p (begin s (s.config.resolveTheme p) (s.config.candidates p))
      (markAll (s.config.candidates p) w.page).2.blocks := by
  rw [hw.blocks_markAll, hblocks]
  refine Batches.Progress.next (show Batches.Progress s p _ [] [] (s.picked p) _ from
    ⟨rfl, rfl, rfl, rfl, .nil, ?_, ?_⟩) rfl
  · exact (flatten_chunks _ _).symm
  · rw [List.forall₂_map_right_iff]
    refine List.forall₂_same.2 fun n hn => ?_
    split
    · next h => exact .marked h (.inl (.inl ((flatten_chunks _ _).symm ▸ h)))
    · next h => exact .unpicked h

/-- When the marks are taken off, every block is what the cycle makes of it. -/
theorem cycled_unmark {w : World} (hp : p.IsNumbered)
    (hunmarked : ∀ n ∈ p.blocks, n.hasClass Page.loadingClass = false) (hw : w.page.IsNumbered)
    (h : List.Forall₂ (Node.Reached s (s.config.resolveTheme p) p.allocated
      (s.config.candidates p) fun _ => False) p.blocks w.page.blocks) :
    List.Forall₂ (Node.Cycled s (s.config.resolveTheme p) p.allocated) p.blocks
      (unmarkAll (s.config.candidates p) w.page).2.blocks := by
  rw [hw.blocks_unmarkAll, List.forall₂_map_right_iff]
  refine forall₂_imp_of_mem h fun n hn n' hreached => ?_
  have hcandidate := Setting.mem_candidates_iff (s := s) hp hn
  cases hreached with
  | unpicked unpicked =>
    rw [if_neg unpicked]
    exact .kept fun hc => absurd (hcandidate.2 hc) unpicked
  | marked picked due =>
    rw [Node.id_withClass, if_pos picked, Node.withoutClass_withClass (hunmarked n hn)]
    exact .kept fun _ => due.resolve_left id
  | replaced picked done rendered new =>
    rw [if_neg fun hmem =>
      absurd (Setting.le_allocated_of_mem_candidates hp hmem) (Nat.not_le.2 new)]
    exact .replaced (hcandidate.1 picked) rendered new

/-- A step of a cycle keeps its progress. -/
theorem Progress.step {first : Page} {w : World} {c : Cycle} (h : c.Progress s p w.page.blocks)
    (hp : p.IsNumbered) (hunmarked : ∀ n ∈ p.blocks, n.hasClass Page.loadingClass = false)
    (hle : p.allocated ≤ w.page.allocated) (hw : w.Faithful s first)
    (hknows : ∀ r ∈ c.renders, r.Knows s w.page) (part : Nat) :
    Progress s p (c.step s part w).2 (c.step s part w).1.page.blocks := by
  generalize hblocks : w.page.blocks = blocks at h
  cases h with
  | mark => exact progress_begin hblocks hw.numbered
  | @batch b past now later _ h =>
    subst hblocks
    simp only [Cycle.step]
    split
    · next hsettled => exact h.next hsettled
    · split
      · exact .batch h
      · next r hr =>
        cases hundone : r.outcome? with
        | none => exact .batch (h.step hp hle hw hr (hknows r (List.mem_of_getElem? hr)) hundone)
        | some o =>
          have hstay : r.step s w = (w, r) := by
            obtain ⟨id, theme, stage⟩ := r
            cases stage with
            | done o => rfl
            | _ => cases hundone
          have hset : b.current.set part r = b.current := by
            obtain ⟨hlt, rfl⟩ := List.getElem?_eq_some_iff.1 hr
            exact List.set_getElem_self hlt
          simp only [hstay, hset]
          exact .batch h
  | unmark h =>
    subst hblocks
    have hlength : (s.config.candidates p).length = (s.picked p).length := by
      rw [s.candidates_eq, List.length_map]
    simp only [Cycle.step, hlength]
    exact .release (cycled_unmark hp hunmarked hw.numbered h)
  | release h =>
    subst hblocks
    exact .done h
  | done h =>
    subst hblocks
    exact .done h

end Cycle

end PageHighlight
