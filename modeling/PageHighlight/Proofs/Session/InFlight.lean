/-
  Proofs/Session/InFlight.lean --- the renders that a cycle has under way at one time.

  WHAT THIS FILE IS FOR.  A cycle renders its candidates batch by batch: the renders of a
  batch go on side by side, in any order, and the next batch is called when all of them
  have answered.  `one_batch_in_flight` says so of every moment of every history: the
  renders in flight are those of one chunk of the candidates, all candidates before it have
  been answered, and none after it was called; and a cycle that has gone through its
  candidates has called each of them, and was answered for each, once.

  THE TRACE.  What was called and what was answered is told from the batches before and
  after each event (`Session.calls`, `Session.answers`); `Cycle.Stands` ties both to where
  the cycle is, with one constructor for each stage.
-/
import Mathlib.Algebra.BigOperators.Ring.List
import Mathlib.Algebra.Ring.Nat
import Mathlib.Data.List.Infix
import PageHighlight.Proofs.Session.Turns

set_option autoImplicit false

namespace PageHighlight

/-! ## Chunks -/

section

variable {α : Type} {n : Nat} {xs : List α}

/-- A chunk has at most `n` items, or one if `n` is none. -/
theorem length_le_of_mem_chunks {c : List α} (h : c ∈ chunks n xs) : c.length ≤ max 1 n := by
  fun_induction chunks n xs with
  | case1 => cases h
  | case2 x rest ih =>
    rcases List.mem_cons.1 h with rfl | h
    · rw [List.length_take]
      omega
    · exact ih h

/-- No chunk is empty. -/
theorem ne_nil_of_mem_chunks {c : List α} (h : c ∈ chunks n xs) : c ≠ [] := by
  fun_induction chunks n xs with
  | case1 => cases h
  | case2 x rest ih =>
    rcases List.mem_cons.1 h with rfl | h
    · simp
    · exact ih h

/-- All chunks but the last one are full. -/
theorem length_eq_of_chunks {past rest : List (List α)} {c : List α}
    (h : chunks n xs = past ++ c :: rest) (hrest : rest ≠ []) : c.length = max 1 n := by
  fun_induction chunks n xs generalizing past with
  | case1 => simp at h
  | case2 x tail ih =>
    cases past with
    | nil =>
      obtain ⟨rfl, hchunks⟩ := List.cons.inj h
      -- there are items after the first chunk
      have hlength : n - 1 < tail.length := by
        refine Nat.lt_of_not_le fun hle => hrest ?_
        rw [← hchunks, List.drop_eq_nil_of_le hle, chunks]
      rw [List.length_take, List.length_cons]
      omega
    | cons first past => exact ih (List.cons.inj h).2

/-- Each chunk begins at a multiple of their size. -/
theorem dvd_length_of_chunks {past rest : List (List α)} {c : List α}
    (h : chunks n xs = past ++ c :: rest) : max 1 n ∣ past.flatten.length := by
  rw [List.length_flatten]
  apply List.dvd_sum
  intro k hk
  obtain ⟨full, hfull, rfl⟩ := List.mem_map.1 hk
  obtain ⟨before, after, rfl⟩ := List.append_of_mem hfull
  rw [List.append_assoc, List.cons_append] at h
  rw [length_eq_of_chunks h (by simp)]

end

/-! ## What is called and answered between two batches -/

namespace Render

/-- What a render has answered, with its number. -/
def answer? (r : Render) : Option (NodeId × Outcome) := r.outcome?.map fun o => (r.id, o)

/-- The renders that were called when the second batch came after the first one: if all of
the first one have answered, those that have not. -/
def called (old new : List Render) : List Render :=
  if old.all (·.answer?.isSome) then new.filter (·.answer?.isNone) else []

/-- What the renders of a batch answered between two moments. -/
def answered (old new : List Render) : List (NodeId × Outcome) :=
  (old.zip new).filterMap fun (r, r') => if r.answer?.isSome then none else r'.answer?

/-- Nothing is called and nothing answered while the batch stays as it is. -/
theorem called_self (rs : List Render) : called rs rs = [] := by
  unfold called
  split
  · next hall =>
    refine List.filter_eq_nil_iff.2 fun r hr => ?_
    have hsome := List.all_eq_true.1 hall r hr
    simp only [Option.isSome_iff_exists] at hsome
    obtain ⟨x, hx⟩ := hsome
    simp [hx]
  · rfl

theorem answered_self (rs : List Render) : answered rs rs = [] := by
  unfold answered
  induction rs with
  | nil => rfl
  | cons r rs ih =>
    rw [List.zip_cons_cons, List.filterMap_cons, ih]
    cases hr : r.answer? <;> simp [hr]

/-- A settled batch is followed by the renders of the next one. -/
theorem called_of_settled {rs : List Render} (h : ∀ r ∈ rs, r.answer?.isSome = true)
    (ids : List NodeId) (theme : Text) :
    called rs (ids.map (Render.of · theme)) = ids.map (Render.of · theme) := by
  rw [called, if_pos (List.all_eq_true.2 h), List.filter_eq_self]
  intro r hr
  obtain ⟨id, -, rfl⟩ := List.mem_map.1 hr
  rfl

/-- Nothing is called while a render of the batch has not answered. -/
theorem called_of_unsettled {rs : List Render} (h : (rs.all fun r => r.outcome?.isSome) = false)
    (new : List Render) : called rs new = [] := by
  have hall : (rs.all (·.answer?.isSome)) = false := by
    simpa only [answer?, Option.isSome_map] using h
  rw [called, hall]
  rfl

theorem answered_of_settled {rs : List Render} (h : ∀ r ∈ rs, r.answer?.isSome = true)
    (new : List Render) : answered rs new = [] := by
  refine List.filterMap_eq_nil_iff.2 fun x hx => ?_
  exact if_pos (h x.1 (List.of_mem_zip hx).1)

/-- One render of a batch takes a step. -/
theorem answered_set {rs : List Render} {i : Nat} {r : Render} (hr : rs[i]? = some r)
    (hnone : r.answer? = none) (r' : Render) :
    answered rs (rs.set i r') = r'.answer?.toList := by
  unfold answered
  induction rs generalizing i with
  | nil => cases hr
  | cons x rs ih =>
    cases i with
    | zero =>
      cases hr
      have hrest := answered_self rs
      unfold answered at hrest
      rw [List.set_cons_zero, List.zip_cons_cons, List.filterMap_cons, hrest]
      cases hr' : r'.answer? <;> simp [hnone, hr']
    | succ i =>
      rw [List.set_cons_succ, List.zip_cons_cons, List.filterMap_cons, ih hr]
      cases hx : x.answer? <;> simp [hx]

/-- What the renders of a batch have answered, after one of them has taken a step. -/
theorem answers_set {rs : List Render} {i : Nat} {r : Render} (hr : rs[i]? = some r)
    (hnone : r.answer? = none) (r' : Render) :
    ((rs.set i r').filterMap answer?).Perm (rs.filterMap answer? ++ r'.answer?.toList) := by
  induction rs generalizing i with
  | nil => cases hr
  | cons x rs ih =>
    cases i with
    | zero =>
      cases hr
      rw [List.set_cons_zero, List.filterMap_cons, List.filterMap_cons, hnone]
      cases hr' : r'.answer? with
      | none => simp
      | some a => simpa using (List.perm_append_singleton a _).symm
    | succ i =>
      rw [List.set_cons_succ, List.filterMap_cons, List.filterMap_cons]
      cases hx : x.answer? with
      | none => simpa using ih hr
      | some a => simpa using (ih hr).cons a

/-- A step of a render answers, or not, and takes no answer back. -/
theorem answers_step {rs : List Render} {i : Nat} {r : Render} (hr : rs[i]? = some r) (s : Setting)
    (w : World) :
    ((rs.set i (r.step s w).2).filterMap answer?).Perm
      (rs.filterMap answer? ++ answered rs (rs.set i (r.step s w).2)) := by
  cases hdone : r.outcome? with
  | none =>
    have hnone : r.answer? = none := by rw [answer?, hdone]; rfl
    rw [answered_set hr hnone]
    exact answers_set hr hnone _
  | some outcome =>
    have hsame : rs.set i r = rs := by
      obtain ⟨hi, rfl⟩ := List.getElem?_eq_some_iff.1 hr
      exact List.set_getElem_self hi
    rw [step_of_outcome? hdone, hsame, answered_self, List.append_nil]

/-- A batch that is settled has answered for each of its numbers. -/
theorem map_fst_answers {rs : List Render} (h : ∀ r ∈ rs, r.answer?.isSome = true) :
    (rs.filterMap answer?).map Prod.fst = rs.map (·.id) := by
  induction rs with
  | nil => rfl
  | cons r rs ih =>
    have hrest := ih fun x hx => h x (List.mem_cons_of_mem r hx)
    have hsome := h r List.mem_cons_self
    rw [answer?, Option.isSome_map] at hsome
    obtain ⟨o, ho⟩ := Option.isSome_iff_exists.1 hsome
    simp [answer?, ho, ← hrest]

end Render

/-! ## Where a cycle stands -/

/-- Where a cycle is that found these candidates and resolved this theme: what it has called
and what was answered. -/
inductive Cycle.Stands (n : Nat) (theme : Text) (ids : List NodeId) :
    Cycle → List Render → List (NodeId × Outcome) → Prop where
  | marking : Stands n theme ids (.mark theme ids) [] []
  /-- the batches before have been answered, and some renders of this one -/
  | batching (b : Batches) (past : List (List NodeId)) (early late : List (NodeId × Outcome))
      (found : b.candidates = ids) (themed : b.theme = theme)
      (chunks : chunks n ids = past ++ b.current.map (·.id) :: b.rest)
      (renders : ∀ r ∈ b.current, r.theme = theme)
      (settled : (early.map Prod.fst).Perm past.flatten)
      (answers : late.Perm (b.current.filterMap Render.answer?)) :
      Stands n theme ids (.batch b)
        ((past.flatten ++ b.current.map (·.id)).map (Render.of · theme)) (early ++ late)
  | unmarking (tally : Tally) (answers : List (NodeId × Outcome))
      (settled : (answers.map Prod.fst).Perm ids) :
      Stands n theme ids (.unmark ids tally) (ids.map (Render.of · theme)) answers
  | releasing (count : Nat) (tally : Tally) (answers : List (NodeId × Outcome))
      (settled : (answers.map Prod.fst).Perm ids) :
      Stands n theme ids (.release count tally) (ids.map (Render.of · theme)) answers

namespace Cycle

variable {n : Nat} {theme : Text} {ids : List NodeId} {c : Cycle} {calls : List Render}
  {answers : List (NodeId × Outcome)}

@[simp] theorem renders_batch (b : Batches) : (batch b).renders = b.current := rfl

theorem Stands.isActive (h : c.Stands n theme ids calls answers) : c.isActive = true := by
  cases h <;> rfl

/-- A cycle that is not at work renders nothing. -/
theorem renders_of_not_isActive (h : c.isActive = false) : c.renders = [] := by
  cases c with
  | start => rfl
  | done report => rfl
  | _ => cases h

/-- The next batch begins when the last one is settled, or all candidates are through. -/
theorem stands_next (b : Batches) (past : List (List NodeId))
    (early : List (NodeId × Outcome)) (found : b.candidates = ids) (themed : b.theme = theme)
    (chunks : chunks n ids = past ++ b.rest) (settled : (early.map Prod.fst).Perm past.flatten) :
    b.next.Stands n theme ids
      ((past.flatten ++ b.next.renders.map (·.id)).map (Render.of · theme)) early ∧
    ∃ next : List NodeId, b.next.renders = next.map (Render.of · theme) := by
  unfold Batches.next
  cases hrest : b.rest with
  | nil =>
    have hall : past.flatten = ids := by
      rw [← flatten_chunks n ids, chunks, hrest, List.append_nil]
    simp only [renders, List.map_nil, List.append_nil, hall]
    rw [found]
    exact ⟨.unmarking _ early (hall ▸ settled), [], rfl⟩
  | cons next rest =>
    have hids : (next.map fun id => Render.of id b.theme).map (·.id) = next := by
      simp [Render.of, Function.comp_def]
    have hnone : (next.map fun id => Render.of id b.theme).filterMap Render.answer? = [] := by
      refine List.filterMap_eq_nil_iff.2 fun r hr => ?_
      obtain ⟨id, -, rfl⟩ := List.mem_map.1 hr
      rfl
    have hrenders : ∀ r ∈ next.map fun id => Render.of id b.theme, r.theme = theme := by
      intro r hr
      obtain ⟨id, -, rfl⟩ := List.mem_map.1 hr
      exact themed
    refine ⟨?_, next, by simp [renders, themed]⟩
    rw [← List.append_nil early]
    exact .batching _ past early [] found themed (by rw [chunks, hrest, hids]) hrenders settled
      (hnone ▸ .refl _)

/-- A cycle that has looked at the page has called nothing. -/
theorem stands_survey (s : Setting) (part : Nat) (w : World) :
    (survey.step s part w).2.Stands s.config.batchSize (s.config.resolveTheme w.page)
        (s.config.candidates w.page) [] [] ∧
      (survey.step s part w).2.renders = [] := by
  unfold step
  cases s.config.candidates w.page with
  | nil => exact ⟨.releasing 0 Tally.zero [] (.refl _), rfl⟩
  | cons id ids => exact ⟨.marking, rfl⟩

/-- A step of a cycle calls the next batch, or is a step of one render, or ends the cycle;
then every candidate was called and answered. -/
theorem Stands.step {s : Setting} (h : c.Stands s.config.batchSize theme ids calls answers)
    (part : Nat) (w : World) :
    (c.step s part w).2.Stands s.config.batchSize theme ids
        (calls ++ Render.called c.renders (c.step s part w).2.renders)
        (answers ++ Render.answered c.renders (c.step s part w).2.renders) ∨
      ((c.step s part w).2.isActive = false ∧ calls = ids.map (Render.of · theme) ∧
        (answers.map Prod.fst).Perm ids) := by
  cases h with
  | marking =>
    obtain ⟨hstands, next, hnext⟩ := stands_next (n := s.config.batchSize)
      ⟨theme, ids, Tally.zero, [], chunks s.config.batchSize ids⟩ [] [] rfl rfl rfl (.refl _)
    refine .inl ?_
    simp only [Cycle.step, begin]
    rw [hnext] at hstands ⊢
    rw [show (mark theme ids).renders = [] from rfl, Render.called_of_settled (by simp),
      Render.answered_of_settled (by simp)]
    simpa [Render.of, Function.comp_def] using hstands
  | batching b past early late found themed chunks renders settled answers =>
    simp only [Cycle.step]
    split
    · next hsettled =>
      -- every render of the batch has answered
      have hall : ∀ r ∈ b.current, r.answer?.isSome = true := by
        intro r hr
        rw [Render.answer?, Option.isSome_map]
        exact List.all_eq_true.1 hsettled r hr
      have hanswered : ((early ++ late).map Prod.fst).Perm
          (past ++ [b.current.map (·.id)]).flatten := by
        rw [List.map_append, List.flatten_append, List.flatten_singleton,
          ← Render.map_fst_answers hall]
        exact settled.append (answers.map Prod.fst)
      have hchunks : PageHighlight.chunks s.config.batchSize ids =
          (past ++ [b.current.map (·.id)]) ++ b.rest := by
        rw [chunks, List.append_assoc, List.singleton_append]
      obtain ⟨hstands, next, hnext⟩ := stands_next b _ _ found themed hchunks hanswered
      refine .inl ?_
      rw [hnext] at hstands ⊢
      rw [renders_batch, Render.called_of_settled hall,
        Render.answered_of_settled hall, List.append_nil]
      simpa [Render.of, Function.comp_def] using hstands
    · next hsettled =>
      refine .inl ?_
      split
      · rw [renders_batch, Render.called_self, Render.answered_self,
          List.append_nil, List.append_nil]
        exact .batching b past early late found themed chunks renders settled answers
      · next r hr =>
        have hids := Render.map_id_set_step hr s w
        have hrenders : ∀ x ∈ b.current.set part (r.step s w).2, x.theme = theme := by
          intro x hx
          obtain ⟨y, hy, -, htheme⟩ := Render.exists_of_mem_set_step hr hx
          rw [htheme]
          exact renders y hy
        have hanswers := answers.append_right
          (Render.answered b.current (b.current.set part (r.step s w).2))
        rw [renders_batch, renders_batch,
          Render.called_of_unsettled (Bool.eq_false_iff.2 hsettled), List.append_nil,
          List.append_assoc, ← hids]
        exact .batching _ past early _ found themed (hids ▸ chunks) hrenders settled
          (hanswers.trans (Render.answers_step hr s w).symm)
  | unmarking tally answers settled =>
    refine .inl ?_
    rw [show (unmark ids tally).renders = [] from rfl]
    simpa [Cycle.step, renders, Render.called_self, Render.answered_self] using
      .releasing ids.length tally answers settled
  | releasing count tally answers settled => exact .inr ⟨rfl, rfl, settled⟩

end Cycle

/-! ## How the candidates are divided -/

/-- Before one chunk of the candidates, all have been answered, once each; the renders at
work are those of the chunk, some of which have answered; after it, none was called. -/
structure Cycle.Divides (n : Nat) (theme : Text) (ids : List NodeId) (batch calls : List Render)
    (answers : List (NodeId × Outcome)) (before now after : List NodeId)
    (early late : List (NodeId × Outcome)) : Prop where
  whole : ids = before ++ now ++ after
  few : now.length ≤ max 1 n
  /-- only the last chunk is shorter -/
  full : now ≠ [] → after ≠ [] → now.length = max 1 n
  begins : now ≠ [] → max 1 n ∣ before.length
  /-- nothing is rendered before the first chunk and after the last one -/
  edge : now = [] → before = [] ∨ after = []
  current : batch.map (·.id) = now
  themed : ∀ r ∈ batch, r.theme = theme
  called : calls = (before ++ now).map (Render.of · theme)
  answered : answers = early ++ late
  settled : (early.map Prod.fst).Perm before
  settling : late.Perm (batch.filterMap Render.answer?)

theorem Cycle.Stands.divides {n : Nat} {theme : Text} {ids : List NodeId} {c : Cycle}
    {calls : List Render} {answers : List (NodeId × Outcome)}
    (h : c.Stands n theme ids calls answers) :
    ∃ before now after early late,
      Divides n theme ids c.renders calls answers before now after early late := by
  have ended (hsettled : (answers.map Prod.fst).Perm ids) (hnone : c.renders = [])
      (hcalls : calls = ids.map (Render.of · theme)) :
      Divides n theme ids c.renders calls answers ids [] [] answers [] :=
    { whole := by simp
      few := Nat.zero_le _
      full := fun hne => absurd rfl hne
      begins := fun hne => absurd rfl hne
      edge := fun _ => .inr rfl
      current := by rw [hnone]; rfl
      themed := by simp [hnone]
      called := by rw [hcalls, List.append_nil]
      answered := by rw [List.append_nil]
      settled := hsettled
      settling := by simp [hnone] }
  cases h with
  | marking =>
    exact ⟨[], [], ids, [], [],
      { whole := rfl
        few := Nat.zero_le _
        full := fun hne => absurd rfl hne
        begins := fun hne => absurd rfl hne
        edge := fun _ => .inl rfl
        current := rfl
        themed := fun r hr => by cases hr
        called := rfl
        answered := rfl
        settled := .refl _
        settling := .refl _ }⟩
  | batching b past early late found themed chunks renders settled answers =>
    have hmem : b.current.map (·.id) ∈ PageHighlight.chunks n ids := by
      rw [chunks]
      exact List.mem_append_right _ List.mem_cons_self
    refine ⟨past.flatten, b.current.map (·.id), b.rest.flatten, early, late,
      { whole := ?_
        few := length_le_of_mem_chunks hmem
        full := fun _ hafter => length_eq_of_chunks chunks fun hrest => hafter (by rw [hrest]; rfl)
        begins := fun _ => dvd_length_of_chunks chunks
        edge := fun hnone => absurd hnone (ne_nil_of_mem_chunks hmem)
        current := rfl
        themed := renders
        called := rfl
        answered := rfl
        settled := settled
        settling := answers }⟩
    rw [← flatten_chunks n ids, chunks]
    simp
  | unmarking tally answers settled => exact ⟨_, _, _, _, _, ended settled rfl rfl⟩
  | releasing count tally answers settled => exact ⟨_, _, _, _, _, ended settled rfl rfl⟩

/-! ## The cycle at work -/

namespace Session

variable {S : Session}

/-- The renders of the batch at work. -/
def batch (S : Session) : List Render := S.cycles.flatMap Cycle.renders

/-- What is told by the batches before and after each event of a history, in order. -/
def told {α : Type} (f : List Render → List Render → List α) (S : Session) : List Event → List α
  | [] => []
  | e :: es => f S.batch (S.apply e).batch ++ (S.apply e).told f es

/-- The renders that cycles called in a history. -/
def calls (S : Session) (es : List Event) : List Render := S.told Render.called es

/-- What the renders of cycles answered in a history. -/
def answers (S : Session) (es : List Event) : List (NodeId × Outcome) := S.told Render.answered es

theorem told_snoc {α : Type} (f : List Render → List Render → List α) (S : Session)
    (es : List Event) (e : Event) :
    S.told f (es ++ [e]) = S.told f es ++ f (S.after es).batch ((S.after es).apply e).batch := by
  induction es generalizing S with
  | nil => simp [told]
  | cons e' es ih => rw [List.cons_append, told, ih, told, List.append_assoc, after_cons]

theorem calls_snoc (es : List Event) (e : Event) :
    S.calls (es ++ [e]) =
      S.calls es ++ Render.called (S.after es).batch ((S.after es).apply e).batch :=
  told_snoc Render.called S es e

theorem answers_snoc (es : List Event) (e : Event) :
    S.answers (es ++ [e]) =
      S.answers es ++ Render.answered (S.after es).batch ((S.after es).apply e).batch :=
  told_snoc Render.answered S es e

/-! ### What an event makes of it -/

variable {task part : Nat}

/-- The renders of a session are those of the cycle at work. -/
theorem IsSingleFlight.batch_eq (h : S.IsSingleFlight) {c : Cycle} (hc : c ∈ S.cycles)
    (hactive : c.isActive = true) : S.batch = c.renders := by
  obtain ⟨before, after, hcycles⟩ := List.append_of_mem hc
  have hothers : ∀ x ∈ before ++ after, x.renders = [] := fun x hx =>
    Cycle.renders_of_not_isActive (h.not_isActive_others hcycles hactive hx)
  rw [batch, hcycles, List.flatMap_append, List.flatMap_cons,
    List.flatMap_eq_nil_iff.2 fun x hx => hothers x (List.mem_append_left _ hx),
    List.flatMap_eq_nil_iff.2 fun x hx => hothers x (List.mem_append_right _ hx),
    List.nil_append, List.append_nil]

theorem IsSingleFlight.exists_isActive (h : S.IsSingleFlight) (hr : S.world.running = true) :
    ∃ c ∈ S.cycles, c.isActive = true := by
  refine List.countP_pos_iff.1 ?_
  rw [countP_cycles, h, hr]
  exact Nat.one_pos

/-- If no cycle is at work, none renders. -/
theorem IsSingleFlight.batch_eq_nil (h : S.IsSingleFlight) (hr : S.world.running = false) :
    S.batch = [] := by
  refine List.flatMap_eq_nil_iff.2 fun c hc => Cycle.renders_of_not_isActive ?_
  refine Bool.eq_false_iff.2 fun hactive => ?_
  rw [h.running_of_isActive hc hactive] at hr
  cases hr

/-- An event leaves the cycle at work as it is, or is a step after which it is still at work,
or ends it: it was given up, or the step was its last one. -/
theorem IsSingleFlight.apply_cases (h : S.IsSingleFlight) {c : Cycle} (hc : c ∈ S.cycles)
    (hactive : c.isActive = true) (e : Event) :
    c ∈ (S.apply e).cycles ∨
    (∃ k, (c.step S.setting k S.world).2 ∈ (S.apply e).cycles ∧
      (c.step S.setting k S.world).2.isActive = true) ∨
    ((S.apply e).world.running = false ∧ ((∃ task, e = .giveUp task) ∨
      ∃ k, (c.step S.setting k S.world).2.isActive = false)) := by
  have h' : (S.apply e).IsSingleFlight := singleFlight_apply h e
  cases S.moves e with
  | aside cycles p page slots allocated => exact .inl (cycles.kept c hc)
  | step task part k x is call world cycles =>
    cases hx : x.isActive with
    | false =>
      obtain ⟨before, after, hold, hstay, -⟩ := cycles.others
      refine .inl (hstay c ?_)
      rw [hold, List.mem_append, List.mem_cons] at hc
      rw [List.mem_append]
      rcases hc with hc | rfl | hc
      · exact .inl hc
      · rw [hx] at hactive
        cases hactive
      · exact .inr hc
    | true =>
      obtain rfl := h.eq_of_isActive hc call.mem_cycles hactive hx
      cases hnext : (x.step S.setting k S.world).2.isActive with
      | true => exact .inr (.inl ⟨k, cycles.mem_after hnext, hnext⟩)
      | false =>
        refine .inr (.inr ⟨Bool.eq_false_iff.2 fun hr => ?_, .inr ⟨k, hnext⟩⟩)
        -- otherwise one of the others is at work
        obtain ⟨y, hy, hyactive⟩ := h'.exists_isActive hr
        obtain ⟨before, after, hold, -, hnew⟩ := cycles.others
        rcases hnew y hy with rfl | hmem
        · rw [hnext] at hyactive
          cases hyactive
        · rw [h.not_isActive_others hold hx hmem] at hyactive
          cases hyactive
  | drops task t is known live kept old page =>
    rcases kept c hc with hkept | hdropped
    · exact .inl hkept
    · refine .inr (.inr ⟨Bool.eq_false_iff.2 fun hr => ?_, .inl ⟨task, is⟩⟩)
      have hzero := h.spares hr task t is known
      rw [Task.activeCycles, live] at hzero
      exact List.countP_eq_zero.1 hzero c hdropped hactive

/-! ### From when it looks at the page -/

/-- While a call stays at work, it stands somewhere among the candidates of the page that it
looked at. -/
theorem StaysAtWork.stands {mid : List Event} (h : S.StaysAtWork task part mid)
    (hS : S.IsSingleFlight) :
    ∃ c ∈ (S.after (.proceed task part :: mid)).cycles,
      c.Stands S.setting.config.batchSize (S.setting.config.resolveTheme S.page)
        (S.setting.config.candidates S.page) (S.calls (.proceed task part :: mid))
        (S.answers (.proceed task part :: mid)) := by
  induction mid using List.reverseRecOn with
  | nil =>
    have hafter : (S.apply (.proceed task part)).IsSingleFlight := singleFlight_apply hS _
    have hnone : S.batch = [] := hS.batch_eq h.looks.mem_cycles rfl
    obtain ⟨k, -, hturned⟩ := proceed_callAt h.looks rfl
    obtain ⟨t, ht, hlive, -⟩ := h.looks
    obtain ⟨hstands, hrenders⟩ := Cycle.stands_survey S.setting k S.world
    have hmem : (Cycle.survey.step S.setting k S.world).2 ∈ (S.proceed task part).cycles :=
      (hturned.replaced ht hlive).mem_after hstands.isActive
    refine ⟨_, hmem, ?_⟩
    have hbatch : (S.apply (.proceed task part)).batch = [] :=
      (hafter.batch_eq hmem hstands.isActive).trans hrenders
    rw [calls, answers, told, told, told, told, hnone, hbatch]
    exact hstands
  | append_singleton mid e ih =>
    obtain ⟨c, hc, hstands⟩ := ih h.of_snoc
    have hr : ((S.after (.proceed task part :: mid)).apply e).world.running = true := by
      have hr := h.running (mid ++ [e]) (List.prefix_refl _)
      rwa [← List.cons_append, after_snoc] at hr
    have hsetting : (S.after (.proceed task part :: mid)).setting = S.setting := setting_after _ _
    have hsingle : (S.after (.proceed task part :: mid)).IsSingleFlight := singleFlight_after hS _
    have hsingle' := singleFlight_apply hsingle e
    rw [← List.cons_append, calls_snoc, answers_snoc, after_snoc]
    generalize S.after (.proceed task part :: mid) = T at hc hr hsetting hsingle hsingle' ⊢
    have hactive := hstands.isActive
    rw [hsingle.batch_eq hc hactive]
    rcases hsingle.apply_cases hc hactive e with hsame | ⟨k, hmem, hactive'⟩ | ⟨hended, -⟩
    · refine ⟨c, hsame, ?_⟩
      rw [hsingle'.batch_eq hsame hactive, Render.called_self, Render.answered_self,
        List.append_nil, List.append_nil]
      exact hstands
    · refine ⟨_, hmem, ?_⟩
      rw [hsingle'.batch_eq hmem hactive', hsetting]
      rcases hstands.step k T.world with hnext | ⟨hended, -⟩
      · exact hnext
      · rw [hsetting, hended] at hactive'
        cases hactive'
    · rw [hended] at hr
      cases hr

/-- A call that ends without being given up has called every candidate, and was answered for
each of them. -/
theorem StaysAtWork.completed {mid : List Event} (h : S.StaysAtWork task part mid)
    (hS : S.IsSingleFlight) {e : Event} (hne : ∀ task, e ≠ .giveUp task)
    (hr : ((S.after (.proceed task part :: mid)).apply e).world.running = false) :
    S.calls (.proceed task part :: mid ++ [e]) = (S.setting.config.candidates S.page).map
        (Render.of · (S.setting.config.resolveTheme S.page)) ∧
      ((S.answers (.proceed task part :: mid ++ [e])).map Prod.fst).Perm
        (S.setting.config.candidates S.page) := by
  obtain ⟨c, hc, hstands⟩ := h.stands hS
  have hsetting : (S.after (.proceed task part :: mid)).setting = S.setting := setting_after _ _
  have hsingle : (S.after (.proceed task part :: mid)).IsSingleFlight := singleFlight_after hS _
  have hsingle' := singleFlight_apply hsingle e
  rw [calls_snoc, answers_snoc]
  generalize S.after (.proceed task part :: mid) = T at hc hr hsetting hsingle hsingle' ⊢
  have still : ∀ {x : Cycle}, x ∈ (T.apply e).cycles → x.isActive = true → False := by
    intro x hx hactive
    rw [hsingle'.running_of_isActive hx hactive] at hr
    cases hr
  rcases hsingle.apply_cases hc hstands.isActive e with hsame | ⟨k, hmem, hactive⟩ |
    ⟨-, ⟨task, hgiven⟩ | ⟨k, hended⟩⟩
  · exact (still hsame hstands.isActive).elim
  · exact (still hmem hactive).elim
  · exact absurd hgiven (hne task)
  · rw [hsetting] at hended
    rcases hstands.step k T.world with hnext | ⟨-, hcalls, hanswers⟩
    · rw [hnext.isActive] at hended
      cases hended
    · rw [hsingle'.batch_eq_nil hr, hcalls]
      exact ⟨by simp [Render.called], by simpa [Render.answered] using hanswers⟩

/-- What a cycle renders at one time.  At any moment of any history of a session with any
page, if no cycle is at work, no render of one is in flight.  The cycle at work has not
looked at the page yet, so that it has called nothing, or has stayed at work since it did;
then the renders in flight are those of one chunk of the candidates that it found, of at most
`batchSize` of them (at least one), called with the theme that it resolved; for each
candidate before them a render was called and has answered, once, and none was called for
those after them.  When it ends, other than by being given up, it has called one render for
each candidate, in order, with that theme, and each has answered once. -/
theorem one_batch_in_flight (s : Setting) (p : Page) (es : List Event) :
    let S := (start s p).after es
    (S.world.running = false → S.batch = []) ∧
    (S.world.running = true →
      (S.batch = [] ∧ ∀ c ∈ S.cycles, c.isActive = true → c = .survey) ∨
      ∃ past task part mid, es = past ++ .proceed task part :: mid ∧
        ((start s p).after past).StaysAtWork task part mid) ∧
    ∀ past task part mid, es = past ++ .proceed task part :: mid →
      let S₀ := (start s p).after past
      S₀.StaysAtWork task part mid →
      let ids := s.config.candidates S₀.page
      let theme := s.config.resolveTheme S₀.page
      (p.IsFresh → ids.Nodup) ∧
      (∃ before now after early late,
        Cycle.Divides s.config.batchSize theme ids S.batch
          (S₀.calls (.proceed task part :: mid)) (S₀.answers (.proceed task part :: mid))
          before now after early late) ∧
      ∀ e, (∀ task, e ≠ .giveUp task) → (S.apply e).world.running = false →
        S₀.calls (.proceed task part :: mid ++ [e]) = ids.map (Render.of · theme) ∧
        ((S₀.answers (.proceed task part :: mid ++ [e])).map Prod.fst).Perm ids := by
  intro S
  have hsingle : ∀ past, ((start s p).after past).IsSingleFlight :=
    singleFlight_after (singleFlight_start s p)
  refine ⟨(hsingle es).batch_eq_nil, fun hr => ?_, ?_⟩
  · have hnone : ∀ c ∈ (start s p).cycles, c.isActive = false := fun c hc => by cases hc
    refine (survey_or_staysAtWork hnone (singleFlight_start s p) es).imp_left fun hsurvey => ?_
    refine ⟨?_, hsurvey⟩
    obtain ⟨c, hc, hactive⟩ := (hsingle es).exists_isActive hr
    rw [(hsingle es).batch_eq hc hactive, hsurvey c hc hactive]
    rfl
  · rintro past task part mid rfl S₀ hstays ids theme
    have hsetting : S₀.setting = s := setting_after _ _
    obtain ⟨c, hc, hstands⟩ := hstays.stands (hsingle past)
    rw [← after_append] at hc
    have hbatch : S.batch = c.renders := (hsingle _).batch_eq hc hstands.isActive
    refine ⟨fun hp => ?_, ?_, fun e hne hr => ?_⟩
    · exact Setting.nodup_candidates ((isSound_start hp).after past).faithful.inv.numbered
    · rw [hbatch]
      rw [hsetting] at hstands
      exact hstands.divides
    · have hcompleted := hstays.completed (hsingle past) hne (by rwa [← after_append])
      rwa [hsetting] at hcompleted

/-- Three blocks, of Python, that are rendered by two at a time: the third one is called when
the first two have answered, the second of them first. -/
theorem one_batch_in_flight_threeBlocks :
    let python : List Text := ["language-python".toList]
    let p := (((Page.empty.addBlock python "x".toList).2.addBlock python "y".toList).2.addBlock
      python "z".toList).2
    let s : Setting := ⟨{ Config.forRust with batchSize := 2 }, .plain, .forRust, [],
      EngineKey.ofConfig_forRust.symm, rfl⟩
    let past : List Event := [.call .cycle, .proceed 0 0]
    let mid : List Event := [.proceed 0 0, .proceed 0 1, .proceed 0 0, .proceed 0 0]
    let all : List Event := mid ++ List.replicate 3 (.proceed 0 0)
    let S := (start s p).after past
    p.IsFresh ∧ (start s p).world.running = false ∧
    (S.after (.proceed 0 0 :: mid)).world.running = true ∧
    S.StaysAtWork 0 0 mid ∧ S.StaysAtWork 0 0 all ∧
    ((S.after (.proceed 0 0 :: all)).apply (.proceed 0 0)).world.running = false ∧
    (∃ after early late, Cycle.Divides 2 (s.config.resolveTheme S.page) [1, 2, 3]
      (S.after (.proceed 0 0 :: mid)).batch (S.calls (.proceed 0 0 :: mid))
      (S.answers (.proceed 0 0 :: mid)) [1, 2] [3] after early late) ∧
    (S.calls (.proceed 0 0 :: all ++ [.proceed 0 0])).map (·.id) = [1, 2, 3] ∧
    ((S.answers (.proceed 0 0 :: all ++ [.proceed 0 0])).map Prod.fst).Perm [1, 2, 3] := by
  intro python p s past mid all S
  have hfresh : p.IsFresh :=
    ((Page.isFresh_empty.pushBlock _ _ _ _).pushBlock _ _ _ _).pushBlock _ _ _ _
  have hstays : S.StaysAtWork 0 0 all := by
    refine ⟨⟨_, tasks_after_call (S := start s p) rfl, rfl, Nat.zero_lt_one, rfl⟩,
      fun early hearly => ?_⟩
    have hall : ∀ early ∈ all.inits,
        (S.after (.proceed 0 0 :: early)).world.running = true := by decide +kernel
    exact hall early ((List.mem_inits _ _).2 hearly)
  have hstays' : S.StaysAtWork 0 0 mid :=
    ⟨hstays.looks, fun early h => hstays.running early (h.trans (List.prefix_append _ _))⟩
  have hcandidates : s.config.candidates S.page = [1, 2, 3] := by decide +kernel
  have hbatch : (S.after (.proceed 0 0 :: mid)).batch.map (·.id) = [3] := by decide +kernel
  have hrunning : ((S.after (.proceed 0 0 :: all)).apply (.proceed 0 0)).world.running = false := by
    decide +kernel
  have hidle : (start s p).world.running = false := rfl
  have hsize : s.config.batchSize = 2 := rfl
  have hS : (start s p).after past = S := rfl
  clear_value S all mid past s p
  have hduring := (one_batch_in_flight s p (past ++ .proceed 0 0 :: mid)).2.2 past 0 0 mid rfl
  have hended := (one_batch_in_flight s p (past ++ .proceed 0 0 :: all)).2.2 past 0 0 all rfl
  simp only [after_append, hS, hcandidates, hsize] at hduring hended
  obtain ⟨-, ⟨before, now, after, early, late, hdivides⟩, -⟩ := hduring hstays'
  obtain ⟨-, -, hcompleted⟩ := hended hstays
  obtain ⟨hcalls, hanswers⟩ := hcompleted (.proceed 0 0) (fun _ => nofun) hrunning
  obtain rfl : now = [3] := hdivides.current.symm.trans hbatch
  obtain rfl : before = [1, 2] := by
    have hwhole := hdivides.whole
    rcases before with _ | ⟨a, _ | ⟨b, _ | ⟨c, before⟩⟩⟩ <;> simp at hwhole
    rw [hwhole.1, hwhole.2.1]
  refine ⟨hfresh, hidle, hstays'.running mid (List.prefix_refl _), hstays', hstays, hrunning,
    ⟨after, early, late, hdivides⟩, ?_, hanswers⟩
  rw [hcalls]
  rfl

end Session

end PageHighlight
