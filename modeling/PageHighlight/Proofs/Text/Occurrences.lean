/-
  Proofs/Text/Occurrences.lean --- the places where a word begins in a text.

  WHAT THIS FILE IS FOR.  A line is searched for a word from left to right, and the first
  place that has an answer decides.  The places are those where the word begins, from left
  to right (`mem_occurrences`, `pairwise_occurrences`); so the answer is that of one of
  them, and those before it have none (`findSome?_occurrences_eq_some_iff`).  If the word
  begins at one place only, the answer is that of this place
  (`findSome?_occurrences_of_unique`).

  WHEN THERE IS ONE PLACE.  `eq_of_begins_with`: the text before does not hold the word,
  and the character that the word begins with stands nowhere else.

  THE FIRST PLACE.  A text is split at the first place at which the word stands
  (`split?_eq_some_iff`), whatever follows this place (`split?_behind`).

  PIECES.  A separator between two texts separates their pieces (`splitOn_append`).
-/
import PageHighlight.Text.Basic

set_option autoImplicit false

namespace PageHighlight

namespace Text

/-! ## Places -/

variable {α : Type} {p t : Text}

/-- The places are those where the word begins. -/
theorem mem_occurrences (hp : p ≠ []) {a b : Text} :
    (a, b) ∈ occurrences p t ↔ t = a ++ b ∧ p <+: b := by
  induction t generalizing a b with
  | nil =>
    simp only [occurrences, List.not_mem_nil, false_iff]
    rintro ⟨hab, hb⟩
    rw [(List.append_eq_nil_iff.1 hab.symm).2] at hb
    exact hp (List.prefix_nil.1 hb)
  | cons c r ih =>
    have hlater : (a, b) ∈ (occurrences p r).map (fun q => (c :: q.1, q.2)) ↔
        ∃ a', a = c :: a' ∧ r = a' ++ b ∧ p <+: b := by
      simp only [List.mem_map, Prod.exists, Prod.mk.injEq, ih]
      constructor
      · rintro ⟨a', b', hab, rfl, rfl⟩
        exact ⟨a', rfl, hab⟩
      · rintro ⟨a', rfl, hab⟩
        exact ⟨a', b, hab, rfl, rfl⟩
    have hcases : (c :: r = a ++ b ∧ p <+: b) ↔
        ((a, b) = ([], c :: r) ∧ p <+: c :: r) ∨ ∃ a', a = c :: a' ∧ r = a' ++ b ∧ p <+: b := by
      cases a with
      | nil => simpa [eq_comm] using fun h : b = c :: r => by rw [h]
      | cons d a => simp [eq_comm, and_assoc]
    rw [hcases, ← hlater]
    simp only [occurrences, List.isPrefixOf_iff_prefix]
    split
    · next hb => rw [List.mem_cons, and_iff_left hb]
    · next hb => simp only [hb, and_false, false_or]

/-- The places are listed from left to right. -/
theorem pairwise_occurrences (p t : Text) :
    (occurrences p t).Pairwise fun q q' => q.1.length < q'.1.length := by
  induction t with
  | nil => exact .nil
  | cons c r ih =>
    have hlater : ((occurrences p r).map fun q => (c :: q.1, q.2)).Pairwise
        fun q q' => q.1.length < q'.1.length :=
      List.pairwise_map.2 (ih.imp fun hlt => Nat.succ_lt_succ hlt)
    simp only [occurrences]
    split
    · refine List.pairwise_cons.2 ⟨fun q hq => ?_, hlater⟩
      obtain ⟨q', -, rfl⟩ := List.mem_map.1 hq
      exact Nat.succ_pos _
    · exact hlater

/-! ## The first place that has an answer -/

/-- The first answer is that of a place where the word begins, and no place before it has
one. -/
theorem findSome?_occurrences_eq_some_iff (hp : p ≠ []) {f : Text × Text → Option α} {y : α} :
    (occurrences p t).findSome? f = some y ↔
      ∃ a b, t = a ++ b ∧ p <+: b ∧ f (a, b) = some y ∧
        ∀ a' b', t = a' ++ b' → p <+: b' → a'.length < a.length → f (a', b') = none := by
  have hsorted := pairwise_occurrences p t
  constructor
  · intro h
    obtain ⟨before, ⟨a, b⟩, later, hplaces, hf, hnone⟩ := List.findSome?_eq_some_iff.1 h
    have hmem : (a, b) ∈ occurrences p t := by
      rw [hplaces]
      exact List.mem_append_right _ List.mem_cons_self
    rw [mem_occurrences hp] at hmem
    refine ⟨a, b, hmem.1, hmem.2, hf, fun a' b' ht' hb' hlt => ?_⟩
    have hmem' : (a', b') ∈ occurrences p t := (mem_occurrences hp).2 ⟨ht', hb'⟩
    rw [hplaces] at hmem' hsorted
    rcases List.mem_append.1 hmem' with hbefore | hlater
    · exact hnone _ hbefore
    · rcases List.mem_cons.1 hlater with heq | hlater
      · cases heq
        exact absurd hlt (Nat.lt_irrefl _)
      · have hgt := (List.pairwise_cons.1 (List.pairwise_append.1 hsorted).2.1).1 _ hlater
        exact absurd hlt (Nat.lt_asymm hgt)
  · rintro ⟨a, b, ht, hb, hf, hfirst⟩
    obtain ⟨before, later, hplaces⟩ := List.append_of_mem ((mem_occurrences hp).2 ⟨ht, hb⟩)
    refine List.findSome?_eq_some_iff.2 ⟨before, (a, b), later, hplaces, hf, fun q hq => ?_⟩
    have hmem : q ∈ occurrences p t := by
      rw [hplaces]
      exact List.mem_append_left _ hq
    rw [hplaces] at hsorted
    obtain ⟨ht', hb'⟩ := (mem_occurrences hp).1 hmem
    exact hfirst q.1 q.2 ht' hb' ((List.pairwise_append.1 hsorted).2.2 q hq _ List.mem_cons_self)

/-- If the word begins at one place only, this place decides. -/
theorem findSome?_occurrences_of_unique (hp : p ≠ []) {f : Text × Text → Option α} {a b : Text}
    (ht : t = a ++ b) (hb : p <+: b)
    (hunique : ∀ a' b', t = a' ++ b' → p <+: b' → a' = a) :
    (occurrences p t).findSome? f = f (a, b) := by
  have hplace : ∀ a' b', t = a' ++ b' → p <+: b' → (a', b') = (a, b) := by
    intro a' b' ht' hb'
    obtain rfl := hunique a' b' ht' hb'
    rw [List.append_cancel_left (ht'.symm.trans ht)]
  cases hf : f (a, b) with
  | some y =>
    refine (findSome?_occurrences_eq_some_iff hp).2 ⟨a, b, ht, hb, hf, ?_⟩
    intro a' b' ht' hb' hlt
    rw [hunique a' b' ht' hb'] at hlt
    exact absurd hlt (Nat.lt_irrefl _)
  | none =>
    cases hfound : (occurrences p t).findSome? f with
    | none => rfl
    | some y =>
      obtain ⟨a', b', ht', hb', hf', -⟩ := (findSome?_occurrences_eq_some_iff hp).1 hfound
      rw [hplace a' b' ht' hb', hf] at hf'
      cases hf'

/-! ## One place -/

/-- A word that is not in `c` begins nowhere but behind `c ++ o`, if the character that it
begins with stands neither in `o` nor further on, and `o` begins with a character that
is not in the word. -/
theorem eq_of_begins_with {x y : Char} {w c o s a b : Text} (hc : ¬ (x :: w) <:+: c)
    (hy : y ∉ x :: w) (ho : x ∉ o) (hs : x ∉ w ++ s)
    (h : c ++ (y :: o) ++ (x :: w) ++ s = a ++ b) (hb : (x :: w) <+: b) : a = c ++ (y :: o) := by
  have hx : x ∈ b := hb.subset List.mem_cons_self
  obtain ⟨v, rfl⟩ := hb
  simp only [List.append_assoc] at h
  rcases List.append_eq_append_iff.1 h with ⟨k, rfl, hk⟩ | ⟨k, rfl, hk⟩
  · -- the word begins behind `c`
    rcases List.append_eq_append_iff.1 hk with ⟨j, rfl, hj⟩ | ⟨j, hoj, hj⟩
    · cases j with
      | nil => rw [List.append_nil]
      | cons d j =>
        have hin : x ∈ w ++ s := by
          have hws : w ++ s = j ++ (x :: w ++ v) := (List.cons.inj hj).2
          rw [hws]
          simp
        exact absurd hin hs
    · cases j with
      | nil => rw [hoj, List.append_nil]
      | cons d j =>
        obtain rfl : x = d := (List.cons.inj (hj : x :: (w ++ v) = d :: (j ++ _))).1
        have hin : x ∈ y :: o := by
          rw [hoj]
          simp
        rcases List.mem_cons.1 hin with rfl | hin
        · exact absurd List.mem_cons_self hy
        · exact absurd hin ho
  · -- the word begins in `c`, so it ends there, or `y` is a character of it
    cases k with
    | nil =>
      obtain rfl : x = y := (List.cons.inj (hk : x :: (w ++ v) = y :: (o ++ _))).1
      exact absurd List.mem_cons_self hy
    | cons d k =>
      rcases List.append_eq_append_iff.1 hk with ⟨j, hj, -⟩ | ⟨j, hj, hyj⟩
      · exact absurd ⟨a, j, by rw [hj, List.append_assoc]⟩ hc
      · cases j with
        | nil => exact absurd ⟨a, [], by rw [hj]; simp⟩ hc
        | cons e j =>
          obtain rfl : y = e := (List.cons.inj (hyj : y :: (o ++ _) = e :: (j ++ v))).1
          exact absurd (by rw [hj]; simp) hy

/-! ## The first place -/

theorem dropPrefix?_append {u r : Text} (h : dropPrefix? p t = some r) :
    dropPrefix? p (t ++ u) = some (r ++ u) := by
  rw [dropPrefix?_eq_some] at h ⊢
  rw [h, List.append_assoc]

theorem split?_cons_of_elsewhere {c : Char} (h : ¬ p <+: c :: t) :
    split? p (c :: t) = (split? p t).map fun q => (c :: q.1, q.2) := by
  cases hdrop : dropPrefix? p (c :: t) with
  | none => rw [split?, hdrop]
  | some r => exact absurd ⟨r, (dropPrefix?_eq_some.1 hdrop).symm⟩ h

theorem split?_self (p r : Text) : split? p (p ++ r) = some ([], r) := by
  cases p with
  | nil => cases r <;> rfl
  | cons c p => rw [List.cons_append, split?, ← List.cons_append, dropPrefix?_eq_some.2 rfl]

/-- Where a word is found first does not depend on what follows it. -/
theorem split?_behind {a b : Text} (h : split? p t = some (a, b)) (u : Text) :
    split? p (a ++ p ++ u) = some (a, u) := by
  induction t generalizing a with
  | nil =>
    simp only [split?] at h
    split at h
    · next hp =>
      cases h
      rw [List.isEmpty_iff.1 hp]
      exact split?_self [] u
    · cases h
  | cons c r ih =>
    by_cases hp : p <+: c :: r
    · obtain ⟨after, hafter⟩ := hp
      rw [← hafter, split?_self] at h
      cases h
      exact split?_self p u
    · rw [split?_cons_of_elsewhere hp] at h
      obtain ⟨⟨a', b'⟩, hr, he⟩ := Option.map_eq_some_iff.1 h
      cases he
      -- the word is found further on, so here it would not reach over the end of that place
      have hp' : ¬ p <+: c :: (a' ++ p ++ u) := by
        intro hq
        have hshort : p <+: c :: (a' ++ p) := by
          refine List.prefix_of_prefix_length_le hq (List.prefix_append (c :: (a' ++ p)) u) ?_
          simp only [List.length_cons, List.length_append]
          omega
        refine hp (hshort.trans ?_)
        rw [split?_eq_some hr]
        exact List.prefix_append (c :: (a' ++ p)) b'
      rw [List.cons_append, List.cons_append, split?_cons_of_elsewhere hp', ih hr]
      rfl

/-- A word that a text holds first stands there, whatever follows the text. -/
theorem split?_append {a b : Text} (h : split? p t = some (a, b)) (u : Text) :
    split? p (t ++ u) = some (a, b ++ u) := by
  rw [split?_eq_some h, List.append_assoc]
  exact split?_behind h (b ++ u)

/-- What holds no character that a word begins with does not hold the word. -/
theorem split?_append_of_not_mem {x : Char} {u : Text} (h : x ∉ u) (name t : Text) :
    split? (x :: name) (u ++ t) = (split? (x :: name) t).map fun q => (u ++ q.1, q.2) := by
  induction u with
  | nil => simp
  | cons c u ih =>
    rw [List.mem_cons, not_or] at h
    have hc : ¬ (x :: name) <+: c :: (u ++ t) := fun hp => h.1 (List.cons_prefix_cons.1 hp).1
    rw [List.cons_append, split?_cons_of_elsewhere hc, ih h.2, Option.map_map]
    rfl

/-- A character that is not in `a` is first found behind `a`. -/
theorem split?_singleton_append {x : Char} {a : Text} (h : x ∉ a) (b : Text) :
    split? [x] (a ++ x :: b) = some (a, b) := by
  have hself : split? [x] (x :: b) = some ([], b) := split?_self [x] b
  rw [split?_append_of_not_mem h, hself, Option.map_some, List.append_nil]

/-- A text is not split at a word if and only if it does not hold the word. -/
theorem split?_eq_none_iff : split? p t = none ↔ ¬ p <:+: t := by
  constructor
  · rintro h ⟨a, b, rfl⟩
    induction a with
    | nil =>
      rw [List.nil_append, split?_self] at h
      cases h
    | cons d a ih =>
      by_cases hp : p <+: d :: (a ++ p ++ b)
      · obtain ⟨after, hafter⟩ := hp
        rw [List.cons_append, List.cons_append, ← hafter, split?_self] at h
        cases h
      · rw [List.cons_append, List.cons_append, split?_cons_of_elsewhere hp,
          Option.map_eq_none_iff] at h
        exact ih h
  · intro h
    cases hsplit : split? p t with
    | none => rfl
    | some q => exact absurd ⟨q.1, q.2, (split?_eq_some hsplit).symm⟩ h

/-- A text is split at the first place at which the word stands. -/
theorem split?_eq_some_iff {a b : Text} :
    split? p t = some (a, b) ↔
      t = a ++ p ++ b ∧ ∀ a' b', t = a' ++ p ++ b' → a.length ≤ a'.length := by
  have hfirst : ∀ {t a b}, split? p t = some (a, b) →
      ∀ a' b', t = a' ++ p ++ b' → a.length ≤ a'.length := by
    intro t a b h a' b' ht
    induction t generalizing a a' with
    | nil =>
      have hpieces := congrArg List.length (split?_eq_some h)
      simp only [List.length_nil, List.length_append] at hpieces
      omega
    | cons c r ih =>
      by_cases hp : p <+: c :: r
      · obtain ⟨after, hafter⟩ := hp
        rw [← hafter, split?_self] at h
        cases h
        exact Nat.zero_le _
      · rw [split?_cons_of_elsewhere hp] at h
        obtain ⟨⟨a₁, b₁⟩, hr, heq⟩ := Option.map_eq_some_iff.1 h
        cases heq
        cases a' with
        | nil => exact absurd ⟨b', ht.symm⟩ hp
        | cons d a' => exact Nat.succ_le_succ (ih hr a' (List.cons.inj ht).2)
  refine ⟨fun h => ⟨split?_eq_some h, hfirst h⟩, fun ⟨ht, hmin⟩ => ?_⟩
  cases hsplit : split? p t with
  | none => exact absurd ⟨a, b, ht.symm⟩ (split?_eq_none_iff.1 hsplit)
  | some q =>
    obtain ⟨a', b'⟩ := q
    have ht' := split?_eq_some hsplit
    have hlength := Nat.le_antisymm (hmin a' b' ht') (hfirst hsplit a b ht)
    rw [ht, List.append_assoc, List.append_assoc] at ht'
    obtain ⟨rfl, hrest⟩ := List.append_inj ht' hlength
    rw [List.append_cancel_left hrest]

/-! ## Pieces -/

theorem splitOn_append (sep : Char) (a b : Text) :
    splitOn sep (a ++ sep :: b) = splitOn sep a ++ splitOn sep b := by
  induction a with
  | nil => simp [splitOn]
  | cons c a ih =>
    rw [List.cons_append, splitOn, splitOn, ih]
    by_cases hc : c = sep
    · rw [if_pos hc, if_pos hc, List.cons_append]
    · rw [if_neg hc, if_neg hc]
      cases hpieces : splitOn sep a with
      | nil => exact absurd hpieces (splitOn_ne_nil sep a)
      | cons q qs => rfl

theorem splitOn_of_not_mem {sep : Char} (h : sep ∉ t) : splitOn sep t = [t] := by
  induction t with
  | nil => rfl
  | cons c t ih =>
    rw [List.mem_cons, not_or] at h
    rw [splitOn, if_neg (Ne.symm h.1), ih h.2]

end Text

end PageHighlight
