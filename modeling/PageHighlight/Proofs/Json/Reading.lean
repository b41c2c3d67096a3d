/-
  Proofs/Json/Reading.lean --- every way of writing a value is read as the value.

  WHAT THIS FILE IS FOR.  `Written` says which texts write a value, and mentions no reader.
  A reader `Reads` a value if it takes every such text off the front, whatever blanks stand
  before it and whatever follows it, so far as that does not continue a number.  In this
  form the readers compose: lists are read if their items are, and records if the values of
  their members are, in whatever order the members come and whichever are missing.

  FUEL.  The readers of lists and records count down from the length of the text, and there
  are not more items than characters but for one (`Separated.length_le`).
-/
import Mathlib.Data.List.Forall2
import PageHighlight.Proofs.Json.Written
import PageHighlight.Proofs.Text.Bytes

set_option autoImplicit false

namespace PageHighlight

namespace Json

/-! ## Blanks -/

theorem skipSpace_append {u : Text} (hu : AllSpace u) (t : Text) :
    skipSpace (u ++ t) = skipSpace t := List.dropWhile_append_of_pos hu

theorem skipSpace_cons {c : Char} (hc : isSpace c = false) (t : Text) :
    skipSpace (c :: t) = c :: t := List.dropWhile_cons_of_neg (by rw [hc]; decide)

theorem isSpace_cases {c : Char} (h : isSpace c = true) :
    c = ' ' ∨ c = '\n' ∨ c = '\t' ∨ c = '\r' := by
  simpa [isSpace, or_assoc] using h

/-- What stands behind a value does not continue a number. -/
def Ends (rest : Text) : Prop :=
  ∀ c ∈ rest.head?, isDigit c = false ∧ c ≠ '.' ∧ c ≠ 'e' ∧ c ≠ 'E'

theorem ends_nil : Ends [] := fun _ h => nomatch h

theorem ends_append {u rest : Text} (hu : AllSpace u) (hrest : Ends rest) : Ends (u ++ rest) := by
  cases u with
  | nil => exact hrest
  | cons c u =>
    intro d hd
    obtain rfl := Option.some.inj hd
    rcases isSpace_cases (hu c List.mem_cons_self) with rfl | rfl | rfl | rfl <;> decide

theorem ends_cons {c : Char} (hc : isDigit c = false ∧ c ≠ '.' ∧ c ≠ 'e' ∧ c ≠ 'E') (t : Text) :
    Ends (c :: t) := fun _ hd => Option.some.inj hd ▸ hc

/-! ## Texts -/

theorem IsHex4.readHex4_append {digits : Text} {n : Nat} (h : IsHex4 digits n) (t : Text) :
    readHex4 (digits ++ t) = .ok (n, t) := by
  obtain ⟨hlength, hvalue⟩ := h
  have hsize := Text.length_le_byteLength digits
  have hdigits : Text.digitsValue? 16 0 digits = some n := by
    obtain ⟨-, ds, hds, rfl⟩ := hvalue
    exact Text.digitsValue?_eq_some_iff.2 ⟨ds, hds, Text.foldl_digits_eq 16 ds⟩
  rw [readHex4, List.take_left' hlength, List.drop_left' hlength, hdigits,
    if_neg (by omega)]
  simp only
  rw [if_neg (by rw [List.length_append]; omega)]

/-- The numbers of characters are no surrogates. -/
theorem readCodePoint_number {c : Char} {digits : Text} (h : IsHex4 digits c.toNat) (t : Text) :
    readCodePoint (digits ++ t) = .ok (c, t) := by
  have hvalid : c.toNat < 0xD800 ∨ (0xDFFF < c.toNat ∧ c.toNat < 0x110000) := c.valid
  unfold readCodePoint
  rw [h.readHex4_append]
  simp only [bind, Except.bind]
  rw [if_neg (by omega), if_neg (by omega), Char.ofNat_toNat]

theorem readCodePoint_surrogates {c : Char} {high low : Nat} {digits digits' : Text}
    (hhigh : high < 0x400) (hlow : low < 0x400) (h : IsHex4 digits (0xD800 + high))
    (h' : IsHex4 digits' (0xDC00 + low)) (hc : c.toNat = 0x10000 + high * 0x400 + low)
    (t : Text) :
    readCodePoint (digits ++ '\\' :: 'u' :: (digits' ++ t)) = .ok (c, t) := by
  unfold readCodePoint
  rw [h.readHex4_append]
  simp only [bind, Except.bind]
  rw [if_neg (by omega), if_pos (by omega), h'.readHex4_append]
  simp only
  rw [if_pos (by omega)]
  have hvalue : 0x10000 + (0xD800 + high - 0xD800) * 0x400 + (0xDC00 + low - 0xDC00) = c.toNat := by
    omega
  rw [hvalue, Char.ofNat_toNat]

theorem readEscape_letter {c letter : Char} (h : (letter, c) ∈ simpleEscapes) (t : Text) :
    readEscape (letter :: t) = .ok (c, t) := by
  have hfind : ∀ p ∈ simpleEscapes, simpleEscapes.find? (·.1 = p.1) = some p := by decide
  rw [readEscape, hfind _ h]

/-- Each way of writing a character is read as the character. -/
theorem Spells.readChars_append {c : Char} {u : Text} (h : Spells c u) (n : Nat) (t : Text) :
    readChars readEscape (n + 1) (u ++ t) =
      (readChars readEscape n t).map fun p => (c :: p.1, p.2) := by
  have hescape : ∀ {v}, readEscape (v ++ t) = .ok (c, t) →
      readChars readEscape (n + 1) ('\\' :: (v ++ t)) =
        (readChars readEscape n t).map fun p => (c :: p.1, p.2) := by
    intro v hv
    rw [readChars, if_neg (by decide), if_pos rfl, hv]
    rfl
  cases h with
  | itself printable quote backslash =>
    rw [List.singleton_append, readChars, if_neg quote, if_neg backslash,
      if_neg (Nat.not_lt.2 printable)]
    rfl
  | letter known => exact hescape (v := [_]) (readEscape_letter known t)
  | @number digits digits_eq =>
    exact hescape (v := 'u' :: digits) (readCodePoint_number digits_eq t)
  | @surrogates high low digits digits' high_lt low_lt high_eq low_eq value =>
    have hread := readCodePoint_surrogates high_lt low_lt high_eq low_eq value t
    have h := hescape (v := 'u' :: digits ++ '\\' :: 'u' :: digits')
    simp only [List.append_assoc, List.cons_append] at h ⊢
    exact h hread

theorem Spells.ne_nil {c : Char} {u : Text} (h : Spells c u) : u ≠ [] := by
  cases h <;> exact List.cons_ne_nil _ _

theorem SpellsAll.length_le {t u : Text} (h : SpellsAll t u) : t.length ≤ u.length := by
  induction h with
  | nil => exact Nat.le_refl 0
  | cons head tail ih =>
    have hhead := List.length_pos_iff.2 head.ne_nil
    rw [List.length_cons, List.length_append]
    omega

theorem SpellsAll.readChars_append {t u : Text} (h : SpellsAll t u) (rest : Text) :
    ∀ n, t.length < n → readChars readEscape n (u ++ '\x22' :: rest) = .ok (t, rest) := by
  induction h with
  | nil =>
    rintro (_ | n) hn
    · exact absurd hn (Nat.not_lt_zero _)
    · rfl
  | cons head tail ih =>
    rintro (_ | n) hn
    · exact absurd hn (Nat.not_lt_zero _)
    · rw [List.append_assoc, head.readChars_append, ih n (Nat.lt_of_succ_lt_succ hn)]
      rfl

/-- What stands between quotes is read up to the closing one. -/
theorem SpellsAll.readQuoted_append {t u : Text} (h : SpellsAll t u) (rest : Text) :
    readQuoted (u ++ '\x22' :: rest) = .ok (t, rest) := by
  refine h.readChars_append rest _ ?_
  have hlength := h.length_le
  rw [List.length_append]
  omega

/-! ## Numbers -/

theorem isDigit_of_mem_ofNat {n : Nat} {c : Char} (h : c ∈ Text.ofNat n) : isDigit c = true := by
  obtain ⟨hzero, hnine⟩ := Text.bounds_of_isDigit (Text.isDigit_of_mem_ofNat h)
  rw [isDigit, Bool.and_eq_true, decide_eq_true_eq, decide_eq_true_eq]
  exact ⟨hzero, hnine⟩

theorem ne_of_isDigit {c d : Char} (hc : isDigit c = true) (hd : isDigit d = false) : c ≠ d := by
  rintro rfl
  exact Bool.false_ne_true (hd.symm.trans hc)

theorem isSpace_of_isDigit {c : Char} (h : isDigit c = true) : isSpace c = false := by
  refine Bool.eq_false_iff.2 fun hspace => ?_
  rcases isSpace_cases hspace with heq | heq | heq | heq <;>
    exact ne_of_isDigit h (by decide) heq

/-- A number begins with a digit. -/
theorem exists_ofNat_eq_cons (n : Nat) : ∃ d ds, Text.ofNat n = d :: ds ∧ isDigit d = true := by
  obtain ⟨d, ds, hdigits⟩ := List.exists_cons_of_ne_nil (Text.ofNat_ne_nil n)
  exact ⟨d, ds, hdigits, isDigit_of_mem_ofNat (n := n) (hdigits ▸ List.mem_cons_self)⟩

theorem readWhole_ofNat (n : Nat) {rest : Text} (hrest : Ends rest) :
    readWhole (Text.ofNat n ++ rest) = .ok (Text.ofNat n, rest) := by
  have hall : ∀ c ∈ Text.ofNat n, isDigit c = true := fun _ => isDigit_of_mem_ofNat
  have hstop : rest.takeWhile isDigit = [] ∧ rest.dropWhile isDigit = rest := by
    cases rest with
    | nil => exact ⟨rfl, rfl⟩
    | cons c rest =>
      have hc := ne_true_of_eq_false (hrest c rfl).1
      exact ⟨List.takeWhile_cons_of_neg hc, List.dropWhile_cons_of_neg hc⟩
  have htake : (Text.ofNat n ++ rest).takeWhile isDigit = Text.ofNat n := by
    rw [List.takeWhile_append_of_pos hall, hstop.1, List.append_nil]
  have hdrop : (Text.ofNat n ++ rest).dropWhile isDigit = rest := by
    rw [List.dropWhile_append_of_pos hall, hstop.2]
  have hdigits : readDigits (Text.ofNat n ++ rest) = .ok (Text.ofNat n, rest) := by
    obtain ⟨d, ds, hcons, hd⟩ := exists_ofNat_eq_cons n
    rw [hcons] at htake hdrop ⊢
    rw [List.cons_append, readDigits, if_pos hd, ← List.cons_append, htake, hdrop]
  unfold readWhole
  rw [hdigits]
  simp only [bind, Except.bind]
  split
  · next hzero => exact absurd (Text.ofNat_eq_zero_cons hzero) (List.cons_ne_nil _ _)
  · rfl

/-- A number of sixty-four bits has twenty digits at the most. -/
theorem not_tooLarge_ofNat {n : Nat} (h : n < Text.wordLimit) :
    tooLarge (Text.ofNat n) 0 = false := by
  have hlength : (Text.ofNat n).length ≤ 20 :=
    Nat.toDigits_length 10 n 20 (by decide) (Nat.lt_trans h (by decide))
  have hdropped := (List.dropWhile_sublist (· = '0') (l := Text.ofNat n)).length_le
  unfold tooLarge
  simp only
  split
  · rfl
  · rw [if_neg (by omega), if_pos (by omega)]

theorem readNumber_ofNat {n : Nat} (h : n < Text.wordLimit) {rest : Text} (hrest : Ends rest) :
    readNumber (Text.ofNat n ++ rest) = .ok (some n, rest) := by
  have hwhole := readWhole_ofNat n hrest
  have hvalue : (Text.digitsValue? 10 0 (Text.ofNat n)).filter (· < Text.wordLimit) = some n := by
    rw [Text.digitsValue?_ofNat, Option.filter_some, if_pos (decide_eq_true h)]
  have hlarge := not_tooLarge_ofNat h
  obtain ⟨d, ds, hdigits, hd⟩ := exists_ofNat_eq_cons n
  have hminus : d ≠ '-' := ne_of_isDigit hd (by decide)
  rw [hdigits] at hwhole hvalue hlarge ⊢
  -- neither a sign in front nor anything behind belongs to the number
  cases rest with
  | nil =>
    rw [List.append_nil] at hwhole ⊢
    simp [readNumber, hminus, hwhole, bind, Except.bind, hlarge, hvalue]
  | cons c rest =>
    obtain ⟨-, hpoint, hsmall, hcapital⟩ := hrest c rfl
    rw [List.cons_append] at hwhole ⊢
    simp [readNumber, hminus, hwhole, bind, Except.bind, hpoint, hsmall, hcapital, hlarge, hvalue]

/-! ## Values -/

/-- A value is read from every text that writes it, with blanks before it and anything behind
it that does not continue a number. -/
def Reads {α : Type} (read : Reader α) (j : Json) (x : α) : Prop :=
  ∀ ⦃u v rest : Text⦄, AllSpace u → Written j v → Ends rest → read (u ++ v ++ rest) = .ok (x, rest)

theorem Reads.map {α β : Type} {read : Reader α} {j : Json} {x : α} (h : Reads read j x)
    (f : α → β) : Reads (fun t => (read t).map fun (x, t) => (f x, t)) j (f x) := by
  intro u v rest hu hv hrest
  simp only
  rw [h hu hv hrest]
  rfl

theorem reads_readText (t : Text) : Reads readText (.text t) t := by
  intro u v rest hu hv hrest
  cases hv with
  | @text _ v spelt =>
    have hstart : u ++ ('\x22' :: v ++ ['\x22']) ++ rest = u ++ '\x22' :: (v ++ '\x22' :: rest) := by
      simp
    rw [readText, hstart, skipSpace_append hu, skipSpace_cons rfl]
    exact spelt.readQuoted_append rest

theorem reads_readNat {limit n : Nat} (hlimit : n < limit) (hfits : n < Text.wordLimit) :
    Reads (readNat limit) (.number n) n := by
  intro u v rest hu hv hrest
  cases hv with
  | number =>
    have hread := readNumber_ofNat hfits hrest
    obtain ⟨d, ds, hdigits, hd⟩ := exists_ofNat_eq_cons n
    rw [hdigits] at hread ⊢
    rw [readNat, List.append_assoc, skipSpace_append hu, List.cons_append,
      skipSpace_cons (isSpace_of_isDigit hd)]
    simp only
    rw [if_pos (.inr hd), ← List.cons_append, hread]
    simp only [bind, Except.bind]
    rw [Option.filter_some, if_pos (decide_eq_true hlimit)]

/-- A value begins with a character that neither is a blank nor ends a list. -/
theorem Written.exists_eq_cons {j : Json} {v : Text} (h : Written j v) :
    ∃ c w, v = c :: w ∧ isSpace c = false ∧ c ≠ ']' := by
  cases h with
  | text spelt => exact ⟨'\x22', _, rfl, rfl, by decide⟩
  | number n =>
    obtain ⟨d, ds, hdigits, hd⟩ := exists_ofNat_eq_cons n
    exact ⟨d, ds, hdigits, isSpace_of_isDigit hd, ne_of_isDigit hd (by decide)⟩
  | array written => exact ⟨'[', _, rfl, rfl, by decide⟩
  | object written => exact ⟨'\x7b', _, rfl, rfl, by decide⟩

/-! ## Lists -/

section

variable {α : Type} {P : α → Text → Prop} {xs : List α} {u : Text}

/-- There are not more things than commas and one. -/
theorem Separated.length_le (h : Separated P xs u) : xs.length ≤ u.length + 1 := by
  induction h with
  | nil space => exact Nat.zero_le _
  | one before item behind => exact Nat.succ_le_succ (Nat.zero_le _)
  | cons before item behind more others ih =>
    simp only [List.length_append, List.length_cons]
    omega

/-- Beyond the blanks, things that are written one behind the other begin as the first of them
does. -/
theorem Separated.skipSpace_append {Q : Char → Prop}
    (hP : ∀ {x v}, P x v → ∃ c w, v = c :: w ∧ isSpace c = false ∧ Q c)
    (h : Separated P xs u) (hne : xs ≠ []) (rest : Text) :
    ∃ c t, skipSpace (u ++ rest) = c :: t ∧ Q c := by
  cases h with
  | nil space => exact absurd rfl hne
  | @one x u v w' before item behind =>
    obtain ⟨c, w, rfl, hspace, hc⟩ := hP item
    refine ⟨c, w ++ (w' ++ rest), ?_, hc⟩
    simp only [List.append_assoc, List.cons_append]
    rw [Json.skipSpace_append before, skipSpace_cons hspace]
  | @cons x xs u v w' t before item behind more others =>
    obtain ⟨c, w, rfl, hspace, hc⟩ := hP item
    refine ⟨c, w ++ (w' ++ ',' :: (t ++ rest)), ?_, hc⟩
    simp only [List.append_assoc, List.cons_append]
    rw [Json.skipSpace_append before, skipSpace_cons hspace]

end

theorem Written.skipSpace_append {j : Json} {u v : Text} (hu : AllSpace u) (hv : Written j v)
    (t : Text) : skipSpace (u ++ (v ++ t)) = v ++ t := by
  obtain ⟨c, w, rfl, hspace, -⟩ := hv.exists_eq_cons
  rw [Json.skipSpace_append hu, List.cons_append, skipSpace_cons hspace]

section

variable {α : Type} {item : Reader α} {n : Nat} {isFirst : Bool} {t t' w rest : Text} {x : α}

theorem endList_append (hw : AllSpace w) : endList (w ++ ']' :: rest) = .ok rest := by
  rw [endList, skipSpace_append hw, skipSpace_cons rfl]
  rfl

theorem readItems_end (hw : AllSpace w) :
    readItems item (n + 1) isFirst (w ++ ']' :: rest) = .ok ([], w ++ ']' :: rest) := by
  rw [readItems, nextItem, skipSpace_append hw, skipSpace_cons rfl]
  rfl

theorem readItems_more (hnext : nextItem isFirst t = .ok (some t'))
    (hitem : item t' = .ok (x, rest)) :
    readItems item (n + 1) isFirst t =
      (readItems item n false rest).map fun p => (x :: p.1, p.2) := by
  rw [readItems, hnext]
  simp only [bind, Except.bind]
  rw [hitem]
  rfl

/-- A comma leads to the first of the other items. -/
theorem nextItem_comma {js : List Json} (hw : AllSpace w) (h : Separated Written js t)
    (hne : js ≠ []) :
    nextItem false (w ++ ',' :: (t ++ rest)) = .ok (some (skipSpace (t ++ rest))) := by
  obtain ⟨c, u, hstart, hbracket⟩ := h.skipSpace_append Written.exists_eq_cons hne rest
  rw [nextItem, skipSpace_append hw, skipSpace_cons rfl]
  simp [hstart, hbracket]

/-- The reader stands before the first of the items that are left, and stops before the bracket
and the blanks in front of it. -/
theorem readItems_append {js : List Json} {u : Text} (h : Separated Written js u) {xs : List α}
    (hxs : List.Forall₂ (Reads item) js xs) (hne : js ≠ []) (hn : js.length < n)
    (hnext : nextItem isFirst t = .ok (some (skipSpace (u ++ ']' :: rest)))) :
    ∃ w, AllSpace w ∧ readItems item n isFirst t = .ok (xs, w ++ ']' :: rest) := by
  induction h generalizing n isFirst t xs with
  | nil space => exact absurd rfl hne
  | @one j u v w before written behind =>
    obtain ⟨n, rfl⟩ : ∃ k, n = k + 2 := ⟨n - 2, by rw [List.length_singleton] at hn; omega⟩
    cases hxs with
    | cons hx hnil =>
      cases hnil
      rw [List.append_assoc, List.append_assoc, written.skipSpace_append before] at hnext
      have hends := ends_append behind (ends_cons (c := ']') (by decide) rest)
      have hitem := hx allSpace_nil written hends
      refine ⟨w, behind, ?_⟩
      rw [readItems_more hnext hitem, readItems_end behind]
      rfl
  | @cons j js u v w u' before written behind more others ih =>
    obtain ⟨n, rfl⟩ : ∃ k, n = k + 1 := ⟨n - 1, by omega⟩
    cases hxs with
    | cons hx hxs =>
      simp only [List.append_assoc, List.cons_append] at hnext
      rw [written.skipSpace_append before] at hnext
      have hends := ends_append behind (ends_cons (c := ',') (by decide) (u' ++ ']' :: rest))
      have hitem := hx allSpace_nil written hends
      obtain ⟨w', hw', hread⟩ := ih hxs more (Nat.lt_of_succ_lt_succ hn)
        (nextItem_comma behind others more)
      refine ⟨w', hw', ?_⟩
      rw [readItems_more hnext hitem, hread]
      rfl

theorem reads_readList {js : List Json} {xs : List α} (hxs : List.Forall₂ (Reads item) js xs) :
    Reads (readList item) (.array js) xs := by
  intro u v rest hu hv hrest
  cases hv with
  | @array _ v written =>
    have hstart : u ++ ('[' :: v ++ [']']) ++ rest = u ++ '[' :: (v ++ ']' :: rest) := by
      simp
    have hitems : ∃ w, AllSpace w ∧ readItems item ((v ++ ']' :: rest).length + 1) true
        (v ++ ']' :: rest) = .ok (xs, w ++ ']' :: rest) := by
      rcases eq_or_ne js [] with rfl | hne
      · cases written with
        | nil space =>
          cases hxs
          exact ⟨v, space, readItems_end space⟩
      · obtain ⟨c, t, hstart, hbracket⟩ :=
          written.skipSpace_append Written.exists_eq_cons hne (']' :: rest)
        refine readItems_append written hxs hne ?_ ?_
        · have hlength := written.length_le
          rw [List.length_append, List.length_cons]
          omega
        · simp [nextItem, hstart]
    obtain ⟨w, hw, hread⟩ := hitems
    rw [readList, hstart, skipSpace_append hu, skipSpace_cons rfl]
    simp only [bind, Except.bind]
    rw [hread]
    simp only
    rw [endList_append hw]

end

/-! ## Records -/

section

variable {σ : Type} {fields : List (Field σ)} {n : Nat} {isFirst : Bool} {seen : List Text}
  {s : σ} {t t' v w rest : Text}

/-- A member of an object is the value of a field, and goes into a record by `put`. -/
def Takes (fields : List (Field σ)) (m : Text × Json) (put : σ → σ) : Prop :=
  ∃ f, fields.find? (·.name = m.1) = some f ∧ ∀ s, Reads (f.read s) m.2 (put s)

theorem WrittenMember.exists_eq_cons {m : Text × Json} (h : WrittenMember m v) :
    ∃ c w, v = c :: w ∧ isSpace c = false ∧ c = '\x22' := by
  cases h
  exact ⟨_, _, rfl, rfl, rfl⟩

theorem readColon_append (hw : AllSpace w) : readColon (w ++ ':' :: rest) = .ok rest := by
  rw [readColon, skipSpace_append hw, skipSpace_cons rfl]
  rfl

theorem endObject_append (hw : AllSpace w) : endObject (w ++ '\x7d' :: rest) = .ok rest := by
  rw [endObject, skipSpace_append hw, skipSpace_cons rfl]
  rfl

theorem readMembers_end (hw : AllSpace w) :
    readMembers fields (n + 1) isFirst seen s (w ++ '\x7d' :: rest) =
      .ok (s, w ++ '\x7d' :: rest) := by
  rw [readMembers, nextMember, skipSpace_append hw, skipSpace_cons rfl]
  rfl

theorem readMembers_more {m : Text × Json} {put : σ → σ} (h : WrittenMember m ('\x22' :: v))
    (htakes : Takes fields m put) (hseen : m.1 ∉ seen) (hrest : Ends rest)
    (hnext : nextMember isFirst t = .ok (some (v ++ rest))) :
    readMembers fields (n + 1) isFirst seen s t =
      readMembers fields n false (m.1 :: seen) (put s) rest := by
  obtain ⟨f, hfind, hput⟩ := htakes
  generalize hquote : '\x22' :: v = member at h
  cases h with
  | @mk name j u before' behind' x spelt before behind value =>
    simp only [List.cons_append, List.cons.injEq, true_and] at hquote
    subst hquote
    have hname := spelt.readQuoted_append (before' ++ ':' :: (behind' ++ x ++ rest))
    have hcolon : readColon (before' ++ ':' :: (behind' ++ x ++ rest)) = .ok (behind' ++ x ++ rest) :=
      readColon_append before
    have hvalue := hput s behind value hrest
    simp only [List.append_assoc, List.cons_append] at hnext hname hcolon hvalue
    rw [readMembers, hnext]
    simp only [bind, Except.bind]
    rw [hname]
    simp only [hfind]
    rw [if_neg (by simpa using hseen), hcolon]
    simp only
    rw [hvalue]

/-- A comma leads to the name of the first of the other members. -/
theorem nextMember_comma {ms : List (Text × Json)} (hw : AllSpace w)
    (h : Separated WrittenMember ms t) (hne : ms ≠ []) :
    nextMember false (w ++ ',' :: (t ++ rest)) = .ok (some (skipSpace (t ++ rest)).tail) := by
  obtain ⟨_, u, hstart, rfl⟩ := h.skipSpace_append WrittenMember.exists_eq_cons hne rest
  rw [nextMember, skipSpace_append hw, skipSpace_cons rfl]
  simp [hstart, bind, Except.bind]

/-- The reader stands behind the quote that opens the name of the first member that is left, and
stops before the brace and the blanks in front of it. -/
theorem readMembers_append {ms : List (Text × Json)} {u : Text}
    (h : Separated WrittenMember ms u) {put : Text → σ → σ}
    (htakes : ∀ m ∈ ms, Takes fields m (put m.1)) (hnodup : (ms.map Prod.fst).Nodup)
    (hseen : ∀ m ∈ ms, m.1 ∉ seen) (hne : ms ≠ []) (hn : ms.length < n)
    (hnext : nextMember isFirst t = .ok (some (skipSpace (u ++ '\x7d' :: rest)).tail)) :
    ∃ w, AllSpace w ∧ readMembers fields n isFirst seen s t =
      .ok ((ms.map Prod.fst).foldl (fun s name => put name s) s, w ++ '\x7d' :: rest) := by
  induction h generalizing n isFirst seen s t with
  | nil space => exact absurd rfl hne
  | @one m u v w before written behind =>
    obtain ⟨n, rfl⟩ : ∃ k, n = k + 2 := ⟨n - 2, by rw [List.length_singleton] at hn; omega⟩
    obtain ⟨-, v, rfl, -, rfl⟩ := written.exists_eq_cons
    simp only [List.append_assoc, List.cons_append] at hnext
    rw [skipSpace_append before, skipSpace_cons rfl] at hnext
    have hends := ends_append behind (ends_cons (c := '\x7d') (by decide) rest)
    refine ⟨w, behind, ?_⟩
    rw [readMembers_more written (htakes m List.mem_cons_self) (hseen m List.mem_cons_self) hends
      hnext, readMembers_end behind]
    rfl
  | @cons m ms u v w u' before written behind more others ih =>
    obtain ⟨n, rfl⟩ : ∃ k, n = k + 1 := ⟨n - 1, by omega⟩
    obtain ⟨-, v, rfl, -, rfl⟩ := written.exists_eq_cons
    simp only [List.append_assoc, List.cons_append] at hnext
    rw [skipSpace_append before, skipSpace_cons rfl] at hnext
    obtain ⟨hnew, hnodup⟩ := List.nodup_cons.1 hnodup
    have hseen' : ∀ k ∈ ms, k.1 ∉ m.1 :: seen := by
      intro k hk hmem
      rcases List.mem_cons.1 hmem with heq | hmem
      · exact hnew (heq ▸ List.mem_map_of_mem hk)
      · exact hseen k (List.mem_cons_of_mem _ hk) hmem
    obtain ⟨w', hw', hread⟩ := ih (fun k hk => htakes k (List.mem_cons_of_mem _ hk)) hnodup hseen'
      more (Nat.lt_of_succ_lt_succ hn) (nextMember_comma behind others more)
    have hends := ends_append behind (ends_cons (c := ',') (by decide) (u' ++ '\x7d' :: rest))
    refine ⟨w', hw', ?_⟩
    rw [readMembers_more written (htakes m List.mem_cons_self) (hseen m List.mem_cons_self) hends
      hnext, hread]
    rfl

/-- An object is read if each member is the value of a field and no name comes twice, in any
order of the members and whichever are missing. -/
theorem reads_readRecord {ms : List (Text × Json)} (put : Text → σ → σ)
    (htakes : ∀ m ∈ ms, Takes fields m (put m.1)) (hnodup : (ms.map Prod.fst).Nodup) (s : σ) :
    Reads (readRecord fields s) (.object ms)
      ((ms.map Prod.fst).foldl (fun s name => put name s) s) := by
  intro u v rest hu hv hrest
  cases hv with
  | @object _ v written =>
    have hstart : u ++ ('\x7b' :: v ++ ['\x7d']) ++ rest =
        u ++ '\x7b' :: (v ++ '\x7d' :: rest) := by
      simp
    have hmembers : ∃ w, AllSpace w ∧ readMembers fields ((v ++ '\x7d' :: rest).length + 1) true []
        s (v ++ '\x7d' :: rest) =
          .ok ((ms.map Prod.fst).foldl (fun s name => put name s) s, w ++ '\x7d' :: rest) := by
      rcases eq_or_ne ms [] with rfl | hne
      · cases written with
        | nil space => exact ⟨v, space, readMembers_end space⟩
      · obtain ⟨_, t, hstart, rfl⟩ :=
          written.skipSpace_append WrittenMember.exists_eq_cons hne ('\x7d' :: rest)
        refine readMembers_append written htakes hnodup (fun _ _ => List.not_mem_nil) hne ?_ ?_
        · have hlength := written.length_le
          rw [List.length_append, List.length_cons]
          omega
        · simp [nextMember, hstart, bind, Except.bind]
    obtain ⟨w, hw, hread⟩ := hmembers
    rw [readRecord, hstart, skipSpace_append hu, skipSpace_cons rfl]
    simp only [bind, Except.bind]
    rw [hread]
    simp only
    rw [endObject_append hw]

end

/-! ## Whole texts -/

theorem Reads.readWholeText {α : Type} {read : Reader α} {j : Json} {x : α} (h : Reads read j x)
    {u v w : Text} (hu : AllSpace u) (hv : Written j v) (hw : AllSpace w) :
    readWholeText read (u ++ v ++ w) = .ok x := by
  have hends := ends_append hw ends_nil
  rw [List.append_nil] at hends
  have hnil : skipSpace w = [] := List.dropWhile_eq_nil_iff.2 hw
  rw [Json.readWholeText, h hu hv hends]
  simp only [bind, Except.bind]
  rw [hnil]
  rfl

end Json

end PageHighlight
