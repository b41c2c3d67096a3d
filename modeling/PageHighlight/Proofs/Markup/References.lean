/-
  Proofs/Markup/References.lean --- which references a text holds, and what they are
  replaced by.

  WHAT THIS FILE IS FOR.  A reference is a `&`, a name or the number of a character, and a
  `;` that ends at most ten bytes behind the `&`.  `Replaced` says what it means that a
  text is another one with its references replaced, from left to right: a reference gives
  its character, and a character at which no reference begins stands for itself.  Decoding
  does just that (`replaced_iff_eq_decode`).

  SIGNS.  The reader of numbers takes a plus sign in front of the digits, so `&#+65;` is
  read as a reference, though HTML has no such one.  It is the only difference: a text is
  decoded as HTML says if and only if it holds no number with a sign
  (`replaced_decode_iff`).

  ESCAPED TEXTS.  Whoever replaces the references of HTML, and perhaps others, reads an
  escaped text as the text, and goes on behind it as if it were not there
  (`Replaced.escape_append`): no reference is read twice, and none that begins in the
  escaped text ends behind it.
-/
import PageHighlight.Proofs.Entity
import PageHighlight.Proofs.Text.Numeral
import PageHighlight.Proofs.Text.Occurrences

set_option autoImplicit false

namespace PageHighlight

namespace Entity

/-! ## References -/

/-- The references with a name. -/
inductive IsNamed : Text → Char → Prop where
  | amp : IsNamed "amp" '&'
  | lt : IsNamed "lt" '<'
  | gt : IsNamed "gt" '>'
  | quot : IsNamed "quot" '\x22'
  | apos : IsNamed "apos" '\x27'
  | nbsp : IsNamed "nbsp" '\u00A0'

/-- The references with the number of a character, and a sign in front of the number. -/
inductive IsNumbered (sign : Text) : Text → Char → Prop where
  | decimal {digits : Text} {c : Char} (number : digits.Denotes 10 c.toNat) :
      IsNumbered sign ('#' :: (sign ++ digits)) c
  | hexadecimal {x : Char} {digits : Text} {c : Char} (mark : x = 'x' ∨ x = 'X')
      (number : digits.Denotes 16 c.toNat) : IsNumbered sign ('#' :: x :: (sign ++ digits)) c

/-- What stands between the `&` and the `;` of a reference for this character. -/
def IsReference (body : Text) (c : Char) : Prop := IsNamed body c ∨ IsNumbered [] body c

/-- A number with a plus sign, which is no reference of HTML. -/
def IsSigned (body : Text) (c : Char) : Prop := IsNumbered ['+'] body c

/-- What is read as a reference. -/
def IsRead (body : Text) (c : Char) : Prop := IsReference body c ∨ IsSigned body c

variable {body t u v rest : Text} {c d : Char} {n : Nat}

theorem isNamed_iff : IsNamed body c ↔ (body, c) ∈ named := by
  constructor
  · intro h
    cases h <;> decide
  · intro h
    simp only [named, List.mem_cons, List.not_mem_nil, or_false, Prod.mk.injEq] at h
    rcases h with ⟨rfl, rfl⟩ | ⟨rfl, rfl⟩ | ⟨rfl, rfl⟩ | ⟨rfl, rfl⟩ | ⟨rfl, rfl⟩ | ⟨rfl, rfl⟩
    exacts [.amp, .lt, .gt, .quot, .apos, .nbsp]

theorem find?_named : (named.find? (·.1 = body)).map (·.2) = some c ↔ IsNamed body c := by
  rw [isNamed_iff]
  constructor
  · intro h
    obtain ⟨⟨name, d⟩, hfound, rfl⟩ := Option.map_eq_some_iff.1 h
    obtain rfl : name = body := by simpa using List.find?_some hfound
    exact List.mem_of_find?_eq_some hfound
  · intro h
    simp only [named, List.mem_cons, List.not_mem_nil, or_false, Prod.mk.injEq] at h
    rcases h with ⟨rfl, rfl⟩ | ⟨rfl, rfl⟩ | ⟨rfl, rfl⟩ | ⟨rfl, rfl⟩ | ⟨rfl, rfl⟩ | ⟨rfl, rfl⟩ <;>
      rfl

theorem ofCodePoint?_eq_some : ofCodePoint? n = some c ↔ c.toNat = n := by
  unfold ofCodePoint?
  constructor
  · intro h
    split at h
    · next hn =>
      cases h
      rw [Char.ofNat, dif_pos hn]
      rfl
    · cases h
  · rintro rfl
    have hvalid : c.toNat.isValidChar := c.valid
    rw [if_pos hvalid, Char.ofNat_toNat]

/-- The code points of characters lie below the limit of the reader. -/
theorem readNumeral?_toNat_iff {base : Nat} {digits : Text} :
    Text.readNumeral? base (Nat.pow 2 32) digits = some c.toNat ↔
      ∃ sign ds, (sign = [] ∨ sign = ['+']) ∧ digits = sign ++ ds ∧ ds.Denotes base c.toNat := by
  have hvalid : c.toNat.isValidChar := c.valid
  have hlimit : c.toNat < Nat.pow 2 32 := by
    have hpow : Nat.pow 2 32 = 4294967296 := rfl
    unfold Nat.isValidChar at hvalid
    omega
  rw [Text.readNumeral?_eq_some_iff, and_iff_right hlimit]

theorem codePoint?_bind_eq_some : (codePoint? body).bind ofCodePoint? = some c ↔
    codePoint? body = some c.toNat := by
  rw [Option.bind_eq_some_iff]
  simp only [ofCodePoint?_eq_some, exists_eq_right']

theorem codePoint?_decimal {digits : Text} (h : ∀ x ∈ digits.head?, x ≠ 'x' ∧ x ≠ 'X') :
    codePoint? ('#' :: digits) = Text.readNumeral? 10 (Nat.pow 2 32) digits := by
  unfold codePoint?
  split
  · next hbody => cases hbody; exact absurd rfl (h 'x' rfl).1
  · next hbody => cases hbody; exact absurd rfl (h 'X' rfl).2
  · next hbody => cases hbody; rfl
  · next hbody => exact absurd rfl (hbody _)

/-- A body is read as a number if and only if it is one, a plus sign in front apart. -/
theorem codePoint?_eq_some_iff : codePoint? body = some c.toNat ↔
    IsNumbered [] body c ∨ IsNumbered ['+'] body c := by
  constructor
  · intro h
    unfold codePoint? at h
    split at h
    · obtain ⟨sign, ds, rfl | rfl, rfl, hds⟩ := readNumeral?_toNat_iff.1 h
      · exact .inl (.hexadecimal (.inl rfl) hds)
      · exact .inr (.hexadecimal (.inl rfl) hds)
    · obtain ⟨sign, ds, rfl | rfl, rfl, hds⟩ := readNumeral?_toNat_iff.1 h
      · exact .inl (.hexadecimal (.inr rfl) hds)
      · exact .inr (.hexadecimal (.inr rfl) hds)
    · obtain ⟨sign, ds, rfl | rfl, rfl, hds⟩ := readNumeral?_toNat_iff.1 h
      · exact .inl (.decimal hds)
      · exact .inr (.decimal hds)
    · cases h
  · have hread : ∀ {sign}, (sign = [] ∨ sign = ['+']) → IsNumbered sign body c →
        codePoint? body = some c.toNat := by
      intro sign hsign h
      cases h with
      | @decimal digits _ number =>
        have hhead : ∀ x ∈ (sign ++ digits).head?, x ≠ 'x' ∧ x ≠ 'X' := by
          intro x hx
          have hdigit : x = '+' ∨ x.isDigit = true := by
            rcases hsign with rfl | rfl
            · exact .inr (number.forall_isDigit x (List.mem_of_mem_head? hx))
            · exact .inl (Option.some.inj hx).symm
          constructor
          all_goals
            rintro rfl
            exact absurd hdigit (by decide)
        rw [codePoint?_decimal hhead, readNumeral?_toNat_iff]
        exact ⟨sign, digits, hsign, rfl, number⟩
      | hexadecimal mark number =>
        rcases mark with rfl | rfl
        all_goals
          rw [codePoint?, readNumeral?_toNat_iff]
          exact ⟨sign, _, hsign, rfl, number⟩
    rintro (h | h)
    · exact hread (.inl rfl) h
    · exact hread (.inr rfl) h

/-- No name is a number. -/
theorem IsNamed.codePoint?_eq (h : IsNamed body c) : codePoint? body = none := by
  cases h <;> rfl

/-- A body stands for a character just if it is read as a reference for it. -/
theorem lookup?_eq_some_iff : lookup? body = some c ↔ IsRead body c := by
  rw [IsRead, IsReference, IsSigned, or_assoc, ← codePoint?_eq_some_iff,
    ← codePoint?_bind_eq_some, ← find?_named, lookup?]
  cases hfound : named.find? (·.1 = body) with
  | none => simp
  | some e =>
    have hname : IsNamed body e.2 := find?_named.1 (by rw [hfound]; rfl)
    simp [hname.codePoint?_eq]

/-! ## The characters of a reference -/

theorem IsNumbered.mem {sign : Text} (h : IsNumbered sign body c) {x : Char} (hx : x ∈ body) :
    x ∈ sign ∨ x ∈ "#xX0123456789abcdefABCDEF".toList := by
  have hdigits : ∀ {base n} {ds : Text}, ds.Denotes base n → x ∈ ds →
      x ∈ "#xX0123456789abcdefABCDEF".toList := by
    intro base n ds hds hx
    obtain ⟨d, hd⟩ := hds.isDigit hx
    exact List.mem_append_right "#xX".toList hd.mem
  cases h with
  | decimal number =>
    rcases List.mem_cons.1 hx with rfl | hx
    · exact .inr (by decide)
    · exact (List.mem_append.1 hx).imp_right (hdigits number)
  | hexadecimal mark number =>
    rcases List.mem_cons.1 hx with rfl | hx
    · exact .inr (by decide)
    · rcases List.mem_cons.1 hx with rfl | hx
      · exact .inr (by rcases mark with rfl | rfl <;> decide)
      · exact (List.mem_append.1 hx).imp_right (hdigits number)

/-- A reference of HTML holds no sign, and no character that begins or ends one. -/
theorem IsReference.ne (h : IsReference body c) {x : Char} (hx : x ∈ body) :
    x ≠ '+' ∧ x ≠ '&' ∧ x ≠ ';' := by
  rcases h with hname | hnumber
  · have hall : ∀ x ∈ body, x ≠ '+' ∧ x ≠ '&' ∧ x ≠ ';' := by
      cases hname <;> exact List.all_iff_forall_prop.1 (by decide)
    exact hall x hx
  · have hall : ∀ x ∈ "#xX0123456789abcdefABCDEF".toList, x ≠ '+' ∧ x ≠ '&' ∧ x ≠ ';' :=
      List.all_iff_forall_prop.1 (by decide)
    exact hall x ((hnumber.mem hx).resolve_left List.not_mem_nil)

theorem IsSigned.ne (h : IsSigned body c) {x : Char} (hx : x ∈ body) : x ≠ '&' ∧ x ≠ ';' := by
  have hall : ∀ x ∈ "+#xX0123456789abcdefABCDEF".toList, x ≠ '&' ∧ x ≠ ';' :=
    List.all_iff_forall_prop.1 (by decide)
  exact hall x (List.mem_append.2 (IsNumbered.mem h hx : x ∈ ['+'] ∨ _))

theorem IsRead.ne (h : IsRead body c) {x : Char} (hx : x ∈ body) : x ≠ '&' ∧ x ≠ ';' :=
  h.elim (fun h => (h.ne hx).2) fun h => h.ne hx

/-- A number with a sign is none without, nor a name. -/
theorem IsSigned.not_isReference (h : IsSigned body c) : ¬ IsReference body d := by
  have hplus : '+' ∈ body := by
    cases h <;> simp
  exact fun href => (href.ne hplus).1 rfl

/-! ## Replacing -/

variable {R : Text → Char → Prop}

/-- A reference begins here: its character, and what follows it. -/
def Begins (R : Text → Char → Prop) (t : Text) (c : Char) (rest : Text) : Prop :=
  ∃ body, t = '&' :: (body ++ ';' :: rest) ∧ Text.byteLength ('&' :: body) ≤ 10 ∧ R body c

/-- The second text is the first one with its references replaced from left to right. -/
inductive Replaced (R : Text → Char → Prop) : Text → Text → Prop where
  | nil : Replaced R [] []
  | reference {t u rest : Text} {c : Char} (begins : Begins R t c rest) (tail : Replaced R rest u) :
      Replaced R t (c :: u)
  /-- no reference begins here -/
  | other {t u : Text} {c : Char} (none : ∀ d rest, ¬ Begins R (c :: t) d rest)
      (tail : Replaced R t u) : Replaced R (c :: t) (c :: u)

/-- A number with a sign stands in a text as a reference would. -/
def HoldsSigned (t : Text) : Prop := ∃ a b c rest, t = a ++ b ∧ Begins IsSigned b c rest

theorem not_begins_of_ne (h : c ≠ '&') (t : Text) (d : Char) (rest : Text) :
    ¬ Begins R (c :: t) d rest := by
  rintro ⟨body, ht, -, -⟩
  exact h (List.cons.inj ht).1

theorem byteLength_amp (t : Text) : Text.byteLength ('&' :: t) = Text.byteLength t + 1 :=
  Nat.add_comm 1 (Text.byteLength t)

/-- What is read behind a `&` is a reference, and the text behind it follows. -/
theorem begins_of_reference? (h : reference? t = some (c, n)) :
    Begins IsRead ('&' :: t) c (t.drop n) := by
  unfold reference? at h
  split at h
  · next body after hsplit =>
    split at h
    · next hlength =>
      obtain ⟨d, hd, he⟩ := Option.map_eq_some_iff.1 h
      cases he
      have ht : t = body ++ ';' :: after := by
        rw [Text.split?_eq_some hsplit, List.append_assoc]
        rfl
      have hdrop : t.drop (body.length + 1) = after := by simp [ht]
      rw [hdrop, ht]
      exact ⟨body, rfl, byteLength_amp body ▸ hlength, lookup?_eq_some_iff.1 hd⟩
    · cases h
  · cases h

/-- The `;` of a reference is the next one. -/
theorem reference?_of_begins (h : Begins IsRead ('&' :: t) c rest) :
    ∃ n, reference? t = some (c, n) ∧ t.drop n = rest := by
  obtain ⟨body, ht, hlength, hbody⟩ := h
  obtain rfl : t = body ++ ';' :: rest := (List.cons.inj ht).2
  have hsplit : Text.split? ";".toList (body ++ ';' :: rest) = some (body, rest) :=
    Text.split?_singleton_append (fun hmem => (hbody.ne hmem).2 rfl) rest
  refine ⟨body.length + 1, ?_, by simp⟩
  rw [byteLength_amp] at hlength
  unfold reference?
  simp only [hsplit, if_pos hlength, lookup?_eq_some_iff.2 hbody, Option.map_some]

theorem decode_of_begins (h : Begins IsRead t c rest) : decode t = c :: decode rest := by
  obtain ⟨t, rfl⟩ : ∃ r, t = '&' :: r := by
    obtain ⟨body, rfl, -⟩ := h
    exact ⟨_, rfl⟩
  obtain ⟨n, hread, rfl⟩ := reference?_of_begins h
  rw [← decodeFrom_eq_decode_drop]
  simp only [decode, decodeFrom, if_true, hread]

theorem decode_of_not_begins (h : ∀ d rest, ¬ Begins IsRead (c :: t) d rest) :
    decode (c :: t) = c :: decode t := by
  by_cases hc : c = '&'
  · subst hc
    have hnone : reference? t = none := by
      refine Option.eq_none_iff_forall_ne_some.2 fun p hp => ?_
      exact h p.1 _ (begins_of_reference? hp)
    simp only [decode, decodeFrom, if_true, hnone]
  · simp only [decode, decodeFrom, if_neg hc]

/-! ## Decoding replaces -/

theorem length_of_begins (h : Begins R t c rest) : rest.length < t.length := by
  obtain ⟨body, rfl, -⟩ := h
  simp only [List.length_cons, List.length_append]
  omega

theorem replaced_decode (t : Text) : Replaced IsRead t (decode t) := by
  induction hn : t.length using Nat.strong_induction_on generalizing t with
  | _ n ih =>
    subst hn
    by_cases h : ∃ c rest, Begins IsRead t c rest
    · obtain ⟨c, rest, h⟩ := h
      rw [decode_of_begins h]
      exact .reference h (ih _ (length_of_begins h) rest rfl)
    · cases t with
      | nil => exact .nil
      | cons c t =>
        have hnone : ∀ d rest, ¬ Begins IsRead (c :: t) d rest := fun d rest hd => h ⟨d, rest, hd⟩
        rw [decode_of_not_begins hnone]
        exact .other hnone (ih _ (Nat.lt_succ_self _) t rfl)

/-- Decoding, and nothing else, replaces what is read as a reference. -/
theorem replaced_iff_eq_decode : Replaced IsRead t u ↔ u = decode t := by
  constructor
  · intro h
    induction h with
    | nil => rfl
    | reference begins _ ih => rw [decode_of_begins begins, ih]
    | other none _ ih => rw [decode_of_not_begins none, ih]
  · rintro rfl
    exact replaced_decode t

/-! ## Numbers with a sign -/

theorem Begins.mono {R' : Text → Char → Prop} (hR : ∀ body c, R body c → R' body c)
    (h : Begins R t c rest) : Begins R' t c rest := by
  obtain ⟨body, ht, hlength, hbody⟩ := h
  exact ⟨body, ht, hlength, hR body c hbody⟩

theorem HoldsSigned.append (h : HoldsSigned t) (a : Text) : HoldsSigned (a ++ t) := by
  obtain ⟨a', b, c, rest, rfl, hb⟩ := h
  exact ⟨a ++ a', b, c, rest, (List.append_assoc _ _ _).symm, hb⟩

theorem HoldsSigned.of_begins (h : Begins IsSigned t c rest) : HoldsSigned t :=
  ⟨[], t, c, rest, rfl, h⟩

/-- In a text without numbers with a sign, every reference is one of HTML. -/
theorem replaced_of_not_holdsSigned (h : Replaced IsRead t u) (hsigned : ¬ HoldsSigned t) :
    Replaced IsReference t u := by
  induction h with
  | nil => exact .nil
  | @reference t u rest c begins tail ih =>
    obtain ⟨body, rfl, hlength, hbody | hbody⟩ := begins
    · refine .reference ⟨body, rfl, hlength, hbody⟩ (ih fun hrest => hsigned ?_)
      have happend := hrest.append ('&' :: body ++ [';'])
      simpa using happend
    · exact absurd (HoldsSigned.of_begins ⟨body, rfl, hlength, hbody⟩) hsigned
  | @other t u c none tail ih =>
    refine .other (fun d rest hd => none d rest (hd.mono fun _ _ => .inl)) (ih fun ht => ?_)
    exact hsigned (ht.append [c])

/-- A number with a sign stands behind a reference of HTML, and not in it. -/
theorem HoldsSigned.of_begins_reference (hsigned : HoldsSigned t)
    (h : Begins IsReference t c rest) : HoldsSigned rest := by
  obtain ⟨body, rfl, -, hbody⟩ := h
  obtain ⟨a, b, d, rest', hab, body', rfl, hlength, hbody'⟩ := hsigned
  cases a with
  | nil =>
    have hsplit := Text.split?_singleton_append (fun hmem => (hbody'.ne hmem).2 rfl) rest'
    rw [← (List.cons.inj hab).2,
      Text.split?_singleton_append (fun hmem => (hbody.ne hmem).2.2 rfl) rest] at hsplit
    obtain rfl := (Prod.mk.inj (Option.some.inj hsplit)).1
    exact absurd hbody hbody'.not_isReference
  | cons x a =>
    rcases List.append_eq_append_iff.1 (List.cons.inj hab).2 with ⟨k, rfl, hk⟩ | ⟨k, rfl, hk⟩
    · cases k with
      | nil => exact absurd (List.cons.inj hk).1 (by decide)
      | cons y k =>
        obtain ⟨rfl, rfl⟩ := List.cons.inj hk
        exact ⟨k, _, d, rest', rfl, body', rfl, hlength, hbody'⟩
    · cases k with
      | nil => exact absurd (List.cons.inj hk).1 (by decide)
      | cons y k =>
        obtain rfl := (List.cons.inj hk).1
        exact absurd rfl (hbody.ne (List.mem_append_right a List.mem_cons_self)).2.1

theorem HoldsSigned.of_cons (h : HoldsSigned (c :: t))
    (hnone : ∀ d rest, ¬ Begins IsSigned (c :: t) d rest) : HoldsSigned t := by
  obtain ⟨a, b, d, rest, hab, hb⟩ := h
  cases a with
  | nil =>
    obtain rfl : c :: t = b := hab
    exact absurd hb (hnone d rest)
  | cons x a => exact ⟨a, b, d, rest, (List.cons.inj hab).2, hb⟩

theorem decode_append (h : '&' ∉ t) (u : Text) : decode (t ++ u) = t ++ decode u := by
  induction t with
  | nil => rfl
  | cons c t ih =>
    rw [List.mem_cons, not_or] at h
    rw [List.cons_append, decode_of_not_begins (not_begins_of_ne (Ne.symm h.1) _), ih h.2,
      List.cons_append]

/-- What HTML makes of a text is not shorter than what is decoded, and longer if the text
holds a number with a sign. -/
theorem length_decode_le (h : Replaced IsReference t v) :
    (decode t).length ≤ v.length ∧ (HoldsSigned t → (decode t).length < v.length) := by
  induction h with
  | nil =>
    refine ⟨Nat.le_refl _, ?_⟩
    rintro ⟨a, b, c, rest, hab, body, rfl, -⟩
    simp at hab
  | reference begins _ ih =>
    rw [decode_of_begins (begins.mono fun _ _ => .inl)]
    exact ⟨Nat.succ_le_succ ih.1,
      fun hsigned => Nat.succ_lt_succ (ih.2 (hsigned.of_begins_reference begins))⟩
  | @other t u c none _ ih =>
    by_cases hread : ∃ d rest, Begins IsRead (c :: t) d rest
    · -- HTML copies the number with its sign, of which decoding leaves one character
      obtain ⟨d, rest, body, ht, hlength, hbody⟩ := hread
      have hlonger : (decode t).length = body.length + 1 + (decode rest).length := by
        have hamp : '&' ∉ body ++ [';'] := by
          have hne : '&' ∉ body := fun hmem => (hbody.ne hmem).1 rfl
          simp [hne]
        have ht' : t = (body ++ [';']) ++ rest := by
          rw [(List.cons.inj ht).2, List.append_assoc, List.singleton_append]
        rw [ht', decode_append hamp]
        simp only [List.length_append, List.length_singleton]
      rw [decode_of_begins ⟨body, ht, hlength, hbody⟩]
      simp only [List.length_cons]
      omega
    · rw [decode_of_not_begins fun d rest hd => hread ⟨d, rest, hd⟩]
      have hnone : ∀ d rest, ¬ Begins IsSigned (c :: t) d rest :=
        fun d rest hd => hread ⟨d, rest, hd.mono fun _ _ => .inr⟩
      exact ⟨Nat.succ_le_succ ih.1,
        fun hsigned => Nat.succ_lt_succ (ih.2 (hsigned.of_cons hnone))⟩

/-- What decoding does to references.  It replaces, from left to right, everything that is
read as a reference and ends at most ten bytes behind its `&`, and copies every other
character, and it is the only text that this leads to; what is read are the references of
HTML and numbers with a plus sign.  So a text is decoded as HTML says if and only if it
holds no number with a sign. -/
theorem replaced_decode_iff (t : Text) :
    (∀ u, Replaced (fun body c => IsReference body c ∨ IsSigned body c) t u ↔ u = decode t) ∧
    (Replaced IsReference t (decode t) ↔ ¬ HoldsSigned t) := by
  refine ⟨fun u => replaced_iff_eq_decode, fun h hsigned => ?_, ?_⟩
  · exact Nat.lt_irrefl _ ((length_decode_le h).2 hsigned)
  · exact replaced_of_not_holdsSigned (replaced_decode t)

/-- A text without `&` is left as it is. -/
theorem replaced_self (h : '&' ∉ t) : Replaced R t t := by
  induction t with
  | nil => exact .nil
  | cons c t ih =>
    rw [List.mem_cons, not_or] at h
    exact .other (not_begins_of_ne (Ne.symm h.1) t) (ih h.2)

/-- A number with a sign is decoded, though HTML has no such reference and copies it. -/
theorem not_replaced_decode_signed :
    decode "&#+65;" = "A".toList ∧ Replaced IsReference "&#+65;" "&#+65;" ∧
    ¬ Replaced IsReference "&#+65;" (decode "&#+65;") := by
  have hsigned : Begins IsSigned "&#+65;" 'A' [] :=
    ⟨"#+65".toList, rfl, by decide,
      .decimal (by decide : Text.Denotes 10 "65".toList 'A'.toNat)⟩
  have hnone : ∀ d rest, ¬ Begins IsReference "&#+65;" d rest := by
    rintro d rest ⟨body, ht, -, hbody⟩
    have hsplit := Text.split?_singleton_append (fun hmem => (hbody.ne hmem).2.2 rfl) rest
    rw [← (List.cons.inj ht).2] at hsplit
    have hfirst : Text.split? [';'] "#+65;".toList = some ("#+65".toList, []) := by decide
    obtain rfl := (Prod.mk.inj (Option.some.inj (hfirst.symm.trans hsplit))).1
    exact (hbody.ne (x := '+') (by decide)).1 rfl
  refine ⟨by decide +kernel, .other hnone (replaced_self (by decide)), fun h => ?_⟩
  exact Nat.lt_irrefl _ ((length_decode_le h).2 (.of_begins hsigned))

/-! ## Escaped texts -/

/-- A special character is written as a reference for it, which ends with its own `;`. -/
theorem begins_escapeChar (h : IsSpecial c) (s : Text) :
    Begins IsReference (escapeChar c ++ s) c s := by
  rcases h with rfl | rfl | rfl | rfl | rfl
  · exact ⟨"amp".toList, rfl, by decide, .inl .amp⟩
  · exact ⟨"lt".toList, rfl, by decide, .inl .lt⟩
  · exact ⟨"gt".toList, rfl, by decide, .inl .gt⟩
  · exact ⟨"quot".toList, rfl, by decide, .inl .quot⟩
  · have hnumber : Text.Denotes 10 "39".toList '\x27'.toNat := by decide
    exact ⟨"#39".toList, rfl, by decide, .inr (.decimal hnumber)⟩

/-- The references in an escaped text stand for the text, and those behind it for what
they stand for without it. -/
theorem Replaced.escape_append (hR : ∀ body c, IsReference body c → R body c)
    (h : Replaced R u v) (t : Text) : Replaced R (escape t ++ u) (t ++ v) := by
  induction t with
  | nil => exact h
  | cons c t ih =>
    rw [escape_cons, List.append_assoc, List.cons_append]
    by_cases hc : IsSpecial c
    · exact .reference ((begins_escapeChar hc _).mono hR) ih
    · rw [escapeChar_of_not_special hc]
      have hamp : c ≠ '&' := fun he => hc (.inl he)
      exact .other (not_begins_of_ne hamp _) ih

/-- Decoding undoes escaping.  What stands behind an escaped text is decoded as if it
stood alone, so the escaped text is decoded to the text, whatever looks like a reference
in it; by the references of HTML alone, it is read as the text, too.  And it holds none of
the characters that end a tag, a value or an element. -/
theorem decode_undoes_escape (t : Text) :
    (∀ s, decode (escape t ++ s) = t ++ decode s) ∧ decode (escape t) = t ∧
    Replaced IsReference (escape t) t ∧
    '<' ∉ escape t ∧ '>' ∉ escape t ∧ '\x22' ∉ escape t ∧ '\x27' ∉ escape t := by
  have hread : Replaced IsReference (escape t ++ []) (t ++ []) :=
    Replaced.nil.escape_append (fun _ _ => id) t
  rw [List.append_nil, List.append_nil] at hread
  refine ⟨decode_escape_append t, decode_escape t, hread, ?_, ?_, ?_, ?_⟩
  · exact fun hlt => (mem_escape hlt).1 rfl
  · exact fun hgt => (mem_escape hgt).2.1 rfl
  · exact fun hquot => (mem_escape hquot).2.2.1 rfl
  · exact fun hapos => (mem_escape hapos).2.2.2 rfl

/-- What is decoded does not become the beginning of another reference. -/
example : decode (escape "&am" ++ "p;") = "&amp;".toList := by decide +kernel

end Entity

end PageHighlight
