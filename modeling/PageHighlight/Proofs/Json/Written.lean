/-
  Proofs/Json/Written.lean --- the texts that a JSON value may be written as.

  WHAT THIS FILE IS FOR.  JSON leaves its writers some freedom.  Between the parts of a
  value there may be blanks, and a character between quotes may stand for itself, or may be
  escaped by a letter, by the number of its code point, or by two numbers if it is beyond
  four digits.  `Written` is the relation between a value and the texts that write it;
  `written_write` says that the indented way of writing is one of them.

  NUMBERS.  Whole numbers without a sign are the only ones that are written here, and these
  have one way of writing: their digits without leading zeros.
-/
import PageHighlight.Json.Basic
import PageHighlight.Json.Reader
import PageHighlight.Proofs.Text.Numeral

set_option autoImplicit false

namespace PageHighlight

namespace Json

/-! ## Texts between quotes -/

/-- Four hexadecimal digits stand for a number. -/
def IsHex4 (digits : Text) (n : Nat) : Prop := digits.length = 4 ∧ Text.Denotes 16 digits n

/-- How a character may be written between quotes. -/
inductive Spells : Char → Text → Prop where
  | itself {c : Char} (printable : 0x20 ≤ c.toNat) (quote : c ≠ '\x22') (backslash : c ≠ '\\') :
      Spells c [c]
  /-- by a backslash and a letter -/
  | letter {c letter : Char} (known : (letter, c) ∈ simpleEscapes) : Spells c ['\\', letter]
  /-- by its number -/
  | number {c : Char} {digits : Text} (digits_eq : IsHex4 digits c.toNat) :
      Spells c ('\\' :: 'u' :: digits)
  /-- by the high ten bits and the low ten bits of what its number is more than `0x10000` -/
  | surrogates {c : Char} {high low : Nat} {digits digits' : Text} (high_lt : high < 0x400)
      (low_lt : low < 0x400) (high_eq : IsHex4 digits (0xD800 + high))
      (low_eq : IsHex4 digits' (0xDC00 + low))
      (value : c.toNat = 0x10000 + high * 0x400 + low) :
      Spells c ('\\' :: 'u' :: digits ++ '\\' :: 'u' :: digits')

/-- How a text may be written between quotes. -/
inductive SpellsAll : Text → Text → Prop where
  | nil : SpellsAll [] []
  | cons {c : Char} {t u v : Text} (head : Spells c u) (tail : SpellsAll t v) :
      SpellsAll (c :: t) (u ++ v)

/-! ## Values -/

/-- There are only characters that may stand between the parts of a value. -/
def AllSpace (t : Text) : Prop := ∀ c ∈ t, isSpace c = true

/-- Some things are written one behind the other, with commas between them and blanks around
each. -/
inductive Separated {α : Type} (P : α → Text → Prop) : List α → Text → Prop where
  | nil {u : Text} (space : AllSpace u) : Separated P [] u
  | one {x : α} {u v w : Text} (before : AllSpace u) (item : P x v) (behind : AllSpace w) :
      Separated P [x] (u ++ v ++ w)
  | cons {x : α} {xs : List α} {u v w t : Text} (before : AllSpace u) (item : P x v)
      (behind : AllSpace w) (more : xs ≠ []) (others : Separated P xs t) :
      Separated P (x :: xs) (u ++ v ++ w ++ ',' :: t)

mutual

/-- A text writes a value. -/
inductive Written : Json → Text → Prop where
  | text {t u : Text} (spelt : SpellsAll t u) : Written (.text t) ('\x22' :: u ++ ['\x22'])
  | number (n : Nat) : Written (.number n) (Text.ofNat n)
  | array {items : List Json} {u : Text} (written : Separated Written items u) :
      Written (.array items) ('[' :: u ++ [']'])
  | object {members : List (Text × Json)} {u : Text} (written : Separated WrittenMember members u) :
      Written (.object members) ('\x7b' :: u ++ ['\x7d'])

/-- A text writes a member of an object: its name, a colon and its value. -/
inductive WrittenMember : Text × Json → Text → Prop where
  | mk {name : Text} {j : Json} {u v w x : Text} (spelt : SpellsAll name u) (before : AllSpace v)
      (behind : AllSpace w) (value : Written j x) :
      WrittenMember (name, j) ('\x22' :: u ++ '\x22' :: v ++ ':' :: w ++ x)

end

/-! ## Blanks -/

theorem allSpace_nil : AllSpace [] := List.forall_mem_nil _

theorem AllSpace.append {u v : Text} (hu : AllSpace u) (hv : AllSpace v) : AllSpace (u ++ v) :=
  fun c hc => (List.mem_append.1 hc).elim (hu c) (hv c)

theorem allSpace_blank : AllSpace [' '] := List.forall_mem_singleton.2 rfl

theorem allSpace_indent (depth : Nat) : AllSpace (indent depth) := by
  intro c hc
  rw [List.eq_of_mem_replicate hc]
  rfl

/-- The end of a line and the blanks of the next one. -/
theorem allSpace_newline (depth : Nat) : AllSpace ('\n' :: indent depth) :=
  List.forall_mem_cons.2 ⟨rfl, allSpace_indent depth⟩

/-- Blanks around a list of things belong to its first and its last one. -/
theorem Separated.pad {α : Type} {P : α → Text → Prop} {xs : List α} {u v w : Text}
    (h : Separated P xs u) (hv : AllSpace v) (hw : AllSpace w) :
    Separated P xs (v ++ u ++ w) := by
  induction h generalizing v with
  | nil space => exact .nil ((hv.append space).append hw)
  | @one x u t t' before item behind =>
    have h := Separated.one (hv.append before) item (behind.append hw)
    simpa only [List.append_assoc] using h
  | @cons x xs u t t' rest before item behind more others ih =>
    have h := Separated.cons (hv.append before) item behind more (ih allSpace_nil)
    simpa only [List.append_assoc, List.cons_append, List.nil_append] using h

/-! ## The indented way of writing -/

/-- The number of a control character, as it is written. -/
theorem isHex4_ofNatHex : ∀ n < 0x20, IsHex4 (Text.ofNatHex 4 n) n := by
  unfold IsHex4
  decide

theorem spells_escapeChar (c : Char) : Spells c (escapeChar c) := by
  unfold escapeChar
  split
  · exact .letter (by decide)
  · exact .letter (by decide)
  · exact .letter (by decide)
  · exact .letter (by decide)
  · exact .letter (by decide)
  · exact .letter (by decide)
  · exact .letter (by decide)
  · next hquote hbackslash _ _ _ _ _ =>
    split
    · next hcontrol => exact .number (isHex4_ofNatHex c.toNat hcontrol)
    · next hprintable => exact .itself (Nat.not_lt.1 hprintable) hquote hbackslash

theorem spellsAll_escape (t : Text) : SpellsAll t (t.flatMap escapeChar) := by
  induction t with
  | nil => exact .nil
  | cons c t ih => exact .cons (spells_escapeChar c) ih

mutual

/-- The indented way of writing writes a value. -/
theorem written_write (depth : Nat) : ∀ j : Json, Written j (write depth j)
  | .text t => .text (spellsAll_escape t)
  | .number n => .number n
  | .array [] => .array (.nil allSpace_nil)
  | .array (j :: js) => by
    have hitems := (separated_writeItems (depth + 1) (j :: js) (List.cons_ne_nil _ _)).pad
      (allSpace_newline 0) (allSpace_newline depth)
    simpa [write, indent] using Written.array hitems
  | .object [] => .object (.nil allSpace_nil)
  | .object (m :: ms) => by
    have hmembers := (separated_writeMembers (depth + 1) (m :: ms) (List.cons_ne_nil _ _)).pad
      (allSpace_newline 0) (allSpace_newline depth)
    simpa [write, indent] using Written.object hmembers

theorem separated_writeItems (depth : Nat) :
    ∀ js : List Json, js ≠ [] → Separated Written js (writeItems depth js)
  | [], h => absurd rfl h
  | [j], _ => by
    have hitem := Separated.one (allSpace_indent depth) (written_write depth j) allSpace_nil
    simpa [writeItems] using hitem
  | j :: k :: js, _ => by
    have hothers := (separated_writeItems depth (k :: js) (List.cons_ne_nil _ _)).pad
      (allSpace_newline 0) allSpace_nil
    have hitems := Separated.cons (allSpace_indent depth) (written_write depth j) allSpace_nil
      (List.cons_ne_nil _ _) hothers
    simpa [writeItems, indent] using hitems

theorem separated_writeMembers (depth : Nat) :
    ∀ ms : List (Text × Json), ms ≠ [] → Separated WrittenMember ms (writeMembers depth ms)
  | [], h => absurd rfl h
  | [(n, j)], _ => by
    have hmember := WrittenMember.mk (spellsAll_escape n) allSpace_nil allSpace_blank
      (written_write depth j)
    have hmembers := Separated.one (allSpace_indent depth) hmember allSpace_nil
    simpa [writeMembers, quote] using hmembers
  | (n, j) :: m :: ms, _ => by
    have hmember := WrittenMember.mk (spellsAll_escape n) allSpace_nil allSpace_blank
      (written_write depth j)
    have hothers := (separated_writeMembers depth (m :: ms) (List.cons_ne_nil _ _)).pad
      (allSpace_newline 0) allSpace_nil
    have hmembers := Separated.cons (allSpace_indent depth) hmember allSpace_nil
      (List.cons_ne_nil _ _) hothers
    simpa [writeMembers, quote, indent] using hmembers

end

end Json

end PageHighlight
