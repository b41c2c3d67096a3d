/-
  Entity.lean --- characters of HTML written as references.

  WHAT THIS FILE IS FOR.  `Entity.escape` writes the five characters that HTML
  gives a meaning as references; `Entity.decode` puts references back, wherever
  a text holds one, and copies everything else.  A reference ends with its `;` at
  most ten bytes after the `&`.
-/
import PageHighlight.Text.Decimal

set_option autoImplicit false

namespace PageHighlight

namespace Entity

/-! ## Writing -/

/-- A character as it is written in the content or an attribute of an element. -/
def escapeChar (c : Char) : Text :=
  match c with
  | '&' => "&amp;"
  | '<' => "&lt;"
  | '>' => "&gt;"
  | '\x22' => "&quot;"
  | '\x27' => "&#39;"
  | c => [c]

/-- A text as it is written in the content or an attribute of an element. -/
def escape (t : Text) : Text := t.flatMap escapeChar

/-! ## Reading -/

/-- The references with a name. -/
def named : List (Text × Char) :=
  [("amp", '&'), ("lt", '<'), ("gt", '>'), ("quot", '\x22'), ("apos", '\x27'), ("nbsp", '\u00A0')]

/-- The character with a code point, if it is a Unicode scalar value. -/
def ofCodePoint? (n : Nat) : Option Char :=
  if n.isValidChar then some (Char.ofNat n) else none

/-- The code point in a reference by number: `#` and decimal digits, or `#x` and
hexadecimal digits. -/
def codePoint? : Text → Option Nat
  | '#' :: 'x' :: digits => Text.readNumeral? 16 (Nat.pow 2 32) digits
  | '#' :: 'X' :: digits => Text.readNumeral? 16 (Nat.pow 2 32) digits
  | '#' :: digits => Text.readNumeral? 10 (Nat.pow 2 32) digits
  | _ => none

/-- The character that a reference with this text between `&` and `;` stands
for. -/
def lookup? (body : Text) : Option Char :=
  match named.find? (·.1 = body) with
  | some (_, c) => some c
  | none => (codePoint? body).bind ofCodePoint?

/-- The reference that begins after a `&`: its character, and how many characters
it takes after the `&`. -/
def reference? (t : Text) : Option (Char × Nat) :=
  match Text.split? ";" t with
  | some (body, _) =>
    if Text.byteLength body + 1 ≤ 10 then (lookup? body).map fun c => (c, body.length + 1)
    else none
  | none => none

/-- Decode a text after leaving out its first `skip` characters. -/
def decodeFrom : Nat → Text → Text
  | _, [] => []
  | skip + 1, _ :: r => decodeFrom skip r
  | 0, c :: r =>
    if c = '&' then
      match reference? r with
      | some (d, n) => d :: decodeFrom n r
      | none => '&' :: decodeFrom 0 r
    else c :: decodeFrom 0 r

/-- A text with every reference replaced by its character. -/
def decode (t : Text) : Text := decodeFrom 0 t

theorem decodeFrom_eq_decode_drop (n : Nat) (t : Text) : decodeFrom n t = decode (t.drop n) := by
  induction t generalizing n with
  | nil => cases n <;> simp [decodeFrom, decode]
  | cons c r ih =>
    cases n with
    | zero => rfl
    | succ n => simp [decodeFrom, ih]

end Entity

end PageHighlight
