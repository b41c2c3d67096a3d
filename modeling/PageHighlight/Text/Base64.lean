/-
  Text/Base64.lean --- the Base64 encoding of bytes and texts.

  WHAT THIS FILE IS FOR.  Terminals take clipboard text in Base64.  Three bytes
  become four characters of a 64-letter alphabet; the last group is padded with
  `=`.
-/
import PageHighlight.Text.Basic

set_option autoImplicit false

namespace PageHighlight

namespace Text

/-- The UTF-8 bytes of a text. -/
def utf8 (t : Text) : List UInt8 := t.flatMap String.utf8EncodeChar

/-- The 64 characters of the alphabet, by value. -/
def base64Alphabet : Text :=
  "ABCDEFGHIJKLMNOPQRSTUVWXYZabcdefghijklmnopqrstuvwxyz0123456789+/"

/-- The character for six bits. -/
def base64Char (n : Nat) : Char := base64Alphabet.getD (n % 64) '='

/-- Bytes in Base64, padded. -/
def base64 : List UInt8 → Text
  | [] => []
  | [a] =>
    let n := a.toNat * 0x10000
    [base64Char (n / 0x40000), base64Char (n / 0x1000), '=', '=']
  | [a, b] =>
    let n := a.toNat * 0x10000 + b.toNat * 0x100
    [base64Char (n / 0x40000), base64Char (n / 0x1000), base64Char (n / 0x40), '=']
  | a :: b :: c :: r =>
    let n := a.toNat * 0x10000 + b.toNat * 0x100 + c.toNat
    base64Char (n / 0x40000) :: base64Char (n / 0x1000) :: base64Char (n / 0x40)
      :: base64Char n :: base64 r

end Text

end PageHighlight
