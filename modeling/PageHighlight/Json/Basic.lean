/-
  Json/Basic.lean --- JSON values and the indented way of writing them.

  WHAT THIS FILE IS FOR.  Configurations are written as JSON, one member or item
  a line, two spaces deeper at every level; an empty list or object stays on its
  line.  A text is written with the two characters escaped that need it and the
  control characters; every other character stands for itself.
-/
import PageHighlight.Text.Decimal

set_option autoImplicit false

namespace PageHighlight

/-- A JSON value of the kinds that are written here. -/
inductive Json where
  | text (t : Text)
  | number (n : Nat)
  | array (items : List Json)
  | object (members : List (Text × Json))
  deriving Repr, Inhabited

namespace Json

/-- A character as it is written between quotes. -/
def escapeChar (c : Char) : Text :=
  match c with
  | '\x22' => "\\\""
  | '\\' => "\\\\"
  | '\x08' => "\\b"
  | '\x0C' => "\\f"
  | '\n' => "\\n"
  | '\r' => "\\r"
  | '\t' => "\\t"
  | c => if c.toNat < 0x20 then "\\u".toList ++ Text.ofNatHex 4 c.toNat else [c]

/-- A text between quotes. -/
def quote (t : Text) : Text := '\x22' :: (t.flatMap escapeChar ++ ['\x22'])

/-- The blanks at the beginning of a line at a depth. -/
def indent (depth : Nat) : Text := List.replicate (2 * depth) ' '

mutual

/-- A value that begins on a line at this depth. -/
def write (depth : Nat) : Json → Text
  | text t => quote t
  | number n => Text.ofNat n
  | array [] => "[]"
  | array (j :: js) =>
    "[\n".toList ++ writeItems (depth + 1) (j :: js) ++ ['\n'] ++ indent depth ++ [']']
  | object [] => "\x7b\x7d"
  | object (m :: ms) =>
    "\x7b\n".toList ++ writeMembers (depth + 1) (m :: ms) ++ ['\n'] ++ indent depth ++ ['\x7d']

/-- The items of a list, each on a line of its own. -/
def writeItems (depth : Nat) : List Json → Text
  | [] => []
  | [j] => indent depth ++ write depth j
  | j :: k :: js => indent depth ++ write depth j ++ ",\n".toList ++ writeItems depth (k :: js)

/-- The members of an object, each on a line of its own. -/
def writeMembers (depth : Nat) : List (Text × Json) → Text
  | [] => []
  | [(n, j)] => indent depth ++ quote n ++ ": ".toList ++ write depth j
  | (n, j) :: m :: ms =>
    indent depth ++ quote n ++ ": ".toList ++ write depth j ++ ",\n".toList
      ++ writeMembers depth (m :: ms)

end

/-- A value as a text of its own. -/
def pretty (j : Json) : Text := write 0 j

/-- A list of texts. -/
def texts (ts : List Text) : Json := array (ts.map text)

end Json

end PageHighlight
