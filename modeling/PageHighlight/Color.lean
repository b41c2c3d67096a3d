/-
  Color.lean --- colours and the inline styles made of them.

  WHAT THIS FILE IS FOR.  Rendered markup names its colours in CSS hexadecimal
  notation, small letters, six digits (`Color.toHex`).  `Color.ofHex` reads that
  notation back, with or without the `#`.
-/
import PageHighlight.Text.Decimal

set_option autoImplicit false

namespace PageHighlight

/-! ## Colours -/

/-- An sRGB colour, eight bits a channel. -/
structure Color where
  /-- The red channel. -/
  red : UInt8
  /-- The green channel. -/
  green : UInt8
  /-- The blue channel. -/
  blue : UInt8
  deriving DecidableEq, Repr, Inhabited

namespace Color

/-- The colour packed as `0xRRGGBB`; bits above the lowest 24 are ignored. -/
def ofPacked (n : Nat) : Color :=
  ⟨(n / 0x10000).toUInt8, (n / 0x100).toUInt8, n.toUInt8⟩

/-- Black. -/
def black : Color := ⟨0, 0, 0⟩

/-- White, the colour used where none is given. -/
def white : Color := ⟨255, 255, 255⟩

/-- CSS notation: `#` and two small hexadecimal digits a channel. -/
def toHex (c : Color) : Text :=
  '#' :: (Text.ofNatHex 2 c.red.toNat ++ Text.ofNatHex 2 c.green.toNat
    ++ Text.ofNatHex 2 c.blue.toNat)

/-- Why a text is no colour. -/
inductive HexFault where
  /-- it is not six hexadecimal digits -/
  | notHex
  /-- the six bytes cannot be cut into pairs, because a character lies across a
  cut -/
  | splitCharacter
  deriving DecidableEq, Repr, Inhabited

/-- Cut off the first `n` bytes of a text; none if the cut is inside a
character. -/
def takeBytes? : Nat → Text → Option (Text × Text)
  | 0, t => some ([], t)
  | _ + 1, [] => none
  | n + 1, c :: r =>
    if c.utf8Size ≤ n + 1 then
      (takeBytes? (n + 1 - c.utf8Size) r).map fun (a, b) => (c :: a, b)
    else none
termination_by _ t => t.length

/-- Read one channel from the first two bytes of a text. -/
def readChannel (t : Text) : Except HexFault (UInt8 × Text) :=
  match takeBytes? 2 t with
  | none => .error .splitCharacter
  | some (pair, rest) =>
    match Text.readNumeral? 16 256 pair with
    | some n => .ok (n.toUInt8, rest)
    | none => .error .notHex

/-- Read a colour in hexadecimal notation, any number of `#` before it. -/
def ofHex (t : Text) : Except HexFault Color := do
  let t := t.dropWhile (· = '#')
  if Text.byteLength t ≠ 6 then .error .notHex
  let (red, t) ← readChannel t
  let (green, t) ← readChannel t
  let (blue, _) ← readChannel t
  .ok ⟨red, green, blue⟩

end Color

/-! ## Styles -/

/-- How a run of text is drawn. -/
structure Style where
  /-- The colour of the letters. -/
  foreground : Color
  /-- The colour behind them, if it is not the block's. -/
  background : Option Color
  /-- Whether they are bold. -/
  bold : Bool
  /-- Whether they are slanted. -/
  italic : Bool
  deriving DecidableEq, Repr, Inhabited

namespace Style

/-- Letters of one colour, otherwise as the block's. -/
def ofColor (c : Color) : Style := ⟨c, none, false, false⟩

/-- The same in bold. -/
def inBold (s : Style) : Style := { s with bold := true }

/-- The same slanted. -/
def inItalic (s : Style) : Style := { s with italic := true }

/-- The style as CSS declarations. -/
def toCss (s : Style) : Text :=
  "color:".toList ++ s.foreground.toHex
    ++ (match s.background with
        | some c => ";background-color:".toList ++ c.toHex
        | none => [])
    ++ (if s.bold then ";font-weight:bold".toList else [])
    ++ (if s.italic then ";font-style:italic".toList else [])

end Style

end PageHighlight
