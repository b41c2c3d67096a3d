/-
  Script/Token.lean --- the words, numbers, texts and symbols of a script.

  WHAT THIS FILE IS FOR.  A script is cut into tokens; blanks and comments between
  them say nothing.  A text between back-ticks may contain pieces of script, each
  in braces after a dollar sign; such a text becomes several tokens, with those of
  the pieces between them.
-/
import PageHighlight.Text.Blank
import PageHighlight.Text.Decimal

set_option autoImplicit false

namespace PageHighlight.Script

/-- A token. -/
inductive Token where
  /-- a name or a keyword -/
  | word (t : Text)
  /-- a whole number -/
  | int (n : Int)
  /-- a number with a fraction or an exponent -/
  | real
  | text (t : Text)
  | char (c : Char)
  | symbol (t : Text)
  /-- the text up to the first piece of script in it -/
  | opening (t : Text)
  /-- the text between two pieces of script -/
  | between (t : Text)
  /-- the text after the last piece of script -/
  | closing (t : Text)
  deriving DecidableEq, Repr, Inhabited

namespace Token

/-! ## Texts -/

/-- The first `n` characters as hexadecimal digits of a character. -/
def readCode? (n : Nat) (t : Text) : Option (Char × Text) :=
  let digits := t.take n
  if digits.length < n then none
  else
    match Text.readDigits? 16 0x110000 digits with
    | some code => if h : code.isValidChar then some (Char.ofNatAux code h, t.drop n) else none
    | none => none

/-- The character that an escape stands for; `none` inside for none at all. -/
def readEscape? (quote : Char) : Text → Option (Option Char × Text)
  | [] => none
  | 't' :: r => some (some '\t', r)
  | 'n' :: r => some (some '\n', r)
  | 'r' :: r => some (some '\r', r)
  | '\\' :: r => some (some '\\', r)
  | 'x' :: r => (readCode? 2 r).map fun (c, r) => (some c, r)
  | 'u' :: r => (readCode? 4 r).map fun (c, r) => (some c, r)
  | 'U' :: r => (readCode? 8 r).map fun (c, r) => (some c, r)
  | '\n' :: r => some (none, r.dropWhile fun c => c = ' ' || c = '\t')
  | c :: r => if c = quote then some (some c, r) else none

/-- A text up to the quote that ends it; a quote written twice is one in the
text. -/
def readQuoted? (quote : Char) : (fuel : Nat) → Text → Option (Text × Text)
  | 0, _ => none
  | _ + 1, [] => none
  | fuel + 1, '\\' :: r =>
    match readEscape? quote r with
    | some (c, r) => (readQuoted? quote fuel r).map fun (t, r) => (c.toList ++ t, r)
    | none => none
  | fuel + 1, c :: r =>
    if c = quote then
      match r with
      | d :: s =>
        if d = quote then (readQuoted? quote fuel s).map fun (t, s) => (quote :: t, s)
        else some ([], r)
      | [] => some ([], r)
    else if c = '\n' then none
    else (readQuoted? quote fuel r).map fun (t, r) => (c :: t, r)

/-- A text up to the back-tick that ends it or a piece of script, and which of the
two it is; a back-tick written twice is one in the text. -/
def readVerbatim? : Text → Option (Text × Bool × Text)
  | [] => none
  | '\x60' :: '\x60' :: r => (readVerbatim? r).map fun (t, more, r) => ('\x60' :: t, more, r)
  | '\x60' :: r => some ([], false, r)
  | '$' :: '\x7b' :: r => some ([], true, r)
  | c :: r => (readVerbatim? r).map fun (t, more, r) => (c :: t, more, r)

/-- A text between back-ticks does not begin with the line break after the first
one. -/
def dropFirstBreak : Text → Text
  | '\n' :: r => r
  | '\r' :: '\n' :: r => r
  | t => t

/-! ## Comments, numbers and words -/

/-- What follows a comment of which `depth` levels are open. -/
def skipComment : (depth : Nat) → Text → Text
  | 0, t => t
  | _, [] => []
  | depth + 1, '*' :: '/' :: r => skipComment depth r
  | depth + 1, '/' :: '*' :: r => skipComment (depth + 2) r
  | depth + 1, _ :: r => skipComment (depth + 1) r

/-- A character that names may contain. -/
def isNameChar (c : Char) : Bool := c.isAlphanum || c = '_'

/-- A character that names may begin with. -/
def isNameStart (c : Char) : Bool := c.isAlpha || c = '_'

/-- Whether a word may be a name: a letter comes first, but for underscores. -/
def isName (t : Text) : Bool :=
  match t.dropWhile (· = '_') with
  | c :: _ => c.isAlpha
  | [] => false

/-- What follows the fraction and the exponent of a number, and whether there was
any. -/
def skipFraction (t : Text) : Bool × Text :=
  let isDigit (c : Char) : Bool := c.isDigit || c = '_'
  let (point, t) : Bool × Text := match t with
    | '.' :: c :: r =>
      if c.isDigit then (true, r.dropWhile isDigit)
      else if c = '.' || isNameStart c then (false, t)
      else (true, c :: r)
    | ['.'] => (true, [])
    | _ => (false, t)
  match t with
  | e :: c :: r =>
    if (e = 'e' || e = 'E') && c.isDigit then (true, r.dropWhile isDigit)
    else if (e = 'e' || e = 'E') && (c = '-' || c = '+') && r.head?.any Char.isDigit then
      (true, r.dropWhile isDigit)
    else (point, t)
  | _ => (point, t)

/-- A number in a base other than ten: its value is taken modulo 2^64, so that
large ones are negative. -/
def readInBase? (base : Nat) (t : Text) : Option (Token × Text) :=
  let isDigit (c : Char) : Bool := (Text.digit? base c).isSome || c = '_'
  match Text.readDigits? base Text.wordLimit ((t.takeWhile isDigit).filter (· ≠ '_')) with
  | some n => some (.int (Int.bmod n Text.wordLimit), t.dropWhile isDigit)
  | none => none

/-- A number. -/
def readNumber? (t : Text) : Option (Token × Text) :=
  match t with
  | '0' :: 'x' :: r | '0' :: 'X' :: r => readInBase? 16 r
  | '0' :: 'o' :: r | '0' :: 'O' :: r => readInBase? 8 r
  | '0' :: 'b' :: r | '0' :: 'B' :: r => readInBase? 2 r
  | t =>
    let isDigit (c : Char) : Bool := c.isDigit || c = '_'
    let digits := (t.takeWhile isDigit).filter (· ≠ '_')
    let (fraction, rest) := skipFraction (t.dropWhile isDigit)
    if fraction then some (.real, rest)
    else (Text.digitsValue? 10 0 digits).map fun n => (.int n, rest)

/-! ## Symbols -/

/-- The symbols, longer ones before their beginnings; some have no meaning. -/
def symbols : List Text :=
  (["===", "!==", "...", "..=", "..<", "**=", "<<=", ">>=", "->", "<-", ":=", "++", "--", "..",
    "**", "*=", "+=", "-=", "/=", "%=", "<<", "<=", ">>", ">=", "==", "=>", "!=", "&&", "&=",
    "||", "|=", "^=", "??", "?.", "?[", "::", "#\x7b", "+", "-", "*", "/", "%", "<", ">", "=",
    "!", "&", "|", "^", "?", ":", ";", ",", ".", "(", ")", "[", "]", "\x7b", "\x7d", "#", "@",
    "~", "$"] : List String).map String.toList

/-- A symbol. -/
def readSymbol? (t : Text) : Option (Text × Text) :=
  symbols.findSome? fun s => (Text.dropPrefix? s t).map fun rest => (s, rest)

/-! ## Tokens -/

/-- Go on with a text that contains pieces of script; `before` tells which token
its next part is if another piece follows. -/
def resume? (before : Text → Token) (last : Text → Token) (depths : List Nat) (t : Text) :
    Option (Token × List Nat × Text) :=
  match readVerbatim? t with
  | none => none
  | some (part, true, rest) => some (before part, 0 :: depths, rest)
  | some (part, false, rest) => some (last part, depths, rest)

/-- The next token, if there is one before the next blank or after the next
comment.  `depths` holds how many braces are open in each of the pieces of script
that are being read, the innermost one first. -/
def readNext? (depths : List Nat) (t : Text) : Option (Option Token × List Nat × Text) :=
  match t with
  | [] => none
  | '/' :: '/' :: r => some (none, depths, r.dropWhile (· ≠ '\n'))
  | '/' :: '*' :: r => some (none, depths, skipComment 1 r)
  | '\x22' :: r =>
    (readQuoted? '\x22' (r.length + 1) r).map fun (t, rest) => (some (.text t), depths, rest)
  | '\x27' :: r =>
    match readQuoted? '\x27' (r.length + 1) r with
    | some ([c], rest) => some (some (.char c), depths, rest)
    | _ => none
  | '\x60' :: r =>
    (resume? .opening .text depths (dropFirstBreak r)).map fun (token, depths, rest) =>
      (some token, depths, rest)
  | c :: r =>
    if Text.isBlank c then some (none, depths, r)
    else if c.isDigit then
      (readNumber? t).map fun (token, rest) => (some token, depths, rest)
    else if isNameStart c then
      let word := t.takeWhile isNameChar
      if isName word then some (some (.word word), depths, t.dropWhile isNameChar) else none
    else
      match depths, readSymbol? t with
      | _, none => none
      | 0 :: outer, some (['\x7d'], rest) =>
        (resume? .between .closing outer rest).map fun (token, depths, rest) =>
          (some token, depths, rest)
      | depth :: outer, some (s, rest) =>
        let depth :=
          if s = ['\x7d'] then depth - 1
          else if s = ['\x7b'] || s = "#\x7b".toList then depth + 1
          else depth
        some (some (.symbol s), depth :: outer, rest)
      | [], some (s, rest) => some (some (.symbol s), [], rest)

/-- The tokens of a script; a step takes a character at least. -/
def readAll : (fuel : Nat) → (depths : List Nat) → Text → Option (List Token)
  | _, depths, [] => if depths.isEmpty then some [] else none
  | 0, _, _ => none
  | fuel + 1, depths, t =>
    match readNext? depths t with
    | none => none
    | some (token, depths, rest) =>
      (readAll fuel depths rest).map fun tokens => token.toList ++ tokens

/-- A first line that tells the system how to run a script says nothing to us. -/
def dropFirstLine : Text → Text
  | '#' :: '!' :: r => r.dropWhile (· ≠ '\n')
  | t => t

/-- The tokens of a script. -/
def ofScript (t : Text) : Option (List Token) :=
  let t := dropFirstLine t
  readAll (t.length + 1) [] t

end Token

end PageHighlight.Script
