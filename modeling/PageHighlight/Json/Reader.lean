/-
  Json/Reader.lean --- reading JSON into values whose shape is known.

  WHAT THIS FILE IS FOR.  A reader takes a value off the front of a text.  It
  reads from left to right and stops at the first fault, so of two faults the
  earlier decides.  There are three kinds of fault: the text ends too early, it
  is not JSON, or it is JSON of another shape than the place asks for.

  RECORDS.  A record is an object, or a list of its fields in order.  A field
  that is not there leaves the record as it was; a member that is no field is
  read over; a field that comes twice is a fault.

  FUEL.  Lists and objects are read with a bound on the number of their items,
  and the length of the text is such a bound.
-/
import PageHighlight.Text.Decimal

set_option autoImplicit false

namespace PageHighlight

namespace Json

/-! ## Faults and readers -/

/-- Why a text was refused. -/
inductive Fault where
  /-- it ends inside a value -/
  | ended
  /-- it is not JSON -/
  | malformed
  /-- it is JSON, but not of the shape that was asked for -/
  | mismatch
  deriving DecidableEq, Repr, Inhabited

/-- Takes a value off the front of a text. -/
abbrev Reader (α : Type) : Type := Text → Except Fault (α × Text)

/-- The characters that may stand between the parts of a value. -/
def isSpace (c : Char) : Bool := c = ' ' || c = '\n' || c = '\t' || c = '\r'

/-- A text from its first part on. -/
def skipSpace (t : Text) : Text := t.dropWhile isSpace

/-- A decimal digit. -/
def isDigit (c : Char) : Bool := '0' ≤ c && c ≤ '9'

/-- Take off the characters of a word. -/
def readWord : Text → Text → Except Fault Text
  | [], t => .ok t
  | _ :: _, [] => .error .ended
  | c :: w, d :: t => if c = d then readWord w t else .error .malformed

/-! ## Texts -/

/-- The value of four hexadecimal digits. -/
def readHex4 : Reader Nat := fun t =>
  if Text.byteLength (t.take 4) < 4 then .error .ended
  else
    match Text.digitsValue? 16 0 (t.take 4) with
    | some n => if t.length < 4 then .error .malformed else .ok (n, t.drop 4)
    | none => .error .malformed

/-- The character whose number follows `\u`; numbers beyond four digits come as
two surrogates. -/
def readCodePoint : Reader Char := fun t => do
  let (high, t) ← readHex4 t
  if 0xDC00 ≤ high ∧ high ≤ 0xDFFF then .error .malformed
  else if 0xD800 ≤ high ∧ high ≤ 0xDBFF then
    match t with
    | [] => .error .ended
    | '\\' :: [] => .error .ended
    | '\\' :: 'u' :: t =>
      let (low, t) ← readHex4 t
      if 0xDC00 ≤ low ∧ low ≤ 0xDFFF then
        .ok (Char.ofNat (0x10000 + (high - 0xD800) * 0x400 + (low - 0xDC00)), t)
      else .error .malformed
    | _ => .error .malformed
  else .ok (Char.ofNat high, t)

/-- The characters that an escape of one letter stands for. -/
def simpleEscapes : List (Char × Char) :=
  [('\x22', '\x22'), ('\\', '\\'), ('/', '/'), ('b', '\x08'), ('f', '\x0C'), ('n', '\n'),
   ('r', '\r'), ('t', '\t')]

/-- The character that an escape stands for; the text begins after the
backslash. -/
def readEscape : Reader Char
  | [] => .error .ended
  | c :: t =>
    match simpleEscapes.find? (·.1 = c) with
    | some (_, d) => .ok (d, t)
    | none => if c = 'u' then readCodePoint t else .error .malformed

/-- An escape in a text that nobody reads: its number may be any. -/
def skipEscape : Reader Char
  | [] => .error .ended
  | c :: t =>
    match simpleEscapes.find? (·.1 = c) with
    | some (_, d) => .ok (d, t)
    | none => if c = 'u' then (readHex4 t).map fun (_, t) => (c, t) else .error .malformed

/-- The characters up to the closing quote, escapes read by `escape`. -/
def readChars (escape : Reader Char) : Nat → Reader Text
  | 0, _ => .error .ended
  | _ + 1, [] => .error .ended
  | n + 1, c :: t =>
    if c = '\x22' then .ok ([], t)
    else if c = '\\' then do
      let (d, t) ← escape t
      let (ds, t) ← readChars escape n t
      .ok (d :: ds, t)
    else if c.toNat < 0x20 then .error .malformed
    else do
      let (ds, t) ← readChars escape n t
      .ok (c :: ds, t)

/-- The rest of a text whose opening quote was taken off. -/
def readQuoted : Reader Text := fun t => readChars readEscape (t.length + 1) t

/-! ## Numbers -/

/-- Whether a decimal number with these digits and this exponent is too large for
a floating-point number of 64 bits. -/
def tooLarge (digits : Text) (exponent : Int) : Bool :=
  let digits := digits.dropWhile (· = '0')
  if digits.isEmpty then false
  else
    let magnitude := (digits.length : Int) + exponent
    if magnitude > 310 then true
    else if magnitude < 308 then false
    else
      let value := (Text.digitsValue? 10 0 digits).getD 0
      let bound := Nat.pow 2 1024 - Nat.pow 2 970
      if exponent ≥ 0 then value * Nat.pow 10 exponent.toNat ≥ bound
      else value ≥ bound * Nat.pow 10 (-exponent).toNat

/-- One or more digits. -/
def readDigits : Reader Text := fun t =>
  match t with
  | [] => .error .ended
  | c :: _ =>
    if isDigit c then .ok (t.takeWhile isDigit, t.dropWhile isDigit) else .error .malformed

/-- The digits before the point; a zero stands alone. -/
def readWhole : Reader Text := fun t => do
  let (digits, r) ← readDigits t
  match digits with
  | '0' :: _ :: _ => .error .malformed
  | _ => .ok (digits, r)

/-- The exponent after an `e`. -/
def readExponent : Reader Int := fun t => do
  let (negative, t) := match t with
    | '+' :: t => (false, t)
    | '-' :: t => (true, t)
    | t => (false, t)
  let (digits, t) ← readDigits t
  let value : Int := (Text.digitsValue? 10 0 digits).getD 0
  .ok (if negative then -value else value, t)

/-- A number: its value if it is a whole number that needs no sign, no point and
no exponent and fits into 64 bits. -/
def readNumber : Reader (Option Nat) := fun t => do
  let (negative, t) := match t with
    | '-' :: t => (true, t)
    | t => (false, t)
  let (whole, t) ← readWhole t
  let (fraction, t) ← match t with
    | '.' :: t => readDigits t
    | t => .ok ([], t)
  let (exponent, t) ← match t with
    | 'e' :: t => (readExponent t).map fun (e, t) => (some e, t)
    | 'E' :: t => (readExponent t).map fun (e, t) => (some e, t)
    | t => .ok (none, t)
  if tooLarge (whole ++ fraction) (exponent.getD 0 - fraction.length) then .error .malformed
  else if negative || !fraction.isEmpty || exponent.isSome then .ok (none, t)
  else .ok ((Text.digitsValue? 10 0 whole).filter (· < Text.wordLimit), t)

/-- One or more digits of a number that nobody reads. -/
def skipDigits (t : Text) : Except Fault Text :=
  match readDigits t with
  | .ok (_, t) => .ok t
  | .error _ => .error .malformed

/-- A number that nobody reads. -/
def skipNumber (t : Text) : Except Fault Text := do
  let t := match t with
    | '-' :: t => t
    | t => t
  let t ← match readWhole t with
    | .ok (_, t) => .ok t
    | .error _ => .error .malformed
  let t ← match t with
    | '.' :: t => skipDigits t
    | t => .ok t
  match t with
  | 'e' :: '+' :: t => skipDigits t
  | 'e' :: '-' :: t => skipDigits t
  | 'e' :: t => skipDigits t
  | 'E' :: '+' :: t => skipDigits t
  | 'E' :: '-' :: t => skipDigits t
  | 'E' :: t => skipDigits t
  | t => .ok t

/-! ## Values that nobody reads -/

mutual

/-- Take a value of any shape off the front. -/
def skipValue : Nat → Text → Except Fault Text
  | 0, _ => .error .ended
  | n + 1, t =>
    match skipSpace t with
    | [] => .error .ended
    | 'n' :: t => readWord "ull" t
    | 't' :: t => readWord "rue" t
    | 'f' :: t => readWord "alse" t
    | '\x22' :: t => (readChars skipEscape (t.length + 1) t).map (·.2)
    | '[' :: t =>
      match skipSpace t with
      | [] => .error .ended
      | ']' :: t => .ok t
      | t => skipItems n t
    | '\x7b' :: t =>
      match skipSpace t with
      | [] => .error .ended
      | '\x7d' :: t => .ok t
      | t => skipMembers n t
    | c :: t => if c = '-' ∨ isDigit c then skipNumber (c :: t) else .error .malformed

/-- Take the items of a list off the front, one at least, and the bracket. -/
def skipItems : Nat → Text → Except Fault Text
  | 0, _ => .error .ended
  | n + 1, t => do
    let t ← skipValue n t
    match skipSpace t with
    | [] => .error .ended
    | ',' :: t => skipItems n t
    | ']' :: t => .ok t
    | _ => .error .malformed

/-- Take the members of an object off the front, one at least, and the brace. -/
def skipMembers : Nat → Text → Except Fault Text
  | 0, _ => .error .ended
  | n + 1, t =>
    match skipSpace t with
    | [] => .error .ended
    | '\x22' :: t => do
      let (_, t) ← readChars skipEscape (t.length + 1) t
      match skipSpace t with
      | [] => .error .ended
      | ':' :: t => do
        let t ← skipValue n t
        match skipSpace t with
        | [] => .error .ended
        | ',' :: t => skipMembers n t
        | '\x7d' :: t => .ok t
        | _ => .error .malformed
      | _ => .error .malformed
    | _ => .error .malformed

end

/-- Take a value of any shape off the front. -/
def skipAny (t : Text) : Except Fault Text := skipValue (2 * t.length + 2) t

/-! ## Values of a shape -/

/-- The fault of a value that has another shape than the place asks for: it must
at least begin as JSON does. -/
def wrongShape {α : Type} : Reader α
  | [] => .error .ended
  | 'n' :: t => do let _ ← readWord "ull" t; .error .mismatch
  | 't' :: t => do let _ ← readWord "rue" t; .error .mismatch
  | 'f' :: t => do let _ ← readWord "alse" t; .error .mismatch
  | '\x22' :: t => do let _ ← readQuoted t; .error .mismatch
  | '[' :: _ => .error .mismatch
  | '\x7b' :: _ => .error .mismatch
  | c :: t =>
    if c = '-' ∨ isDigit c then do let _ ← readNumber (c :: t); .error .mismatch
    else .error .malformed

/-- A text. -/
def readText : Reader Text := fun t =>
  match skipSpace t with
  | '\x22' :: t => readQuoted t
  | t => wrongShape t

/-- A whole number below a limit. -/
def readNat (limit : Nat) : Reader Nat := fun t =>
  match skipSpace t with
  | [] => .error .ended
  | c :: t =>
    if c = '-' ∨ isDigit c then do
      let (n, t) ← readNumber (c :: t)
      match n.filter (· < limit) with
      | some n => .ok (n, t)
      | none => .error .mismatch
    else wrongShape (c :: t)

/-- A value, or `null` for none. -/
def readOption {α : Type} (item : Reader α) : Reader (Option α) := fun t =>
  match skipSpace t with
  | 'n' :: t => (readWord "ull" t).map fun t => (none, t)
  | t => (item t).map fun (x, t) => (some x, t)

/-- Go to the next item of a list; none at its closing bracket, which stays. -/
def nextItem (isFirst : Bool) (t : Text) : Except Fault (Option Text) :=
  match skipSpace t with
  | [] => .error .ended
  | ']' :: _ => .ok none
  | c :: t =>
    if isFirst then .ok (some (c :: t))
    else if c = ',' then
      match skipSpace t with
      | [] => .error .ended
      | ']' :: _ => .error .malformed
      | t => .ok (some t)
    else .error .malformed

/-- Take off the closing bracket of a list. -/
def endList (t : Text) : Except Fault Text :=
  match skipSpace t with
  | [] => .error .ended
  | ']' :: t => .ok t
  | _ => .error .malformed

/-- The items of a list up to its closing bracket. -/
def readItems {α : Type} (item : Reader α) : Nat → Bool → Reader (List α)
  | 0, _, _ => .error .ended
  | n + 1, isFirst, t => do
    match ← nextItem isFirst t with
    | none => .ok ([], t)
    | some t =>
      let (x, t) ← item t
      let (xs, t) ← readItems item n false t
      .ok (x :: xs, t)

/-- A list of values of one shape. -/
def readList {α : Type} (item : Reader α) : Reader (List α) := fun t =>
  match skipSpace t with
  | '[' :: t => do
    let (xs, t) ← readItems item (t.length + 1) true t
    let t ← endList t
    .ok (xs, t)
  | t => wrongShape t

/-- Go to the next member of an object: the text after the quote that opens its
name; none at the closing brace, which stays. -/
def nextMember (isFirst : Bool) (t : Text) : Except Fault (Option Text) :=
  match skipSpace t with
  | [] => .error .ended
  | '\x7d' :: _ => .ok none
  | c :: t => do
    let t ←
      if isFirst then .ok (c :: t)
      else if c = ',' then .ok (skipSpace t)
      else .error .malformed
    match t with
    | [] => .error .ended
    | '\x22' :: t => .ok (some t)
    | _ => .error .malformed

/-- Take off the colon after the name of a member. -/
def readColon (t : Text) : Except Fault Text :=
  match skipSpace t with
  | [] => .error .ended
  | ':' :: t => .ok t
  | _ => .error .malformed

/-- Take off the closing brace of an object. -/
def endObject (t : Text) : Except Fault Text :=
  match skipSpace t with
  | [] => .error .ended
  | '\x7d' :: t => .ok t
  | _ => .error .malformed

/-- A field of a record: its name, and how its value goes into the record. -/
structure Field (σ : Type) where
  /-- The name of the field. -/
  name : Text
  /-- Read the value and put it into a record. -/
  read : σ → Reader σ

/-- The fields of a record written as a list: those at the front are there, the
others keep what the record has. -/
def readPositional {σ : Type} : List (Field σ) → Bool → σ → Reader σ
  | [], _, s, t => .ok (s, t)
  | f :: fs, isFirst, s, t => do
    match ← nextItem isFirst t with
    | none => .ok (s, t)
    | some t =>
      let (s, t) ← f.read s t
      readPositional fs false s t

/-- The members of a record written as an object. -/
def readMembers {σ : Type} (fields : List (Field σ)) :
    Nat → Bool → List Text → σ → Reader σ
  | 0, _, _, _, _ => .error .ended
  | n + 1, isFirst, seen, s, t => do
    match ← nextMember isFirst t with
    | none => .ok (s, t)
    | some t =>
      let (name, t) ← readQuoted t
      match fields.find? (·.name = name) with
      | some f =>
        if seen.contains name then .error .mismatch
        else
          let t ← readColon t
          let (s, t) ← f.read s t
          readMembers fields n false (name :: seen) s t
      | none =>
        let t ← readColon t
        let t ← skipAny t
        readMembers fields n false seen s t

/-- A record with these fields, starting from `s`. -/
def readRecord {σ : Type} (fields : List (Field σ)) (s : σ) : Reader σ := fun t =>
  match skipSpace t with
  | '[' :: t => do
    let (s, t) ← readPositional fields true s t
    let t ← endList t
    .ok (s, t)
  | '\x7b' :: t => do
    let (s, t) ← readMembers fields (t.length + 1) true [] s t
    let t ← endObject t
    .ok (s, t)
  | t => wrongShape t

/-- The members of an object whose names are free. -/
def readEntries {α : Type} (value : Reader α) : Nat → Bool → Reader (List (Text × α))
  | 0, _, _ => .error .ended
  | n + 1, isFirst, t => do
    match ← nextMember isFirst t with
    | none => .ok ([], t)
    | some t =>
      let (name, t) ← readQuoted t
      let t ← readColon t
      let (x, t) ← value t
      let (xs, t) ← readEntries value n false t
      .ok ((name, x) :: xs, t)

/-- An object whose names are free, with values of one shape. -/
def readDictionary {α : Type} (value : Reader α) : Reader (List (Text × α)) := fun t =>
  match skipSpace t with
  | '\x7b' :: t => do
    let (xs, t) ← readEntries value (t.length + 1) true t
    let t ← endObject t
    .ok (xs, t)
  | t => wrongShape t

/-- Read a text that holds one value and nothing else. -/
def readWholeText {α : Type} (value : Reader α) (t : Text) : Except Fault α := do
  let (x, t) ← value t
  if (skipSpace t).isEmpty then .ok x else .error .malformed

end Json

end PageHighlight
