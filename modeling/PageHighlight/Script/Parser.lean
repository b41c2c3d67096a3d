/-
  Script/Parser.lean --- reading a script.

  WHAT THIS FILE IS FOR.  The tokens of a script are read from left to right, an
  operator of higher precedence binding its sides first.  Statements are separated
  by semicolons; those that end with a block need none.  What is nested too deeply
  is refused.

  FUEL.  Every function here hands down less fuel than it was given.  How deeply
  they call each other is bounded by the number of tokens, and the fuel is computed
  from that.
-/
import PageHighlight.Script.Basic
import PageHighlight.Script.Token

set_option autoImplicit false

namespace PageHighlight.Script

/-! ## Words -/

/-- The words with a meaning of their own, or kept for one. -/
def keywords : List Text :=
  (["true", "false", "let", "const", "if", "else", "switch", "do", "while", "until", "loop",
    "for", "in", "continue", "break", "return", "throw", "try", "catch", "import", "export", "as",
    "global", "fn", "private", "var", "static", "shared", "goto", "exit", "match", "case",
    "public", "protected", "new", "use", "with", "is", "module", "package", "super", "spawn",
    "thread", "go", "sync", "async", "await", "yield", "default", "void", "null", "nil"]
      : List String).map String.toList

/-- The names of functions that cannot name anything else. -/
def functionNames : List Text :=
  (["print", "debug", "type_of", "eval", "Fn", "call", "curry", "is_def_fn", "is_def_var",
    "is_shared", "this"] : List String).map String.toList

/-- Whether a word may name a variable. -/
def isVariable (t : Text) : Bool := !keywords.contains t && !functionNames.contains t

/-! ## Operators -/

/-- An operator with two sides. -/
inductive TwoSided where
  | binary (op : BinaryOp)
  | logic (op : LogicOp)

/-- The operators with two sides, with their precedences. -/
def twoSidedOps : List (Token × TwoSided × Nat) :=
  [(.symbol "||", .logic .or, 30), (.symbol "&&", .logic .and, 60),
   (.symbol "==", .binary .equal, 90), (.symbol "!=", .binary .notEqual, 90),
   (.word "in", .binary .member, 110), (.symbol "<", .binary .less, 130),
   (.symbol "<=", .binary .lessEqual, 130), (.symbol ">", .binary .greater, 130),
   (.symbol ">=", .binary .greaterEqual, 130), (.symbol "..", .binary .rangeTo, 140),
   (.symbol "..=", .binary .rangeThrough, 140), (.symbol "+", .binary .add, 150),
   (.symbol "-", .binary .sub, 150), (.symbol "*", .binary .mul, 180),
   (.symbol "/", .binary .div, 180), (.symbol "%", .binary .rem, 180),
   (.symbol "**", .binary .pow, 190)]

/-- The operator that a token is. -/
def twoSided? (t : Token) : Option (TwoSided × Nat) := (twoSidedOps.find? (·.1 = t)).map (·.2)

/-- The precedence that the right side of an operator must have at least; powers
bind to the right. -/
def rightPrecedence : TwoSided → Nat → Nat
  | .binary .pow, n => n
  | _, n => n + 1

/-- An operator with its two sides. -/
def TwoSided.apply : TwoSided → Expr → Expr → Expr
  | .binary op, a, b => .binary op a b
  | .logic op, a, b => .logic op a b

/-- The assignments, each with the operator that is applied first. -/
def assignments : List (Token × Option BinaryOp) :=
  [(.symbol "=", none), (.symbol "+=", some .add), (.symbol "-=", some .sub),
   (.symbol "*=", some .mul), (.symbol "/=", some .div), (.symbol "%=", some .rem),
   (.symbol "**=", some .pow)]

/-- The assignment that a token is. -/
def assignment? (t : Token) : Option (Option BinaryOp) :=
  (assignments.find? (·.1 = t)).map (·.2)

/-! ## Places -/

/-- How deeply expressions and statements may be nested. -/
def maxLevel : Nat := 64

/-- Where in a script something is read. -/
structure Surroundings where
  /-- How deeply it is nested. -/
  level : Nat
  /-- Whether it is in a loop. -/
  inLoop : Bool
  /-- Whether functions may be defined here. -/
  isTop : Bool
  /-- The variables that are known, the last one first, and which are constant. -/
  known : List (Text × Bool)

namespace Surroundings

/-- The surroundings of a script. -/
def top : Surroundings := ⟨0, false, true, []⟩

/-- One level further in. -/
def deeper? (p : Surroundings) : Option Surroundings :=
  if p.level < maxLevel then some { p with level := p.level + 1 } else none

/-- With a further variable. -/
def declare (name : Text) (constant : Bool) (p : Surroundings) : Surroundings :=
  { p with known := (name, constant) :: p.known }

/-- Whether a variable is known to be constant. -/
def isConstant (name : Text) (p : Surroundings) : Bool :=
  ((p.known.find? (·.1 = name)).map (·.2)).getD false

end Surroundings

/-! ## Reading -/

/-- Read a token that must come. -/
def expect (t : Token) : List Token → Option (List Token)
  | u :: ts => if u = t then some ts else none
  | [] => none

/-- Read the name of a variable. -/
def readVariable : List Token → Option (Text × List Token)
  | .word w :: ts => if isVariable w then some (w, ts) else none
  | _ => none

/-- Read the names of parameters, up to the parenthesis after them. -/
def readParameters : (fuel : Nat) → List Token → Option (List Text × List Token)
  | 0, _ => none
  | fuel + 1, ts =>
    if ts.head? = some (.symbol ")") then some ([], ts.tail)
    else do
      let (name, ts) ← readVariable ts
      if ts.head? = some (.symbol ",") then
        let (names, ts) ← readParameters fuel ts.tail
        if names.contains name then none else some (name :: names, ts)
      else some ([name], ← expect (.symbol ")") ts)

/-- Something at the place of a statement. -/
inductive Item where
  | empty
  | statement (s : Stmt)
  | function (f : Function)

namespace Stmt

/-- Whether a statement needs no semicolon. -/
def endsItself : Stmt → Bool
  | block _ | branch _ _ _ | whileLoop _ _ | endlessLoop _ | forLoop _ _ _ _ => true
  | _ => false

end Stmt

namespace Item

/-- Whether what follows may come without a semicolon. -/
def endsItself : Item → Bool
  | statement s => s.endsItself
  | _ => true

end Item

/-- Whether no statement can begin with what follows. -/
def atEnd : List Token → Bool
  | [] => true
  | .symbol ['\x7d'] :: _ => true
  | .between _ :: _ => true
  | .closing _ :: _ => true
  | _ => false

mutual

/-- Read an expression. -/
def readExpr : (fuel : Nat) → Surroundings → List Token → Option (Expr × List Token)
  | 0, _, _ => none
  | fuel + 1, p, ts => do
    let p ← p.deeper?
    readBinary fuel p 0 ts

/-- Read an expression whose operators have a precedence at least. -/
def readBinary : (fuel : Nat) → Surroundings → (precedence : Nat) → List Token →
    Option (Expr × List Token)
  | 0, _, _, _ => none
  | fuel + 1, p, precedence, ts => do
    let (e, ts) ← readUnary fuel p ts
    readOperators fuel p precedence e ts

/-- Read the operators that follow a left side, with their right sides. -/
def readOperators : (fuel : Nat) → Surroundings → (precedence : Nat) → (left : Expr) → List Token →
    Option (Expr × List Token)
  | 0, _, _, _, _ => none
  | fuel + 1, p, precedence, left, ts =>
    match ts.head?.bind twoSided? with
    | none => some (left, ts)
    | some (op, n) =>
      if n < precedence then some (left, ts)
      else do
        let (right, ts) ← readBinary fuel p (rightPrecedence op n) ts.tail
        let p ← p.deeper?
        readOperators fuel p precedence (op.apply left right) ts

/-- Read an expression that no operator with two sides is part of. -/
def readUnary : (fuel : Nat) → Surroundings → List Token → Option (Expr × List Token)
  | 0, _, _ => none
  | fuel + 1, p, ts => do
    match ts with
    | .symbol ['-'] :: .int n :: rest =>
      readTail fuel p (.literal ((Value.ofInt? (-n)).getD .real)) rest
    | .symbol ['-'] :: rest =>
      let (e, rest) ← readUnary fuel (← p.deeper?) rest
      some (.unary .negate e, rest)
    | .symbol ['+'] :: rest =>
      let (e, rest) ← readUnary fuel (← p.deeper?) rest
      some (.unary .plus e, rest)
    | .symbol ['!'] :: rest =>
      let (e, rest) ← readUnary fuel (← p.deeper?) rest
      some (.unary .not e, rest)
    | ts =>
      let p ← p.deeper?
      let (e, ts) ← readPrimary fuel p ts
      readTail fuel p e ts

/-- Read an expression that begins with no operator, without what may follow it. -/
def readPrimary : (fuel : Nat) → Surroundings → List Token → Option (Expr × List Token)
  | 0, _, _ => none
  | fuel + 1, p, ts => do
    match ts with
    | .int n :: rest => some (.literal ((Value.ofInt? n).getD .real), rest)
    | .real :: rest => some (.literal .real, rest)
    | .text t :: rest => some (.literal (.text t), rest)
    | .char c :: rest => some (.literal (.char c), rest)
    | .opening t :: rest =>
      let (es, rest) ← readPieces fuel (← p.deeper?) rest
      some (.pieces (.literal (.text t) :: es), rest)
    | .symbol ['('] :: .symbol [')'] :: rest => some (.literal .unit, rest)
    | .symbol ['('] :: rest =>
      let (e, rest) ← readExpr fuel (← p.deeper?) rest
      some (e, ← expect (.symbol ")") rest)
    | .symbol ['['] :: rest =>
      let (es, rest) ← readList fuel (← p.deeper?) (.symbol "]") rest
      some (.array es, rest)
    | .symbol ['\x7b'] :: _ =>
      let (ss, rest) ← readBlock fuel (← p.deeper?) ts
      some (.statement (.block ss), rest)
    | .word w :: rest =>
      if w = "true".toList then some (.literal (.bool true), rest)
      else if w = "false".toList then some (.literal (.bool false), rest)
      else if rest.head? = some (.symbol "(") then
        if keywords.contains w then none
        else
          let (es, rest) ← readList fuel (← p.deeper?) (.symbol ")") rest.tail
          some (.call w es, rest)
      else if isVariable w || w = "this".toList then some (.name w, rest)
      else
        let (s, rest) ← readCompound fuel p ts
        some (.statement s, rest)
    | _ => none

/-- Read what may follow an expression: calls and indices. -/
def readTail : (fuel : Nat) → Surroundings → Expr → List Token → Option (Expr × List Token)
  | 0, _, _, _ => none
  | fuel + 1, p, e, ts => do
    match ts with
    | .symbol ['['] :: rest =>
      let (i, rest) ← readExpr fuel (← p.deeper?) rest
      readTail fuel p (.index e i) (← expect (.symbol "]") rest)
    | .symbol ['.'] :: .word w :: .symbol ['('] :: rest =>
      if keywords.contains w then none
      else
        let (es, rest) ← readList fuel (← p.deeper?) (.symbol ")") rest
        readTail fuel p (.method e w es) rest
    | .symbol ['.'] :: .word w :: rest =>
      if isVariable w then readTail fuel p (.method e w []) rest else none
    | .symbol ['.'] :: _ => none
    | ts => some (e, ts)

/-- Read expressions with commas between them, up to a token. -/
def readList : (fuel : Nat) → Surroundings → (close : Token) → List Token →
    Option (List Expr × List Token)
  | 0, _, _, _ => none
  | fuel + 1, p, close, ts =>
    if ts.head? = some close then some ([], ts.tail)
    else do
      let (e, ts) ← readExpr fuel p ts
      if ts.head? = some (.symbol ",") then
        let (es, ts) ← readList fuel p close ts.tail
        some (e :: es, ts)
      else some ([e], ← expect close ts)

/-- Read the pieces of script in a text, with the texts after them. -/
def readPieces : (fuel : Nat) → Surroundings → List Token → Option (List Expr × List Token)
  | 0, _, _ => none
  | fuel + 1, p, ts => do
    let ((ss, _), ts) ← readStatements fuel { p with isTop := false } ts
    let piece : Expr := .statement (.block ss)
    match ts with
    | .between t :: rest =>
      let (es, rest) ← readPieces fuel p rest
      some (piece :: .literal (.text t) :: es, rest)
    | .closing t :: rest => some ([piece, .literal (.text t)], rest)
    | _ => none

/-- Read a block. -/
def readBlock : (fuel : Nat) → Surroundings → List Token → Option (List Stmt × List Token)
  | 0, _, _ => none
  | fuel + 1, p, ts => do
    let p ← p.deeper?
    let ((ss, _), ts) ← readStatements fuel { p with isTop := false }
      (← expect (.symbol "\x7b") ts)
    some (ss, ← expect (.symbol "\x7d") ts)

/-- Read a statement that begins with a keyword and may also be an expression. -/
def readCompound : (fuel : Nat) → Surroundings → List Token → Option (Stmt × List Token)
  | 0, _, _ => none
  | fuel + 1, p, ts => do
    let p ← p.deeper?
    let loop := { p with inLoop := true }
    match ts with
    | .word ['i', 'f'] :: rest =>
      let (condition, rest) ← readExpr fuel p rest
      let (yes, rest) ← readBlock fuel p rest
      match rest with
      | .word ['e', 'l', 's', 'e'] :: .word ['i', 'f'] :: _ =>
        let (no, rest) ← readCompound fuel p rest.tail
        some (.branch condition yes [no], rest)
      | .word ['e', 'l', 's', 'e'] :: rest =>
        let (no, rest) ← readBlock fuel p rest
        some (.branch condition yes no, rest)
      | rest => some (.branch condition yes [], rest)
    | .word ['w', 'h', 'i', 'l', 'e'] :: rest =>
      let (condition, rest) ← readExpr fuel p rest
      let (body, rest) ← readBlock fuel loop rest
      some (.whileLoop condition body, rest)
    | .word ['l', 'o', 'o', 'p'] :: rest =>
      let (body, rest) ← readBlock fuel loop rest
      some (.endlessLoop body, rest)
    | .word ['d', 'o'] :: rest =>
      let (body, rest) ← readBlock fuel loop rest
      match rest with
      | .word w :: rest =>
        if w = "while".toList || w = "until".toList then
          let (condition, rest) ← readExpr fuel p rest
          some (.untilLoop body condition (w = "while".toList), rest)
        else none
      | _ => none
    | .word ['f', 'o', 'r'] :: rest =>
      let ((name, counter), rest) ← match rest with
        | .symbol ['('] :: rest => do
          let (name, rest) ← readVariable rest
          let (counter, rest) ← readVariable (← expect (.symbol ",") rest)
          if counter = name then none
          else some ((name, some counter), ← expect (.symbol ")") rest)
        | rest => do
          let (name, rest) ← readVariable rest
          some ((name, none), rest)
      let (values, rest) ← readExpr fuel p (← expect (.word "in") rest)
      let inner := counter.toList.foldl (fun p n => p.declare n false) (loop.declare name false)
      let (body, rest) ← readBlock fuel inner rest
      some (.forLoop name counter values body, rest)
    | _ => none

/-- Read the expression that may follow a keyword. -/
def readOptional : (fuel : Nat) → Surroundings → List Token → Option (Option Expr × List Token)
  | 0, _, _ => none
  | fuel + 1, p, ts =>
    if atEnd ts || ts.head? = some (.symbol ";") then some (none, ts)
    else (readExpr fuel p ts).map fun (e, ts) => (some e, ts)

/-- Read a statement that begins with an expression. -/
def readSimple : (fuel : Nat) → Surroundings → List Token → Option (Stmt × List Token)
  | 0, _, _ => none
  | fuel + 1, p, ts => do
    let (e, ts) ← readExpr fuel p ts
    match ts.head?.bind assignment? with
    | none => some (.expr e, ts)
    | some op =>
      let (value, rest) ← readExpr fuel (← p.deeper?) ts.tail
      match e with
      | .name n => if p.isConstant n then none else some (.assign n op value, rest)
      | .index _ _ => some (.assignPart e op value, rest)
      | .method _ _ [] => some (.assignPart e op value, rest)
      | _ => none

/-- Read a statement or a function; also the surroundings of what follows. -/
def readItem : (fuel : Nat) → Surroundings → List Token →
    Option ((Item × Surroundings) × List Token)
  | 0, _, _ => none
  | fuel + 1, p, ts => do
    let done (s : Stmt) (rest : List Token) : Option ((Item × Surroundings) × List Token) :=
      some ((.statement s, p), rest)
    match ts with
    | .symbol [';'] :: rest => some ((.empty, p), rest)
    | .symbol ['\x7b'] :: _ =>
      let (ss, rest) ← readBlock fuel p ts
      done (.block ss) rest
    | .word w :: rest =>
      if w = "let".toList || w = "const".toList then
        let constant := w = "const".toList
        let (name, rest) ← readVariable rest
        let (value, rest) ← match rest with
          | .symbol ['='] :: rest => do
            let (e, rest) ← readExpr fuel (← p.deeper?) rest
            some (some e, rest)
          | rest => some (none, rest)
        some ((.statement (.declare name constant value), p.declare name constant), rest)
      else if w = "return".toList then
        let (e, rest) ← readOptional fuel p rest
        done (.giveBack e) rest
      else if w = "throw".toList then
        let (e, rest) ← readOptional fuel p rest
        done (.throwValue e) rest
      else if w = "break".toList then
        if p.inLoop then
          let (e, rest) ← readOptional fuel p rest
          done (.breakLoop e) rest
        else none
      else if w = "continue".toList then
        if p.inLoop then done .continueLoop rest else none
      else if w = "fn".toList || w = "private".toList then
        if p.isTop then
          let rest ← if w = "private".toList then expect (.word "fn") rest else some rest
          match rest with
          | .word name :: rest =>
            if keywords.contains name then none
            else
              let (parameters, rest) ← readParameters fuel (← expect (.symbol "(") rest)
              let inner := parameters.foldl (fun p n => p.declare n false)
                { Surroundings.top with isTop := false }
              let (body, rest) ← readBlock fuel inner rest
              some ((.function ⟨name, parameters, body⟩, p), rest)
          | _ => none
        else none
      else if ["if".toList, "while".toList, "loop".toList, "do".toList, "for".toList].contains w
      then
        let (s, rest) ← readCompound fuel p ts
        done s rest
      else
        let (s, rest) ← readSimple fuel p ts
        done s rest
    | _ =>
      let (s, rest) ← readSimple fuel p ts
      done s rest

/-- Read statements and functions up to the end of what they are in. -/
def readStatements : (fuel : Nat) → Surroundings → List Token →
    Option ((List Stmt × List Function) × List Token)
  | 0, _, _ => none
  | fuel + 1, p, ts =>
    if atEnd ts then some (([], []), ts)
    else do
      let ((item, p), ts) ← readItem fuel p ts
      let ts ←
        if item.endsItself || atEnd ts then some ts else expect (.symbol ";") ts
      let ((ss, fs), ts) ← readStatements fuel p ts
      match item with
      | .empty => some ((ss, fs), ts)
      | .statement s => some ((s :: ss, fs), ts)
      | .function f => some ((ss, f :: fs), ts)

end

end PageHighlight.Script

namespace PageHighlight.Script

/-- Whether no two functions have both name and number of parameters in common. -/
def distinctFunctions : List Function → Bool
  | [] => true
  | f :: fs =>
    !(fs.any fun g => g.name = f.name && g.parameters.length = f.parameters.length)
      && distinctFunctions fs

/-- The script that a text is. -/
def ofText? (t : Text) : Option Script := do
  let tokens ← Token.ofScript t
  let ((statements, functions), rest) ←
    readStatements (32 * (tokens.length + 1)) Surroundings.top tokens
  if rest.isEmpty && distinctFunctions functions then some ⟨functions, statements⟩ else none

end PageHighlight.Script
