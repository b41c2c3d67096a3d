/-
  Script/Basic.lean --- what a script consists of, and the values it computes.

  WHAT THIS FILE IS FOR.  A script is a list of statements and functions.  Its
  values are few, since all that a script can do is to compute arguments for the
  functions that change a configuration.
-/
import PageHighlight.Text.Quoted

set_option autoImplicit false

namespace PageHighlight.Script

/-! ## Values -/

/-- A value. -/
inductive Value where
  | unit
  | bool (b : Bool)
  /-- a whole number of 64 bits -/
  | int (n : Int)
  /-- a number that is not whole, or too large; nothing can be done with it -/
  | real
  | text (t : Text)
  | char (c : Char)
  | array (vs : List Value)
  /-- the whole numbers from the first one up to the last one, which is not among
  them -/
  | range (first last : Int)
  deriving Inhabited

namespace Value

/-- A whole number, if it has 64 bits. -/
def ofInt? (n : Int) : Option Value :=
  if -(Int.pow 2 63) ≤ n ∧ n < Int.pow 2 63 then some (int n) else none

/-- The digits of a whole number. -/
def intText (n : Int) : Text :=
  if n < 0 then '-' :: Text.ofNat n.natAbs else Text.ofNat n.natAbs

mutual

/-- A value inside a text that shows a list. -/
def inspect : Value → Text
  | unit => "()"
  | bool b => if b then "true" else "false"
  | int n => intText n
  | real => "?"
  | text t => Text.quoted t
  | char c => ['\x27', c, '\x27']
  | array vs => ['['] ++ Text.join ", ".toList (inspectAll vs) ++ [']']
  | range first last => intText first ++ "..".toList ++ intText last

/-- Values inside a text that shows a list. -/
def inspectAll : List Value → List Text
  | [] => []
  | v :: vs => inspect v :: inspectAll vs

end

/-- A value as a text. -/
def display : Value → Text
  | unit => []
  | text t => t
  | char c => [c]
  | v => inspect v

mutual

/-- Whether two values are the same. -/
def same : Value → Value → Bool
  | unit, unit => true
  | bool a, bool b => a = b
  | int a, int b => a = b
  | text a, text b => a = b
  | char a, char b => a = b
  | array as, array bs => sameAll as bs
  | range a b, range c d => a = c && b = d
  | _, _ => false

/-- Whether two lists hold the same values. -/
def sameAll : List Value → List Value → Bool
  | [], [] => true
  | a :: as, b :: bs => same a b && sameAll as bs
  | _, _ => false

end

end Value

/-! ## Expressions and statements -/

/-- The operators with two sides that always look at both. -/
inductive BinaryOp where
  | add
  | sub
  | mul
  | div
  | rem
  | pow
  | equal
  | notEqual
  | less
  | lessEqual
  | greater
  | greaterEqual
  | member
  | rangeTo
  | rangeThrough
  deriving DecidableEq, Repr, Inhabited

/-- The operators with two sides that may look at the first one only. -/
inductive LogicOp where
  | and
  | or
  deriving DecidableEq, Repr, Inhabited

/-- The operators with one side. -/
inductive UnaryOp where
  | negate
  | plus
  | not
  deriving DecidableEq, Repr, Inhabited

mutual

/-- An expression. -/
inductive Expr where
  | literal (v : Value)
  | name (n : Text)
  | array (es : List Expr)
  | call (function : Text) (arguments : List Expr)
  /-- a call whose first argument is written before the name -/
  | method (target : Expr) (function : Text) (arguments : List Expr)
  | index (target i : Expr)
  | unary (op : UnaryOp) (e : Expr)
  | binary (op : BinaryOp) (a b : Expr)
  | logic (op : LogicOp) (a b : Expr)
  /-- a text of several pieces -/
  | pieces (es : List Expr)
  /-- a statement whose value is used -/
  | statement (s : Stmt)

/-- A statement. -/
inductive Stmt where
  | expr (e : Expr)
  | declare (name : Text) (constant : Bool) (value : Option Expr)
  | assign (name : Text) (op : Option BinaryOp) (value : Expr)
  /-- a change of a part of a value -/
  | assignPart (target : Expr) (op : Option BinaryOp) (value : Expr)
  | block (ss : List Stmt)
  | branch (condition : Expr) (yes no : List Stmt)
  | whileLoop (condition : Expr) (body : List Stmt)
  /-- a loop whose condition is looked at after the body; it goes on as long as the
  condition has the value `on` -/
  | untilLoop (body : List Stmt) (condition : Expr) (on : Bool)
  | endlessLoop (body : List Stmt)
  | forLoop (name : Text) (counter : Option Text) (values : Expr) (body : List Stmt)
  | breakLoop (value : Option Expr)
  | continueLoop
  | giveBack (value : Option Expr)
  | throwValue (value : Option Expr)

end

/-- A function of a script. -/
structure Function where
  name : Text
  parameters : List Text
  body : List Stmt

end PageHighlight.Script

namespace PageHighlight

/-- A script. -/
structure Script where
  functions : List Script.Function
  statements : List Script.Stmt

end PageHighlight
