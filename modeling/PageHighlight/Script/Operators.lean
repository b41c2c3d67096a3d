/-
  Script/Operators.lean --- what operators compute.

  WHAT THIS FILE IS FOR.  Numbers are whole and have 64 bits; a result that does
  not fit is a fault, and so is a division by zero.  A text added to anything is
  the text of both.  Values of different kinds are never equal, and none of them is
  less than the other.
-/
import PageHighlight.Script.Basic

set_option autoImplicit false

namespace PageHighlight.Script

namespace Value

/-- The kind of a value, as a number. -/
def kind : Value → Nat
  | unit => 0
  | bool _ => 1
  | int _ => 2
  | real => 3
  | text _ => 4
  | char _ => 5
  | array _ => 6
  | range _ _ => 7

/-- Compare values: whether the second one may come after the first one, by their
order. -/
def ordered? (le : Value → Value → Option Bool) (a b : Value) : Option Value :=
  if a.kind = b.kind then (le a b).map bool else some (bool false)

/-- Whether a value comes before another of its kind, or is the same. -/
def le? : Value → Value → Option Bool
  | int a, int b => some (a ≤ b)
  | text a, text b => some (Text.le a b)
  | char a, char b => some (a ≤ b)
  | _, _ => none

/-- Whether a value comes before another of its kind. -/
def lt? (a b : Value) : Option Bool := (le? b a).map (!·)

/-- An operation on whole numbers. -/
def onInts (f : Int → Int → Option Int) : Value → Value → Option Value
  | int a, int b => (f a b).bind ofInt?
  | _, _ => none

/-- A power of a whole number; one that is sure not to fit is not computed, and high
powers of -1, 0 and 1 depend only on whether the exponent is even. -/
def power? (a b : Int) : Option Int :=
  if b < 0 then none
  else if b < 64 then some (Int.pow a b.toNat)
  else if a.natAbs ≤ 1 then some (Int.pow a ((b % 2).toNat + 2))
  else none

/-- The sum of two values. -/
def add? : Value → Value → Option Value
  | int a, int b => ofInt? (a + b)
  | text a, b => some (text (a ++ b.display))
  | a, text b => some (text (a.display ++ b))
  | char a, char b => some (text [a, b])
  | array as, array bs => some (array (as ++ bs))
  | _, _ => none

/-- Whether a value is among the values of another one. -/
def member? (a : Value) : Value → Option Value
  | array vs => some (bool (vs.any (same a)))
  | text t =>
    match a with
    | text s => some (bool (Text.hasInfix s t))
    | char c => some (bool (t.contains c))
    | _ => none
  | range first last =>
    match a with
    | int n => some (bool (first ≤ n && n < last))
    | _ => some (bool false)
  | _ => none

/-- What an operator computes, unless something is wrong. -/
def binary? (op : BinaryOp) (a b : Value) : Option Value :=
  match op with
  | .add => add? a b
  | .sub => onInts (fun a b => some (a - b)) a b
  | .mul => onInts (fun a b => some (a * b)) a b
  | .div => onInts (fun a b => if b = 0 then none else some (a.tdiv b)) a b
  | .rem => onInts (fun a b => if b = 0 then none else some (a.tmod b)) a b
  | .pow => onInts power? a b
  | .equal => some (bool (same a b))
  | .notEqual => some (bool (!same a b))
  | .less => ordered? lt? a b
  | .lessEqual => ordered? le? a b
  | .greater => ordered? (fun a b => lt? b a) a b
  | .greaterEqual => ordered? (fun a b => le? b a) a b
  | .member => member? a b
  | .rangeTo =>
    match a, b with
    | int a, int b => some (range a b)
    | _, _ => none
  | .rangeThrough =>
    match a, b with
    | int a, int b => some (range a (b + 1))
    | _, _ => none

/-- What an operator with one side computes, unless something is wrong. -/
def unary? (op : UnaryOp) (a : Value) : Option Value :=
  match op, a with
  | .negate, int n => ofInt? (-n)
  | .negate, real => some real
  | .plus, int n => some (int n)
  | .plus, real => some real
  | .not, bool b => some (bool (!b))
  | _, _ => none

/-- The value at an index; a negative one counts from the end. -/
def at? (a i : Value) : Option Value :=
  let place (length : Nat) (n : Int) : Option Nat :=
    if 0 ≤ n then some n.toNat else if n.natAbs ≤ length then some (length - n.natAbs) else none
  match a, i with
  | array vs, int n => (place vs.length n).bind fun k => vs[k]?
  | text t, int n => (place t.length n).bind fun k => (t[k]?).map char
  | _, _ => none

/-- The value with another one put at an index. -/
def setAt? (a i new : Value) : Option Value :=
  match a, i with
  | array vs, int n =>
    let k := if 0 ≤ n then n.toNat else vs.length - n.natAbs
    if n.natAbs ≤ vs.length && k < vs.length then some (array (vs.set k new)) else none
  | _, _ => none

end Value

end PageHighlight.Script
