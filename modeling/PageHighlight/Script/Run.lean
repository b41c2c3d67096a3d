/-
  Script/Run.lean --- running a script.

  WHAT THIS FILE IS FOR.  A small language for scripts, so that the program can be run
  where no other one is at hand (`Script.language`).  What scripts can do is said of every
  language in `Script/Calls`; nothing there rests on this one.

  RUNS.  A script runs statement by statement, and notes its calls of functions that
  change the configuration.  Every expression and every statement is an operation, and so
  is every call and every round of a loop; a script that needs too many of them is stopped.

  FUEL.  Every function here hands down less fuel than it was given.  Rounds of
  loops are operations, so that how deeply the functions call each other is bounded
  by the operations and by the nesting of the script; the fuel is computed from
  both.
-/
import PageHighlight.Script.Calls
import PageHighlight.Script.Operators
import PageHighlight.Script.Parser

set_option autoImplicit false

namespace PageHighlight.Script

/-! ## Faults -/

/-- What goes wrong when a script is run. -/
inductive Fault where
  /-- there is no function of this name for these arguments -/
  | unknownFunction (name : Text)
  | unknownVariable (name : Text)
  /-- the value of a constant cannot change -/
  | constant (name : Text)
  /-- a value is of the wrong kind -/
  | wrongKind
  /-- an operator cannot be applied, or its result does not fit -/
  | operator
  /-- functions call each other too deeply -/
  | tooDeep
  /-- it needs too many operations -/
  | tooLong
  /-- it says so itself -/
  | thrown (v : Text)
  deriving DecidableEq, Repr, Inhabited

namespace Fault

/-- A fault as it is told. -/
def message : Fault → Text
  | unknownFunction name => "Function not found: ".toList ++ name
  | unknownVariable name => "Variable not found: ".toList ++ name
  | constant name => "Cannot modify constant: ".toList ++ name
  | wrongKind => "Data type incorrect"
  | operator => "Arithmetic error"
  | tooDeep => "Stack overflow"
  | tooLong => "Too many operations"
  | thrown v => "Runtime error: ".toList ++ v

end Fault

/-! ## The state of a run -/

/-- A variable. -/
structure Variable where
  name : Text
  value : Value
  /-- Whether it never changes. -/
  constant : Bool

/-- The state of a run. -/
structure State where
  /-- The configuration that the script found. -/
  found : Config
  /-- The calls that change it, the last one first. -/
  calls : List Call
  /-- The variables in sight, the last one first. -/
  bindings : List Variable
  /-- How many operations there were. -/
  operations : Nat
  /-- How deeply functions call each other. -/
  depth : Nat

/-- The configuration as it was changed so far. -/
def State.config (s : State) : Config := runCalls s.calls.reverse s.found

/-- Why what was being run does not go on. -/
inductive Exit where
  | fault (f : Fault)
  /-- the function is left, with a value -/
  | giveBack (v : Value)
  /-- the loop is left, with a value -/
  | breakLoop (v : Value)
  /-- the round of the loop is over -/
  | continueLoop

/-- A part of a run. -/
abbrev Action (α : Type) : Type := ExceptT Exit (StateM State) α

/-- How many operations a run may have. -/
def maxOperations : Nat := 100000

/-- How deeply functions may call each other. -/
def maxDepth : Nat := 64

/-- Something is wrong. -/
def fail {α : Type} (f : Fault) : Action α := throw (.fault f)

/-- What is there, unless something is wrong. -/
def orFail {α : Type} (f : Fault) : Option α → Action α
  | some x => pure x
  | none => fail f

/-- Count an operation. -/
def tick : Action Unit := do
  modify fun s => { s with operations := s.operations + 1 }
  if (← get).operations > maxOperations then fail .tooLong

/-! ## Variables -/

/-- The value of a variable. -/
def lookup (name : Text) : Action Value := do
  match (← get).bindings.find? (·.name = name) with
  | some v => pure v.value
  | none => fail (.unknownVariable name)

/-- A further variable. -/
def declare (name : Text) (value : Value) (constant : Bool) : Action Unit :=
  modify fun s => { s with bindings := ⟨name, value, constant⟩ :: s.bindings }

/-- The variables with the value of the first one of a name replaced. -/
def setFirst (name : Text) (value : Value) : List Variable → List Variable
  | [] => []
  | v :: vs =>
    if v.name = name then { v with value := value } :: vs else v :: setFirst name value vs

/-- Change the value of a variable. -/
def update (name : Text) (f : Value → Option Value) : Action Unit := do
  match (← get).bindings.find? (·.name = name) with
  | none => fail (.unknownVariable name)
  | some v =>
    if v.constant then fail (.constant name)
    else
      let value ← orFail .operator (f v.value)
      modify fun s => { s with bindings := setFirst name value s.bindings }

/-- Run something whose variables are forgotten when it is over, however it ends. -/
def inBlock {α : Type} (a : Action α) : Action α := fun s =>
  let count := s.bindings.length
  let (r, s) := a s
  (r, { s with bindings := s.bindings.drop (s.bindings.length - count) })

/-! ## Functions -/

/-- A value as an argument of a call. -/
def Value.argument : Value → Argument
  | .text t => .text t
  | .int n => .int n
  | _ => .other

/-- Call a function that every script has. -/
def callBuiltIn (name : Text) (arguments : List Value) : Action Value := do
  let call : Call := ⟨name, arguments.map Value.argument⟩
  match call.change? with
  | some _ =>
    modify fun s => { s with calls := call :: s.calls }
    pure .unit
  | none =>
    let is (n : String) : Bool := name = n.toList
    match arguments with
    | [] =>
      if is "get_default_theme" then pure (.text (← get).config.defaultTheme)
      else if is "print" then pure (.text [])
      else fail (.unknownFunction name)
    | [v] =>
      if is "print" || is "debug" then pure .unit
      else if is "to_string" then pure (.text v.display)
      else if is "to_debug" then pure (.text v.inspect)
      else
        match v with
        | .text t =>
          if is "len" then pure (.int t.length)
          else if is "is_empty" then pure (.bool t.isEmpty)
          else fail (.unknownFunction name)
        | .array vs =>
          if is "len" then pure (.int vs.length)
          else if is "is_empty" then pure (.bool vs.isEmpty)
          else fail (.unknownFunction name)
        | .int n =>
          if is "abs" then orFail .operator (Value.ofInt? n.natAbs)
          else fail (.unknownFunction name)
        | _ => fail (.unknownFunction name)
    | [a, b] =>
      if is "contains" then orFail (.unknownFunction name) (b.member? a)
      else if is "range" then orFail (.unknownFunction name) (Value.binary? .rangeTo a b)
      else fail (.unknownFunction name)
    | _ => fail (.unknownFunction name)

/-- A value that must be true or false. -/
def asBool : Value → Action Bool
  | .bool b => pure b
  | _ => fail .wrongKind

/-- The values that a loop runs through. -/
def members? : Value → Option (List Value)
  | .array vs => some vs
  | .text t => some (t.map .char)
  | .range first last =>
    some ((List.range (min (last - first).toNat (maxOperations + 1))).map fun k =>
      .int (first + Int.ofNat k))
  | _ => none

/-! ## Running -/

mutual

/-- Compute the value of an expression. -/
def eval (fs : List Function) : (fuel : Nat) → Expr → Action Value
  | 0, _ => fail .tooLong
  | fuel + 1, e => do
    tick
    match e with
    | .literal v => pure v
    | .name n => lookup n
    | .array es => return .array (← evalAll fs fuel es)
    | .call name es => call fs fuel name (← evalAll fs fuel es)
    | .method target name es =>
      match target, name, es with
      | .name n, ['p', 'u', 's', 'h'], [e] =>
        let v ← eval fs fuel e
        update n fun
          | .array vs => some (.array (vs ++ [v]))
          | _ => none
        pure .unit
      | _, _, _ =>
        let v ← eval fs fuel target
        call fs fuel name (v :: (← evalAll fs fuel es))
    | .index target i =>
      let v ← eval fs fuel target
      orFail .operator (v.at? (← eval fs fuel i))
    | .unary op e => orFail .operator (Value.unary? op (← eval fs fuel e))
    | .binary op a b =>
      let v ← eval fs fuel a
      orFail .operator (Value.binary? op v (← eval fs fuel b))
    | .logic op a b =>
      let v ← asBool (← eval fs fuel a)
      if v = (op == .or) then pure (.bool v) else return .bool (← asBool (← eval fs fuel b))
    | .pieces es => return .text ((← evalAll fs fuel es).flatMap Value.display)
    | .statement s => exec fs fuel s

/-- Compute the values of expressions. -/
def evalAll (fs : List Function) : (fuel : Nat) → List Expr → Action (List Value)
  | 0, _ => fail .tooLong
  | _ + 1, [] => pure []
  | fuel + 1, e :: es => do
    let v ← eval fs fuel e
    return v :: (← evalAll fs fuel es)

/-- Call a function; those of the script go first. -/
def call (fs : List Function) : (fuel : Nat) → Text → List Value → Action Value
  | 0, _, _ => fail .tooLong
  | fuel + 1, name, arguments => do
    tick
    match fs.find? fun f => f.name = name && f.parameters.length = arguments.length with
    | none => callBuiltIn name arguments
    | some f =>
      let outer ← get
      if outer.depth ≥ maxDepth then fail .tooDeep
      else
        set { outer with
          depth := outer.depth + 1
          bindings := (List.zipWith (fun n v => Variable.mk n v false) f.parameters
            arguments).reverse }
        let result ← fun s => match execAll fs fuel f.body s with
          | (.error (.giveBack v), s) => (.ok v, s)
          | r => r
        modify fun s => { s with depth := outer.depth, bindings := outer.bindings }
        pure result

/-- Run a statement; its value is of use only where it is the last one. -/
def exec (fs : List Function) : (fuel : Nat) → Stmt → Action Value
  | 0, _ => fail .tooLong
  | fuel + 1, s => do
    tick
    match s with
    | .expr (.call name es) => call fs fuel name (← evalAll fs fuel es)
    | .expr e => eval fs fuel e
    | .declare name constant value =>
      let v ← match value with
        | some e => eval fs fuel e
        | none => pure .unit
      declare name v constant
      pure .unit
    | .assign name op e =>
      let v ← eval fs fuel e
      update name fun old => match op with
        | none => some v
        | some op => Value.binary? op old v
      pure .unit
    | .assignPart target op e =>
      let v ← eval fs fuel e
      match target with
      | .index (.name n) i =>
        let i ← eval fs fuel i
        update n fun old => do
          let new ← match op with
            | none => some v
            | some op => Value.binary? op (← old.at? i) v
          old.setAt? i new
        pure .unit
      | _ => fail .operator
    | .block ss => inBlock (execAll fs fuel ss)
    | .branch condition yes no =>
      if ← asBool (← eval fs fuel condition) then inBlock (execAll fs fuel yes)
      else inBlock (execAll fs fuel no)
    | .whileLoop (.literal (.bool true)) body => runWhile fs fuel none body
    | .whileLoop condition body => runWhile fs fuel (some condition) body
    | .untilLoop body condition on => runUntil fs fuel body condition on
    | .endlessLoop body => runWhile fs fuel none body
    | .forLoop name counter values body =>
      let vs ← orFail .wrongKind (members? (← eval fs fuel values))
      runFor fs fuel name counter body 0 vs
    | .breakLoop none => throw (.breakLoop .unit)
    | .breakLoop (some e) => throw (.breakLoop (← eval fs fuel e))
    | .continueLoop => throw .continueLoop
    | .giveBack none => throw (.giveBack .unit)
    | .giveBack (some e) => throw (.giveBack (← eval fs fuel e))
    | .throwValue none => fail (.thrown [])
    | .throwValue (some e) => fail (.thrown (← eval fs fuel e).display)

/-- Run statements; their value is that of the last one. -/
def execAll (fs : List Function) : (fuel : Nat) → List Stmt → Action Value
  | 0, _ => fail .tooLong
  | _ + 1, [] => pure .unit
  | fuel + 1, [s] => exec fs fuel s
  | fuel + 1, s :: ss => do
    let _ ← exec fs fuel s
    execAll fs fuel ss

/-- Run the body of a loop once; the value that the loop is left with, if it is
left.  A round of a loop without a body is an operation too. -/
def runBody (fs : List Function) : (fuel : Nat) → List Stmt → Action (Option Value)
  | 0, _ => fail .tooLong
  | fuel + 1, body => do
    if body.isEmpty then tick
    fun s => match inBlock (execAll fs fuel body) s with
      | (.ok _, s) => (.ok none, s)
      | (.error .continueLoop, s) => (.ok none, s)
      | (.error (.breakLoop v), s) => (.ok (some v), s)
      | (.error e, s) => (.error e, s)

/-- Run a loop whose condition, if it has one, is looked at before the body. -/
def runWhile (fs : List Function) : (fuel : Nat) → Option Expr → List Stmt → Action Value
  | 0, _, _ => fail .tooLong
  | fuel + 1, condition, body => do
    let on ← match condition with
      | some e => do asBool (← eval fs fuel e)
      | none => pure true
    if on then
      match ← runBody fs fuel body with
      | some v => pure v
      | none => runWhile fs fuel condition body
    else pure .unit

/-- Run a loop whose condition is looked at after the body. -/
def runUntil (fs : List Function) : (fuel : Nat) → List Stmt → Expr → Bool → Action Value
  | 0, _, _, _ => fail .tooLong
  | fuel + 1, body, condition, on => do
    match ← runBody fs fuel body with
    | some v => pure v
    | none =>
      if (← asBool (← eval fs fuel condition)) = on then runUntil fs fuel body condition on
      else pure .unit

/-- Run the body of a loop for each of some values. -/
def runFor (fs : List Function) : (fuel : Nat) → Text → Option Text → List Stmt → (count : Nat) →
    List Value → Action Value
  | 0, _, _, _, _, _ => fail .tooLong
  | _ + 1, _, _, _, _, [] => pure .unit
  | fuel + 1, name, counter, body, count, v :: vs => do
    let left ← inBlock do
      match counter with
      | some n => declare n (.int count) false
      | none => pure ()
      declare name v false
      tick
      runBody fs fuel body
    match left with
    | some v => pure v
    | none => runFor fs fuel name counter body (count + 1) vs

end

/-! ## Scripts -/

/-- Run a script on a configuration. -/
def run (fuel : Nat) (script : Script) (c : Config) : Run :=
  match execAll script.functions fuel script.statements ⟨c, [], [], 0, 0⟩ with
  | (.error (.fault f), s) => ⟨s.calls.reverse, some f.message⟩
  | (_, s) => ⟨s.calls.reverse, none⟩

/-- The fuel for a script of a length: every operation may nest once more, and
every function that is called as deeply as the script is written. -/
def fuelFor (length : Nat) : Nat := maxOperations + 64 * (maxDepth + 1) * (length + 2)

/-- The language of these scripts.  A program is a script with the fuel for it. -/
def language : ScriptLanguage where
  Program := Script × Nat
  compile t :=
    match ofText? t with
    | some script => .ok (script, fuelFor t.length)
    | none => .error "the script cannot be read"
  run p c := p.1.run p.2 c

end PageHighlight.Script
