/-
  CommandLine.lean --- what a command line asks for.

  WHAT THIS FILE IS FOR.  A command line names a command, gives it operands, and
  sets options; one option is common to all commands and may also stand before the
  command.  The arguments are read from left to right.  The value of an option and
  an operand are looked at when the next argument that changes something comes, or
  at the end: until then other faults win.
-/
import PageHighlight.Text.Basic

set_option autoImplicit false

namespace PageHighlight

/-! ## What can be asked for -/

/-- A command with its operands and options. -/
inductive Command where
  /-- render a page, into a file or to the output -/
  | render (input : Text) (output : Option Text) (dark : Bool)
  /-- write the files that pages need into a directory -/
  | assets (directory : Text)
  /-- keep a page rendered -/
  | watch (input output : Text)
  deriving DecidableEq, Repr, Inhabited

/-- What a command line asks for. -/
structure Invocation where
  command : Command
  /-- The file of the configuration. -/
  config : Option Text
  deriving DecidableEq, Repr, Inhabited

/-- The commands. -/
inductive CommandName where
  | render
  | assets
  | watch
  | help
  deriving DecidableEq, Repr, Inhabited

namespace CommandName

/-- The commands as they are written. -/
def names : List (Text × CommandName) :=
  [("render", render), ("assets", assets), ("watch", watch), ("help", help)]

/-- The command of a name. -/
def ofName? (t : Text) : Option CommandName := (names.find? (·.1 = t)).map (·.2)

/-- How many operands a command takes. -/
def operands : CommandName → Nat
  | render | assets => 1
  | watch => 2
  | help => 0

end CommandName

/-- Why a command line cannot be followed, or need not be. -/
inductive UsageFault where
  /-- it asks for help, on a command or in general -/
  | help (about : Option CommandName)
  /-- it asks for the version -/
  | version
  /-- it is empty -/
  | nothing
  /-- it has no command -/
  | noCommand
  /-- there is no such command -/
  | unknownCommand
  /-- there is no such option, or no place for an operand -/
  | unknownArgument
  /-- an operand is missing -/
  | missingOperand
  /-- an option has no value, or a value is empty -/
  | invalidValue
  /-- an option is given twice -/
  | repeated
  /-- an option that takes no value has one -/
  | unneededValue
  deriving DecidableEq, Repr, Inhabited

/-! ## Options -/

/-- The options. -/
inductive CommandOption where
  | config
  | output
  | dark
  | help
  | version
  deriving DecidableEq, Repr, Inhabited

namespace CommandOption

/-- Whether an option takes a value. -/
def takesValue : CommandOption → Bool
  | config | output => true
  | dark | help | version => false

/-- Whether an option may stand after a command, or before any. -/
def isFor : Option CommandName → CommandOption → Bool
  | _, config | _, help => true
  | some c, output | some c, dark => c = .render
  | c, version => c = none
  | none, _ => false

/-- The options by their long names. -/
def longNames : List (Text × CommandOption) :=
  [("config", config), ("output", output), ("dark", dark), ("help", help),
   ("version", version)]

/-- The options by their short names. -/
def shortNames : List (Char × CommandOption) := [('o', output), ('h', help), ('V', version)]

/-- The option of a long name, where it may stand. -/
def ofLong? (place : Option CommandName) (name : Text) : Option CommandOption :=
  ((longNames.find? (·.1 = name)).map (·.2)).filter (isFor place)

/-- The option of a short name, where it may stand. -/
def ofShort? (place : Option CommandName) (c : Char) : Option CommandOption :=
  ((shortNames.find? (·.1 = c)).map (·.2)).filter (isFor place)

end CommandOption

/-! ## Reading -/

/-- What was read and not looked at yet. -/
inductive PendingArgument where
  | none
  /-- an option, and its value if that has come -/
  | option (o : CommandOption) (value : Option Text)
  | operand (value : Text)
  deriving DecidableEq, Repr, Inhabited

/-- What was read of the arguments before a command, or after it. -/
structure Intake where
  /-- What was not looked at yet. -/
  pending : PendingArgument
  /-- The operands. -/
  operands : List Text
  /-- The options with their values. -/
  options : List (CommandOption × Text)
  deriving DecidableEq, Repr, Inhabited

namespace Intake

/-- Nothing was read. -/
def empty : Intake := ⟨.none, [], []⟩

/-- The value of an option. -/
def option? (o : CommandOption) (s : Intake) : Option Text :=
  (s.options.find? (·.1 = o)).map (·.2)

/-- Whether the next argument is the value of an option. -/
def awaitsValue (s : Intake) : Bool :=
  match s.pending with
  | .option _ none => true
  | _ => false

/-- How many operands there are. -/
def operandCount (s : Intake) : Nat :=
  match s.pending with
  | .operand _ => s.operands.length + 1
  | _ => s.operands.length

/-- Note the value of an option; it is given once, and not empty. -/
def addOption (o : CommandOption) (value : Text) (s : Intake) : Except UsageFault Intake :=
  if (s.option? o).isSome then .error .repeated
  else if value.isEmpty then .error .invalidValue
  else .ok { s with options := s.options ++ [(o, value)] }

/-- Look at what is pending. -/
def settle (s : Intake) : Except UsageFault Intake :=
  match s.pending with
  | .none => .ok s
  | .option _ none => .error .invalidValue
  | .option o (some value) => { s with pending := .none }.addOption o value
  | .operand value =>
    if value.isEmpty then .error .invalidValue
    else .ok { s with pending := .none, operands := s.operands ++ [value] }

/-- Read an option that takes a value; the value may be attached. -/
def readValued (o : CommandOption) (value : Option Text) (s : Intake) :
    Except UsageFault Intake := do
  let s ← s.settle
  match value with
  | some v => s.addOption o v
  | none => .ok { s with pending := .option o none }

/-- Read an option that takes no value. -/
def readFlag (place : Option CommandName) (o : CommandOption) (s : Intake) :
    Except UsageFault Intake := do
  let s ← s.settle
  match o with
  | .help => .error (.help place)
  | .version => .error .version
  | o => s.addOption o "set"

/-- Read an option by its long name. -/
def readLong (place : Option CommandName) (name : Text) (value : Option Text) (s : Intake) :
    Except UsageFault Intake :=
  match CommandOption.ofLong? place name with
  | none => .error .unknownArgument
  | some o =>
    if o.takesValue then s.readValued o value
    else if value.isSome then .error .unneededValue
    else s.readFlag place o

/-- Read options by their short names; what follows one that takes a value is the
value. -/
def readShort (place : Option CommandName) : Text → Intake → Except UsageFault Intake
  | [], s => .ok s
  | c :: cs, s =>
    match CommandOption.ofShort? place c with
    | none => .error .unknownArgument
    | some o =>
      if o.takesValue then
        match cs with
        | [] => s.readValued o none
        | '=' :: value => s.readValued o (some value)
        | value => s.readValued o (some value)
      else
        match s.readFlag place o with
        | .error e => .error e
        | .ok s => readShort place cs s

/-- Read an operand, if there is a place for it. -/
def readOperand (place : Option CommandName) (afterDashes : Bool) (value : Text) (s : Intake) :
    Except UsageFault Intake :=
  match place with
  | none =>
    .error (if afterDashes && (CommandName.ofName? value).isSome then .unknownArgument
      else .unknownCommand)
  | some c =>
    if s.operandCount < c.operands then
      s.settle.map fun s => { s with pending := .operand value }
    else .error .unknownArgument

/-- Read what can only be a value or an operand. -/
def readWord (place : Option CommandName) (value : Text) (s : Intake) :
    Except UsageFault Intake :=
  match s.pending with
  | .option o none => .ok { s with pending := .option o (some value) }
  | _ => s.readOperand place false value

/-- A long name with the value attached to it. -/
def splitLong (t : Text) : Text × Option Text :=
  match Text.split? "=" t with
  | some (name, value) => (name, some value)
  | none => (t, none)

/-- Read one argument that is no command. -/
def readArgument (place : Option CommandName) (a : Text) (s : Intake) :
    Except UsageFault Intake :=
  match a with
  | '-' :: '-' :: long =>
    let (name, value) := splitLong long
    s.readLong place name value
  | '-' :: c :: short => s.readShort place (c :: short)
  | _ => s.readWord place a

/-- Read arguments up to a command, if one may come; also the command and what
follows it. -/
def readAll (place : Option CommandName) : (afterDashes : Bool) → List Text → Intake →
    Except UsageFault (Intake × Option (CommandName × List Text))
  | _, [], s => .ok (s, none)
  | true, a :: rest, s =>
    match s.readOperand place true a with
    | .error e => .error e
    | .ok s => readAll place true rest s
  | false, a :: rest, s =>
    match if place.isNone && !s.awaitsValue then CommandName.ofName? a else none with
    | some c => .ok (s, some (c, rest))
    | none =>
      if a = "--".toList then readAll place true rest s
      else
        match s.readArgument place a with
        | .error e => .error e
        | .ok s => readAll place false rest s

end Intake

namespace Invocation

/-- What the command `help` asks for. -/
def readHelp : List Text → UsageFault
  | [] => .help none
  | [a] =>
    match CommandName.ofName? a with
    | some c => .help (some c)
    | none => .unknownCommand
  | _ => .unknownCommand

/-- A command with what was read after it. -/
def commandOf (c : CommandName) (s : Intake) : Except UsageFault Command :=
  match c, s.operands with
  | .render, [input] =>
    .ok (.render input (s.option? .output) (s.option? .dark).isSome)
  | .assets, [directory] => .ok (.assets directory)
  | .watch, [input, output] => .ok (.watch input output)
  | _, _ => .error .missingOperand

/-- What a command line asks for. -/
def read (args : List Text) : Except UsageFault Invocation := do
  let (common, rest) ← Intake.readAll none false args .empty
  match rest with
  | none =>
    let common ← common.settle
    .error (if common.options.isEmpty then .nothing else .noCommand)
  | some (.help, rest) => .error (readHelp rest)
  | some (c, rest) =>
    let (own, _) ← Intake.readAll (some c) false rest .empty
    let own ← own.settle
    let command ← commandOf c own
    let common ← common.settle
    .ok ⟨command, (own.option? .config).or (common.option? .config)⟩

end Invocation

end PageHighlight
