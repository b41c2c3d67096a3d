/-
  Script/Calls.lean --- what scripts can do to a configuration.

  WHAT THIS FILE IS FOR.  Scripts are written in a language that comes from elsewhere: a
  `ScriptLanguage` compiles texts, and tells which functions a program calls when it is
  run.  The functions are ours.  A call that one of them takes asks for a change or for
  nothing; a call that none of them takes asks for nothing.

  WHAT GOES WRONG.  A text that cannot be compiled is not run, and what a program did
  before it failed stays done.
-/
import PageHighlight.ConfigChange
import PageHighlight.Error

set_option autoImplicit false

namespace PageHighlight

namespace Script

/-! ## Calls -/

/-- An argument of a call, as far as our functions tell arguments apart. -/
inductive Argument where
  | text (t : Text)
  | int (n : Int)
  /-- a value that none of them takes -/
  | other
  deriving DecidableEq, Repr, Inhabited

/-- A call of a function. -/
structure Call where
  function : Text
  arguments : List Argument
  deriving DecidableEq, Repr, Inhabited

/-- The functions that take a text, with the changes that they make. -/
def textFunctions : List (Text × (Text → ConfigChange)) :=
  [("set_default_theme", .defaultTheme), ("set_dark_theme", .darkTheme),
   ("allow_language", .allowLanguage), ("preload_theme", .preloadTheme),
   ("set_engine_source", .engineSource), ("use_transformer", .useTransformer),
   ("exclude_class", .excludeClass), ("dark_indicator", .darkIndicator)]

/-- The change that a call asks for.  `get_default_theme` is ours too, but changes
nothing. -/
def Call.change? (call : Call) : Option ConfigChange :=
  match call.arguments with
  | [] => if call.function = "clear_languages".toList then some .clearLanguages else none
  | [.text t] => (textFunctions.find? (·.1 = call.function)).map fun entry => entry.2 t
  | [.int n] => if call.function = "set_batch_size".toList then some (.batchSize n) else none
  | _ => none

/-- The configuration after a call. -/
def Call.run (call : Call) (c : Config) : Config :=
  match call.change? with
  | some change => c.apply change
  | none => c

/-- The configuration after calls, the first one made first. -/
def runCalls (calls : List Call) (c : Config) : Config :=
  calls.foldl (fun c call => call.run c) c

/-! ## Runs -/

/-- A run of a program. -/
structure Run where
  /-- The calls that it makes, the first one first. -/
  calls : List Call
  /-- Why it does not go on, if something went wrong. -/
  fault : Option Text
  deriving DecidableEq, Repr, Inhabited

/-- What comes of a run. -/
def Run.outcome (r : Run) : Except Error Unit :=
  match r.fault with
  | some why => .error (.config why)
  | none => .ok ()

end Script

/-- A language for scripts. -/
structure ScriptLanguage where
  /-- What texts are compiled to. -/
  Program : Type
  /-- The program that a text is, or why it is none. -/
  compile : Text → Except Text Program
  /-- What a program does when it is run; what our functions answer depends on the
  configuration that it finds. -/
  run : Program → Config → Script.Run

namespace ScriptLanguage

open Script

/-- A text that cannot be compiled. -/
def parseError (why : Text) : Error := .config ("parse error: ".toList ++ why)

/-- Evaluate a script: what comes of it, and the configuration as it is then. -/
def eval (l : ScriptLanguage) (script : Text) (c : Config) : Except Error Unit × Config :=
  match l.compile script with
  | .error why => (.error (parseError why), c)
  | .ok program =>
    let run := l.run program c
    (run.outcome, runCalls run.calls c)

/-- The configuration after scripts were evaluated, the first one first, whatever came of
each of them. -/
def evalAll (l : ScriptLanguage) (scripts : List Text) (c : Config) : Config :=
  scripts.foldl (fun c script => (l.eval script c).2) c

end ScriptLanguage

end PageHighlight
