/-
  Program.lean --- what the program does for a command line.

  WHAT THIS FILE IS FOR.  The program reads a configuration, then a page, renders
  the page by one cycle and writes it, or writes the files that pages need.  What
  goes wrong first decides how it ends.  It reaches files through `FileAccess`
  alone.
-/
import PageHighlight.Assets
import PageHighlight.Help
import PageHighlight.Script.Calls
import PageHighlight.Session.Clock

set_option autoImplicit false

namespace PageHighlight

/-- What the program leaves behind when it ends, files apart. -/
structure ProgramExit where
  /-- Zero if all is well. -/
  code : Nat
  /-- What it wrote to its output. -/
  output : Text
  /-- What it complained about. -/
  complaint : Text
  deriving DecidableEq, Repr, Inhabited

/-- Where the program runs. -/
structure Surrounds (m : Type → Type) where
  /-- The files. -/
  files : FileAccess m
  /-- The user's configuration directory. -/
  userDirectory : Text
  /-- The language of configuration scripts. -/
  language : ScriptLanguage
  /-- What parses code by a grammar. -/
  parser : Engine.Parser

/-- Why the program failed. -/
inductive ProgramFault where
  /-- what it was doing could not be done -/
  | doing (what cause : Text)
  | error (e : Error)
  deriving DecidableEq, Repr, Inhabited

namespace ProgramFault

/-- A cause as it is told after what it caused. -/
def causedBy (cause : Text) : Text := "\n\nCaused by:\n    ".toList ++ cause

/-- A fault as it is told. -/
def message : ProgramFault → Text
  | doing what cause => what ++ causedBy cause
  | error (.read path why) => Error.message (.read path why) ++ causedBy why
  | error e => e.message

end ProgramFault

namespace Program

variable {m : Type → Type} [Monad m]

/-! ## Configurations -/

/-- The configuration that a script makes. -/
def runScript (l : ScriptLanguage) (userDirectory script : Text) : Except ProgramFault Config :=
  match l.eval script (Config.standard userDirectory) with
  | (.ok (), c) => .ok c
  | (.error e, _) => .error (.error e)

/-- The configuration that the script in a file makes. -/
def loadScript (s : Surrounds m) (path : Text) : m (Except ProgramFault Config) := do
  match ← s.files.read path with
  | .error e => pure (.error (.error (.read path e.message)))
  | .ok script => pure (runScript s.language s.userDirectory script)

/-- What is wrong with a JSON text. -/
def faultText : Json.Fault → Text
  | .ended => "the text ends too early"
  | .malformed => "the text is not JSON"
  | .mismatch => "the text does not describe a configuration"

/-- The configuration that a JSON file holds. -/
def loadJson (s : Surrounds m) (path : Text) : m (Except ProgramFault Config) := do
  match ← s.files.read path with
  | .error e => pure (.error (.doing ("reading ".toList ++ path) e.message))
  | .ok json =>
    match Config.read (Config.standard s.userDirectory) json with
    | .error e => pure (.error (.doing ("parsing ".toList ++ path) (faultText e)))
    | .ok c => pure (.ok c)

/-- The configuration in a file, by default the user's script, if there is one. -/
def loadConfig (s : Surrounds m) (path : Option Text) : m (Except ProgramFault Config) := do
  match path with
  | some path =>
    if FilePath.extension? path = some "json".toList then loadJson s path else loadScript s path
  | none =>
    let path := Config.scriptPath s.userDirectory
    if ← s.files.isThere path then loadScript s path
    else pure (.ok (Config.standard s.userDirectory))

/-! ## Pages -/

/-- A page after one cycle. -/
def renderPage (c : Config) (loader : Loader) (dark : Bool) (html : Text) : Text :=
  let s := Session.start (Setting.ofConfig c loader) (Page.ofHtml html)
  let (_, s) := s.change (SharedPage.setPrefersDark dark)
  let (_, s) := s.change fun shared => ((), shared.setReady .complete)
  (s.run (.cycle .start)).2.page.toHtml

/-- Read a page. -/
def readPage (s : Surrounds m) (path : Text) : m (Except ProgramFault Text) := do
  match ← s.files.read path with
  | .error e => pure (.error (.doing ("reading ".toList ++ path) e.message))
  | .ok html => pure (.ok html)

/-- Render a page. -/
def render (s : Surrounds m) (c : Config) (input : Text) (output : Option Text) (dark : Bool) :
    m (Except ProgramFault Text) := do
  match ← readPage s input with
  | .error e => pure (.error e)
  | .ok html =>
    let directory ← s.files.grammars c.engineSource
    let html := renderPage c (.ofGrammars (fun _ => directory) s.parser) dark html
    match output with
    | none => pure (.ok html)
    | some path =>
      match ← s.files.write path html with
      | .error e => pure (.error (.doing ("writing ".toList ++ path) e.message))
      | .ok _ => pure (.ok [])

/-! ## Commands -/

/-- Do what a command says; what is to be written to the output. -/
def perform (s : Surrounds m) (c : Config) : Command → m (Except ProgramFault Text)
  | .render input output dark => render s c input output dark
  | .assets directory => do
    match ← Assets.write s.files directory c with
    | .error e => pure (.error (.error (.io e.message)))
    | .ok paths => pure (.ok (paths.flatMap (· ++ ['\n'])))
  | .watch input _ => do
    match ← readPage s input with
    | .error e => pure (.error e)
    | .ok _ => pure (.error (.error (.io "No such device or address (os error 6)")))

/-- How the program ends. -/
def exit : Except ProgramFault Text → ProgramExit
  | .ok output => ⟨0, output, []⟩
  | .error e => ⟨1, [], "Error: ".toList ++ e.message ++ ['\n']⟩

/-- Do what a command line asks for. -/
def run (s : Surrounds m) (args : List Text) : m ProgramExit := do
  match Invocation.read args with
  | .error fault =>
    if fault.isAnswer then pure ⟨0, fault.message, []⟩ else pure ⟨2, [], fault.message⟩
  | .ok invocation =>
    match ← loadConfig s invocation.config with
    | .error e => pure (exit (.error e))
    | .ok c => return exit (← perform s c invocation.command)

end Program

end PageHighlight
