/-
  Main.lean --- the program.

  WHAT THIS FILE IS FOR.  Gives the program its arguments and the files of the
  system, and writes what it has to say.
-/
import PageHighlight.Program
import PageHighlight.Script.Run

set_option autoImplicit false

namespace PageHighlight.System

/-- A fault of the system. -/
def fileFault : IO.Error → FileFault
  | .noFileOrDirectory .. => .notFound
  | .inappropriateType .. => .isDirectory
  | .alreadyExists .. => .alreadyExists
  | e => .other (toString e).toList

/-- What comes of an action, its fault as a value. -/
def attemptFile {α : Type} (action : IO α) : IO (Except FileFault α) := do
  match ← action.toBaseIO with
  | .ok x => pure (.ok x)
  | .error e => pure (.error (fileFault e))

/-- Read a file. -/
def readFile (path : Text) : IO (Except FileFault Text) := do
  match ← attemptFile (IO.FS.readBinFile (String.ofList path)) with
  | .error e => pure (.error e)
  | .ok bytes =>
    match String.fromUTF8? bytes with
    | some t => pure (.ok t.toList)
    | none => pure (.error .notText)

/-- The files of the system; a directory of grammars holds none that can be
opened. -/
def systemFiles : FileAccess IO where
  read := readFile
  write path content :=
    attemptFile (IO.FS.writeFile (String.ofList path) (String.ofList content))
  createDirectory path := attemptFile (IO.FS.createDirAll (String.ofList path))
  isThere path := do
    match ← readFile path with
    | .error .notFound => pure false
    | _ => pure true
  grammars path := do
    match ← readFile path with
    | .error .isDirectory => pure (some ⟨none, []⟩)
    | _ => pure none

/-- The user's configuration directory. -/
def configurationDirectory : IO Text := do
  let home : IO Text := do
    return FilePath.join ((← IO.getEnv "HOME").getD "").toList ".config".toList
  match ← IO.getEnv "XDG_CONFIG_HOME" with
  | some d => if d.startsWith "/" then pure d.toList else home
  | none => home

end PageHighlight.System

open PageHighlight

/-- Runs the program on the files of the system. -/
def main (args : List String) : IO UInt32 := do
  let surrounds : Surrounds IO :=
    ⟨System.systemFiles, ← System.configurationDirectory, Script.language, .treeless⟩
  let exit ← Program.run surrounds (args.map String.toList)
  (← IO.getStdout).putStr (String.ofList exit.output)
  (← IO.getStderr).putStr (String.ofList exit.complaint)
  pure exit.code.toUInt32
