/-
  Assets.lean --- the files that pages need beside themselves.

  WHAT THIS FILE IS FOR.  A directory of pages gets a style sheet and the
  configuration that they are rendered with.
-/
import PageHighlight.FileTree
import PageHighlight.Stylesheet

set_option autoImplicit false

namespace PageHighlight

namespace Assets

/-- The name of the configuration's file. -/
def configFileName : Text := "glint-config.json"

/-- The files, by name, in the order of writing. -/
def files (c : Config) : List (Text × Text) :=
  [(Stylesheet.fileName, Stylesheet.ofConfig c), (configFileName, c.write)]

variable {m : Type → Type} [Monad m]

/-- Write files into a directory one after another; also their paths. -/
def writeFiles (access : FileAccess m) (directory : Text) :
    List (Text × Text) → m (Except FileFault (List Text))
  | [] => pure (.ok [])
  | (name, content) :: rest => do
    let path := FilePath.join directory name
    match ← access.write path content with
    | .error e => pure (.error e)
    | .ok _ =>
      match ← writeFiles access directory rest with
      | .error e => pure (.error e)
      | .ok paths => pure (.ok (path :: paths))

/-- Write the files into a directory, which is created if it is missing; also
their paths. -/
def write (access : FileAccess m) (directory : Text) (c : Config) :
    m (Except FileFault (List Text)) := do
  match ← access.createDirectory directory with
  | .error e => pure (.error e)
  | .ok _ => writeFiles access directory (files c)

end Assets

end PageHighlight
