/-
  Grammar/Registry.lean --- a directory of compiled grammars, and those that were
  loaded from it.

  WHAT THIS FILE IS FOR.  The library of a grammar has a fixed file name and
  exports one function of a fixed name.  Loading it can fail in four ways, tried
  in this order: there is no such file, the directory records it as outdated, it
  is no library, or it does not export the function.
-/
import PageHighlight.Error
import PageHighlight.FilePath
import PageHighlight.Grammar.Metadata

set_option autoImplicit false

namespace PageHighlight

/-- A file in a directory of grammars. -/
inductive LibraryFile where
  /-- the compiled grammar of this name -/
  | grammar (name : Text)
  /-- something that is no library -/
  | other
  deriving DecidableEq, Repr, Inhabited

/-- A directory of grammars. -/
structure GrammarDirectory where
  /-- The text of its record, if it has one. -/
  metadata : Option Text
  /-- Its other files, by name. -/
  files : List (Text × LibraryFile)
  deriving DecidableEq, Repr, Inhabited

/-- The directories of grammars that there are, by path. -/
abbrev GrammarShelf : Type := Text → Option GrammarDirectory

/-- A directory of grammars, opened. -/
structure Registry where
  /-- The path of the directory. -/
  path : Text
  /-- What is in it. -/
  directory : GrammarDirectory
  /-- What it records. -/
  metadata : GrammarMetadata
  /-- The names that were loaded, each with the grammar it stands for. -/
  loaded : List (Text × Text)
  deriving DecidableEq, Repr, Inhabited

namespace Registry

/-- Open a directory; nothing is loaded yet. -/
def ofDirectory (path : Text) (d : GrammarDirectory) : Registry :=
  ⟨path, d, (d.metadata.map GrammarMetadata.read).getD [], []⟩

/-- The file name of a grammar's library. -/
def fileName (name : Text) : Text := "lib".toList ++ name ++ ".so".toList

/-- The path of a grammar's library. -/
def libraryPath (name : Text) (r : Registry) : Text := FilePath.join r.path (fileName name)

/-- The file of a grammar's library. -/
def file? (name : Text) (r : Registry) : Option LibraryFile :=
  (r.directory.files.find? (·.1 = fileName name)).map (·.2)

/-- Whether there is a library for a grammar. -/
def isInstalled (name : Text) (r : Registry) : Bool := (r.file? name).isSome

/-- A name as the function of its grammar spells it. -/
def symbolName (name : Text) : Text := name.map fun c => if c = '-' then '_' else c

/-- The grammar that was loaded under a name. -/
def get? (name : Text) (r : Registry) : Option Text :=
  (r.loaded.find? (·.1 = name)).map (·.2)

/-- Load a grammar, once: what comes of it, and the directory as it is then. -/
def load (name : Text) (r : Registry) : Except Error Unit × Registry :=
  match r.get? name with
  | some _ => (.ok (), r)
  | none =>
    match r.file? name with
    | none =>
      (.error (.engineUnavailable ("grammar `".toList ++ name ++ "` not found at ".toList
        ++ r.libraryPath name)), r)
    | some file =>
      if r.metadata.isOutdated name then
        (.error (.engineUnavailable ("grammar `".toList ++ name
          ++ "` was built for an outdated Tree-sitter ABI".toList)), r)
      else
        match file with
        | .other => (.error (.engineUnavailable ("failed to open ".toList ++ name)), r)
        | .grammar g =>
          if symbolName name = g then (.ok (), { r with loaded := (name, g) :: r.loaded })
          else (.error (.engineUnavailable ("tree_sitter_".toList ++ symbolName name)), r)

/-- Load grammars one after another, whatever comes of each. -/
def loadAll (names : List Text) (r : Registry) : Registry :=
  names.foldl (fun r name => (r.load name).2) r

/-- The names that were loaded, in ascending order. -/
def loadedNames (r : Registry) : List Text := Text.sort (r.loaded.map (·.1))

/-- The grammars that the directory records as outdated, in ascending order. -/
def outdated (r : Registry) : List Text := r.metadata.outdated

end Registry

end PageHighlight
