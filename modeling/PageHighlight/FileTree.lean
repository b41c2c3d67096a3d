/-
  FileTree.lean --- files and directories, and what a program may do with them.

  WHAT THIS FILE IS FOR.  A program reads and writes through a `FileAccess`, so
  that what it does with files can be followed on a tree that is a value.  An
  operation on such a tree fails for the reasons, and with the words, that people
  know from their systems.
-/
import PageHighlight.FilePath
import PageHighlight.Grammar.Registry

set_option autoImplicit false

namespace PageHighlight

/-! ## Faults -/

/-- Why something could not be done with a file. -/
inductive FileFault where
  /-- it is not there -/
  | notFound
  /-- something on the way to it is a file -/
  | notDirectory
  /-- it is a directory -/
  | isDirectory
  /-- it is there already -/
  | alreadyExists
  /-- it holds no text -/
  | notText
  /-- something else, in the words of the system -/
  | other (why : Text)
  deriving DecidableEq, Repr, Inhabited

namespace FileFault

/-- A fault as it is told. -/
def message : FileFault → Text
  | notFound => "No such file or directory (os error 2)"
  | notDirectory => "Not a directory (os error 20)"
  | isDirectory => "Is a directory (os error 21)"
  | alreadyExists => "File exists (os error 17)"
  | notText => "stream did not contain valid UTF-8"
  | other why => why

end FileFault

/-! ## Access -/

/-- What a program may do with files. -/
structure FileAccess (m : Type → Type) where
  /-- Read a text. -/
  read : (path : Text) → m (Except FileFault Text)
  /-- Write a text, in place of what was there. -/
  write : (path content : Text) → m (Except FileFault Unit)
  /-- Create a directory and those on the way to it, as far as they are missing. -/
  createDirectory : (path : Text) → m (Except FileFault Unit)
  /-- Whether there is anything. -/
  isThere : (path : Text) → m Bool
  /-- A directory of grammars. -/
  grammars : (path : Text) → m (Option GrammarDirectory)

/-! ## Trees -/

/-- What a file holds. -/
inductive FileContent where
  | text (t : Text)
  /-- the compiled grammar of this name -/
  | grammar (name : Text)
  /-- bytes that are no text -/
  | bytes
  deriving DecidableEq, Repr, Inhabited

/-- What is at a place. -/
inductive FileEntry where
  | directory
  | file (c : FileContent)
  deriving DecidableEq, Repr, Inhabited

/-- A place, by the names on the way from the root. -/
abbrev Place : Type := List Text

/-- Files and directories; the root is always there. -/
structure FileTree where
  /-- What is at each place, the last one put there first. -/
  entries : List (Place × FileEntry)
  deriving DecidableEq, Repr, Inhabited

namespace FileTree

/-- Nothing but the root. -/
def empty : FileTree := ⟨[]⟩

/-- What is at a place. -/
def entry? (p : Place) (t : FileTree) : Option FileEntry :=
  if p = [] then some .directory else (t.entries.find? (·.1 = p)).map (·.2)

/-- Put something at a place, in place of what was there. -/
def put (p : Place) (e : FileEntry) (t : FileTree) : FileTree :=
  ⟨(p, e) :: t.entries.filter (·.1 ≠ p)⟩

/-- Put a directory at a place, unless there is something. -/
def putDirectory (p : Place) (t : FileTree) : FileTree :=
  if (t.entry? p).isSome then t else t.put p .directory

/-- Put a file at a place, and directories on the way to it. -/
def putFile (p : Place) (c : FileContent) (t : FileTree) : FileTree :=
  ((List.range p.length).foldl (fun t n => t.putDirectory (p.take n)) t).put p (.file c)

/-- The files, in no particular order. -/
def files (t : FileTree) : List (Place × FileContent) :=
  t.entries.filterMap fun (p, e) => match e with
    | .file c => some (p, c)
    | .directory => none

/-- The files that are new or hold something else than before. -/
def changes (before after : FileTree) : List (Place × FileContent) :=
  after.files.filter fun (p, c) => before.entry? p ≠ some (.file c)

/-! ## Ways -/

/-- Where a way leads; everything on the way must be a directory. -/
def walk (t : FileTree) : Place → List Text → Except FileFault Place
  | p, [] => .ok p
  | p, name :: names =>
    if name = ['.'] then walk t p names
    else if name = "..".toList then walk t p.dropLast names
    else
      let next := p ++ [name]
      if names.isEmpty then .ok next
      else
        match t.entry? next with
        | some .directory => walk t next names
        | some (.file _) => .error .notDirectory
        | none => .error .notFound

/-- A place, if a path may lead there: one that can only name a directory leads to
nothing else. -/
def arriveAt (path : Text) (p : Place) (t : FileTree) : Except FileFault Place :=
  if FilePath.namesDirectory path then
    match t.entry? p with
    | some .directory => .ok p
    | some (.file _) => .error .notDirectory
    | none => .error .notFound
  else .ok p

/-- Where a path leads from a place; the empty path leads nowhere. -/
def resolve (here : Place) (path : Text) (t : FileTree) : Except FileFault Place :=
  if path.isEmpty then .error .notFound
  else
    let steps := FilePath.steps path
    match t.walk (if steps.absolute then [] else here) steps.names with
    | .error e => .error e
    | .ok p => t.arriveAt path p

/-! ## Operations -/

/-- Read a text. -/
def read (here : Place) (path : Text) (t : FileTree) : Except FileFault Text :=
  match t.resolve here path with
  | .error e => .error e
  | .ok p =>
    match t.entry? p with
    | some (.file (.text content)) => .ok content
    | some (.file _) => .error .notText
    | some .directory => .error .isDirectory
    | none => .error .notFound

/-- Write a text. -/
def write (here : Place) (path content : Text) (t : FileTree) : Except FileFault FileTree :=
  match t.resolve here path with
  | .error e => .error e
  | .ok p =>
    match t.entry? p with
    | some .directory => .error .isDirectory
    | _ => .ok (t.put p (.file (.text content)))

/-- Create the directories of a way, as far as they are missing. -/
def createAlong : Place → List Text → FileTree → Except FileFault FileTree
  | _, [], t => .ok t
  | p, name :: names, t =>
    if name = ['.'] then createAlong p names t
    else if name = "..".toList then createAlong p.dropLast names t
    else
      let next := p ++ [name]
      match t.entry? next with
      | some (.file _) => .error (if names.isEmpty then .alreadyExists else .notDirectory)
      | _ => createAlong next names (t.putDirectory next)

/-- Create a directory and those on the way to it. -/
def createDirectory (here : Place) (path : Text) (t : FileTree) : Except FileFault FileTree :=
  let steps := FilePath.steps path
  createAlong (if steps.absolute then [] else here) steps.names t

/-- What is at the end of a path. -/
def lookup? (here : Place) (path : Text) (t : FileTree) : Option FileEntry :=
  match t.resolve here path with
  | .ok p => t.entry? p
  | .error _ => none

/-- A file as a directory of grammars sees it. -/
def libraryFile : FileEntry → LibraryFile
  | .file (.grammar name) => .grammar name
  | _ => .other

/-- A directory of grammars. -/
def grammars (here : Place) (path : Text) (t : FileTree) : Option GrammarDirectory :=
  match t.resolve here path with
  | .error _ => none
  | .ok p =>
    if t.entry? p = some .directory then
      some
        ⟨(t.read p GrammarMetadata.fileName).toOption,
          t.entries.filterMap fun (q, e) =>
            match q.getLast? with
            | some name => if q.dropLast = p then some (name, libraryFile e) else none
            | none => none⟩
    else none

/-- Change the tree, if nothing is wrong. -/
def update (change : FileTree → Except FileFault FileTree) :
    StateM FileTree (Except FileFault Unit) := fun t =>
  match change t with
  | .ok t' => (.ok (), t')
  | .error e => (.error e, t)

/-- Access to a tree, from a place in it. -/
def access (here : Place) : FileAccess (StateM FileTree) where
  read path := fun t => (t.read here path, t)
  write path content := update (write here path content)
  createDirectory path := update (createDirectory here path)
  isThere path := fun t => ((t.lookup? here path).isSome, t)
  grammars path := fun t => (t.grammars here path, t)

end FileTree

end PageHighlight
