/-
  FilePath.lean --- names of files: joining them, and when two name the same
  place.

  WHAT THIS FILE IS FOR.  Two spellings name the same place if they agree up to
  repeated separators and steps to the directory itself.
-/
import PageHighlight.Text.Basic

set_option autoImplicit false

namespace PageHighlight

namespace FilePath

/-- What a path says: whether it begins at the root, and its steps.  A step to the
directory itself counts only at the beginning of a relative path. -/
structure Steps where
  /-- Whether the path begins at the root. -/
  absolute : Bool
  /-- The names on the way. -/
  names : List Text
  deriving DecidableEq, Repr, Inhabited

/-- The steps of a path. -/
def steps (p : Text) : Steps :=
  let absolute := p.head? = some '/'
  let pieces := (Text.splitOn '/' p).filter fun s => !s.isEmpty
  let here := fun (s : Text) => s = ['.']
  let names := pieces.filter fun s => !here s
  match pieces.head? with
  | some s => if here s && !absolute then ⟨false, s :: names⟩ else ⟨absolute, names⟩
  | none => ⟨absolute, names⟩

/-- Whether a path can only name a directory: it ends with a separator, or with a
step to the directory itself. -/
def namesDirectory (p : Text) : Bool :=
  match (Text.splitOn '/' p).reverse with
  | last :: _ :: _ => last.isEmpty || last = ['.']
  | _ => false

/-- The name of the file that a path ends with. -/
def fileName? (p : Text) : Option Text :=
  match (steps p).names.getLast? with
  | some name => if name = ['.'] ∨ name = "..".toList then none else some name
  | none => none

/-- What follows the last dot of a file name, if something precedes it. -/
def extension? (p : Text) : Option Text :=
  match fileName? p with
  | none => none
  | some name =>
    let pieces := Text.splitOn '.' name
    match pieces.reverse with
    | [] | [_] | [_, []] => none
    | last :: _ => some last

/-- A name inside a directory; an absolute name is not inside any. -/
def join (directory name : Text) : Text :=
  if name.head? = some '/' then name
  else if directory.isEmpty ∨ directory.getLast? = some '/' then directory ++ name
  else directory ++ ['/'] ++ name

end FilePath

end PageHighlight
