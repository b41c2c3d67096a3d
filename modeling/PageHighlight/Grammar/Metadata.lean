/-
  Grammar/Metadata.lean --- what a grammar directory records about its grammars.

  WHAT THIS FILE IS FOR.  A directory may record which binary interface each of
  its grammars was built for.  A grammar recorded for another one than ours is
  outdated; a grammar that is not recorded is given the benefit of the doubt, and
  so are all of them if the record cannot be read.
-/
import PageHighlight.Json.Reader

set_option autoImplicit false

namespace PageHighlight

/-- What is recorded about one grammar. -/
structure GrammarInfo where
  /-- The version of the binary interface it was built for. -/
  abiVersion : Nat
  /-- When it was installed. -/
  installedAt : Option Text
  /-- The revision it was built from. -/
  commit : Option Text
  deriving DecidableEq, Repr, Inhabited

namespace GrammarInfo

/-- A record being read; the version must come. -/
structure Draft where
  abiVersion : Option Nat
  installedAt : Option Text
  commit : Option Text
  deriving DecidableEq, Repr, Inhabited

/-- The fields of a record, in order. -/
def fields : List (Json.Field Draft) :=
  [⟨"abi_version", fun s t =>
      (Json.readNat (Nat.pow 2 32) t).map fun (n, t) => ({ s with abiVersion := some n }, t)⟩,
   ⟨"installed_at", fun s t =>
      (Json.readOption Json.readText t).map fun (x, t) => ({ s with installedAt := x }, t)⟩,
   ⟨"commit", fun s t =>
      (Json.readOption Json.readText t).map fun (x, t) => ({ s with commit := x }, t)⟩]

/-- Read one record. -/
def read : Json.Reader GrammarInfo := fun t => do
  let (draft, t) ← Json.readRecord fields ⟨none, none, none⟩ t
  match draft.abiVersion with
  | some n => .ok (⟨n, draft.installedAt, draft.commit⟩, t)
  | none => .error .mismatch

end GrammarInfo

/-- What is recorded about the grammars of a directory, by their names. -/
abbrev GrammarMetadata : Type := List (Text × GrammarInfo)

namespace GrammarMetadata

/-- The version of the binary interface in use. -/
def abiVersion : Nat := 14

/-- The name of the file that holds the record. -/
def fileName : Text := "metadata.json"

/-- The entries with those that come again later left out, by name in ascending
order. -/
def ofEntries (entries : List (Text × GrammarInfo)) : GrammarMetadata :=
  let names := Text.sort (Text.distinct (entries.map (·.1)))
  names.filterMap fun n => entries.reverse.find? (·.1 = n)

/-- The only field of a record, which must come. -/
def fields : List (Json.Field (Option GrammarMetadata)) :=
  [⟨"grammars", fun _ t =>
      (Json.readDictionary GrammarInfo.read t).map fun (es, t) => (some (ofEntries es), t)⟩]

/-- Read a record; one that cannot be read records nothing. -/
def read (t : Text) : GrammarMetadata :=
  match Json.readWholeText (Json.readRecord fields none) t with
  | .ok (some m) => m
  | _ => []

/-- Whether a grammar is recorded for another interface. -/
def isOutdated (name : Text) (m : GrammarMetadata) : Bool :=
  match m.find? (·.1 = name) with
  | some (_, info) => info.abiVersion ≠ abiVersion
  | none => false

/-- The grammars recorded for another interface, in ascending order. -/
def outdated (m : GrammarMetadata) : List Text :=
  Text.sort ((m.filter fun e => e.2.abiVersion ≠ abiVersion).map (·.1))

end GrammarMetadata

end PageHighlight
