/-
  AnnotatedSource.lean --- a block of source without its directives, and the levels
  they gave to its lines.

  WHAT THIS FILE IS FOR.  `AnnotatedSource.ofSource` drops the lines that hold only a
  directive and numbers the lines that remain.  A line has the level of the
  innermost block that is open there; the line that closes a block still belongs
  to it, and so does the line that opens one if it has code of its own.  Ranges
  on the first line name lines of the result.
-/
import PageHighlight.Directive

set_option autoImplicit false

namespace PageHighlight

/-- A block of source after its directives were taken out. -/
structure AnnotatedSource where
  /-- The source as the reader sees it. -/
  display : Text
  /-- The levels of its lines, counted from one. -/
  levels : LevelMap
  deriving DecidableEq, Repr, Inhabited

namespace AnnotatedSource

/-- How far the lines of a block have been taken in. -/
structure Progress where
  /-- How many lines were read. -/
  read : Nat
  /-- How many of them were dropped. -/
  dropped : Nat
  /-- The levels of the open blocks, innermost first. -/
  openLevels : List Level
  /-- The levels given so far. -/
  levels : LevelMap
  /-- The lines kept so far, last first. -/
  kept : List Text
  deriving DecidableEq, Repr, Inhabited

namespace Progress

/-- Nothing read yet. -/
def start : Progress := ⟨0, 0, [], [], []⟩

/-- The number that the next line has if it is kept. -/
def displayLine (p : Progress) : Nat := p.read - p.dropped + 1

/-- Give the lowest level to the lines of a range, up to `limit`. -/
def markRange (limit : Nat) (levels : LevelMap) (r : LineRange) : LevelMap :=
  (List.range' r.first (min r.last limit + 1 - r.first)).foldl
    (fun levels n => levels.insert n Level.one) levels

/-- Give a level to the line about to be kept, if there is one to give. -/
def mark (p : Progress) (level : Option Level) : LevelMap :=
  match level with
  | some l => p.levels.insert p.displayLine l
  | none => p.levels

/-- Take in one line; `limit` is the number of lines of the block. -/
def advance (limit : Nat) (p : Progress) : LineToken → Progress
  | .code text =>
    { p with read := p.read + 1, levels := p.mark p.openLevels.head?, kept := text :: p.kept }
  | .whole (.ranges rs) =>
    { p with read := p.read + 1, dropped := p.dropped + 1,
             levels := rs.foldl (markRange limit) p.levels }
  | .whole (.start level) =>
    { p with read := p.read + 1, dropped := p.dropped + 1, openLevels := level :: p.openLevels }
  | .whole .stop =>
    { p with read := p.read + 1, dropped := p.dropped + 1, openLevels := p.openLevels.tail }
  | .trailing code (.start level) =>
    { p with read := p.read + 1, openLevels := level :: p.openLevels,
             levels := p.mark (some level), kept := code :: p.kept }
  | .trailing code .stop =>
    { p with read := p.read + 1, openLevels := p.openLevels.tail,
             levels := p.mark p.openLevels.head?, kept := code :: p.kept }
  | .trailing code (.ranges _) => { p with read := p.read + 1, kept := code :: p.kept }

/-- Take in one line after another. -/
def advanceAll (limit : Nat) (p : Progress) (tokens : List LineToken) : Progress :=
  tokens.foldl (advance limit) p

end Progress

/-- Classify the lines of a block; only the first may hold ranges. -/
def tokens : List Text → List LineToken
  | [] => []
  | l :: ls => LineToken.ofLine l true :: ls.map (LineToken.ofLine · false)

/-- The block without its directives. -/
def ofSource (source : Text) : AnnotatedSource :=
  let ls := Text.lines source
  let p := Progress.start.advanceAll ls.length (tokens ls)
  ⟨Text.unlines p.kept.reverse, p.levels⟩

end AnnotatedSource

end PageHighlight
