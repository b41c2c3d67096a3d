/-
  MarkerPass.lean --- passes that turn `[!code m]` markers into classes.

  WHAT THIS FILE IS FOR.  A line of code may end in a comment such as
  `// [!code ++]`.  A pass knows some markers; it takes them out of the text,
  gives the line the classes they stand for, and gives the block a class of its
  own if it met any:

      notation-diff         ++  --            diff add, diff remove
      notation-focus        focus             focused
      notation-highlight    highlight  hl     highlighted
      notation-error-level  error  warning    highlighted error, highlighted warning

  A comment that holds nothing any more goes with its marker.
-/
import PageHighlight.Fragment

set_option autoImplicit false

namespace PageHighlight

/-- A pass over a rendered fragment. -/
structure MarkerPass where
  /-- The name that configurations use. -/
  name : Text
  /-- The markers, with the classes they give to their line. -/
  table : List (Text × List Text)
  /-- The class it gives to a block in which it met a marker. -/
  blockClass : Text
  deriving DecidableEq, Repr, Inhabited

namespace MarkerPass

/-! ## The built-in passes -/

/-- Added and removed lines. -/
def diff : MarkerPass :=
  ⟨"notation-diff", [("++", ["diff", "add"]), ("--", ["diff", "remove"])], "has-diff"⟩

/-- Lines in focus. -/
def focus : MarkerPass := ⟨"notation-focus", [("focus", ["focused"])], "has-focused"⟩

/-- Highlighted lines. -/
def highlight : MarkerPass :=
  ⟨"notation-highlight", [("highlight", ["highlighted"]), ("hl", ["highlighted"])],
   "has-highlighted"⟩

/-- Lines with an error or a warning. -/
def errorLevel : MarkerPass :=
  ⟨"notation-error-level",
   [("error", ["highlighted", "error"]), ("warning", ["highlighted", "warning"])],
   "has-highlighted"⟩

/-- Every pass there is. -/
def builtin : List MarkerPass := [diff, focus, highlight, errorLevel]

/-- The pass with a name. -/
def named? (n : Text) : Option MarkerPass := builtin.find? (·.name = n)

/-- The passes with these names; unknown names are left out. -/
def resolve (names : List Text) : List MarkerPass := names.filterMap named?

/-! ## Taking markers out of a text -/

/-- The text that opens a marker. -/
def opener : Text := "[!code "

/-- The classes that a marker stands for. -/
def classesFor? (p : MarkerPass) (marker : Text) : Option (List Text) :=
  (p.table.find? (·.1 = marker)).map (·.2)

/-- The first marker of a text, blanks around it left out: the text before it, the
marker as it stands between the brackets, and the text after it. -/
def firstMarker? (t : Text) : Option (Text × Text × Text) :=
  match Text.split? opener t with
  | none => none
  | some (before, r) =>
    match Text.split? "]" r with
    | none => none
    | some (inner, after) => some (before, inner, after)

theorem eq_of_firstMarker? {t before inner after : Text}
    (h : firstMarker? t = some (before, inner, after)) :
    t = before ++ opener ++ inner ++ "]".toList ++ after := by
  unfold firstMarker? at h
  split at h
  · cases h
  · next b r h1 =>
    split at h
    · cases h
    · next i a h2 =>
      cases h
      rw [Text.split?_eq_some h1, Text.split?_eq_some h2]
      simp only [List.append_assoc]

/-- A text without the markers of a pass, and the classes they stand for, in
order.  Markers of other passes stay. -/
def takeMarkers (p : MarkerPass) (t : Text) : Text × List Text :=
  match _h : firstMarker? t with
  | none => (t, [])
  | some (before, inner, after) =>
    let (rest, classes) := takeMarkers p after
    match p.classesFor? (Text.trim inner) with
    | some extra => (before ++ rest, extra ++ classes)
    | none => (before ++ opener ++ inner ++ "]".toList ++ rest, classes)
termination_by t.length
decreasing_by
  have := congrArg List.length (eq_of_firstMarker? _h)
  simp only [List.length_append, String.length_toList] at this
  have : 0 < "]".length := by decide
  omega

/-! ## Tidying up -/

/-- A text without the empty comment at its end, and without trailing blanks.  A
line comment must stand alone or after a blank: `a--` is code. -/
def dropEmptyComment (t : Text) : Text :=
  let trimmed := Text.trimEnd t
  let block := [(("/*" : String), ("*/" : String)), ("<!--", "-->")].findSome? fun (o, c) =>
    (Text.dropSuffix? c.toList trimmed).bind fun inner =>
      Text.dropSuffix? o.toList (Text.trimEnd inner)
  let line := ["//", "#", "--", ";"].findSome? fun (o : String) =>
    (Text.dropSuffix? o.toList trimmed).filter fun code =>
      match code.getLast? with
      | none => true
      | some c => Text.isBlank c
  match block.orElse fun _ => line with
  | some code => Text.trimEnd code
  | none => trimmed

/-- The runs of a line without the comment that a marker left empty at its end. -/
def tidyTokens (tokens : List Token) : List Token :=
  let tokens := tokens.filter fun t => !t.text.isEmpty
  match tokens.reverse with
  | [] => []
  | last :: before =>
    let tidied := dropEmptyComment last.text
    if tidied.isEmpty then
      match before with
      | [] => []
      | previous :: rest =>
        ({ previous with text := Text.trimEnd previous.text } :: rest).reverse
    else ({ last with text := tidied } :: before).reverse

/-! ## Applying a pass -/

/-- A line without the markers of a pass, and the classes they stand for. -/
def takeFromLine (p : MarkerPass) (l : RenderedLine) : RenderedLine × List Text :=
  let taken := l.tokens.map fun t => (({ t with text := (p.takeMarkers t.text).1 } : Token),
    (p.takeMarkers t.text).2)
  let classes := taken.flatMap (·.2)
  let tokens := taken.map (·.1)
  if classes.isEmpty then ({ l with tokens := tokens }, [])
  else ({ l with tokens := tidyTokens tokens }, classes)

/-- A line after a pass. -/
def applyToLine (p : MarkerPass) (l : RenderedLine) : RenderedLine :=
  let (l, classes) := p.takeFromLine l
  classes.foldl (fun l c => l.addClass c) l

/-- Whether a pass meets a marker in a line. -/
def meets (p : MarkerPass) (l : RenderedLine) : Bool := !(p.takeFromLine l).2.isEmpty

/-- A fragment after a pass. -/
def apply (p : MarkerPass) (f : Fragment) : Fragment :=
  let g := { f with lines := f.lines.map p.applyToLine }
  if f.lines.any p.meets then g.addClass p.blockClass else g

/-- A fragment after several passes, one after another. -/
def applyAll (passes : List MarkerPass) (f : Fragment) : Fragment :=
  passes.foldl (fun f p => p.apply f) f

end MarkerPass

end PageHighlight
