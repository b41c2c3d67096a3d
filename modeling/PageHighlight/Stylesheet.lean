/-
  Stylesheet.lean --- the style sheet of rendered pages.

  WHAT THIS FILE IS FOR.  Rendered blocks carry classes; the style sheet says what
  they look like.  Every level has a tint and an accent, lighter on light pages.
  A page is dark if its root element says so in one of the ways that the
  configuration lists, or if its reader's system prefers dark pages.
-/
import PageHighlight.Config
import PageHighlight.Page.Basic

set_option autoImplicit false

namespace PageHighlight

/-! ## Rules -/

/-- A rule of a style sheet. -/
structure StyleRule where
  /-- What it is about. -/
  selector : Text
  /-- Properties and their values. -/
  declarations : List (Text × Text)
  deriving DecidableEq, Repr, Inhabited

namespace StyleRule

/-- A property and its value, with the blank that follows. -/
def writeDeclaration (d : Text × Text) : Text := d.1 ++ ": ".toList ++ d.2 ++ "; ".toList

/-- A rule on a line of its own. -/
def write (r : StyleRule) : Text :=
  r.selector ++ " \x7b ".toList ++ r.declarations.flatMap writeDeclaration ++ "\x7d\n".toList

end StyleRule

namespace Stylesheet

/-- The name of its file. -/
def fileName : Text := "glint.css"

/-! ## Blocks and their copy controls -/

/-- The selector of copy controls. -/
def copySelector : Text := ['.'] ++ Page.copyClass

/-- The rules that hold for all pages. -/
def chrome : List StyleRule :=
  [⟨['.'] ++ Page.renderedClass, [("position", "relative")]⟩,
   ⟨"pre.glint",
    [("margin", "0"), ("padding", "0.75em 0"), ("overflow-x", "auto"),
     ("border-radius", "4px")]⟩,
   ⟨"pre.glint code", [("display", "block"), ("background", "none"), ("padding", "0")]⟩,
   ⟨"pre.glint .line",
    [("display", "inline-block"), ("min-width", "100%"), ("padding", "0 1em"),
     ("box-sizing", "border-box")]⟩,
   ⟨"pre.glint .line.diff.add", [("background-color", "rgba(16, 185, 129, 0.16)")]⟩,
   ⟨"pre.glint .line.diff.remove",
    [("background-color", "rgba(244, 63, 94, 0.16)"), ("opacity", "0.7")]⟩,
   ⟨"pre.glint.has-focused .line:not(.focused)",
    [("opacity", "0.55"), ("filter", "blur(0.04rem)")]⟩,
   ⟨"pre.glint .line.error", [("background-color", "rgba(244, 63, 94, 0.16)")]⟩,
   ⟨"pre.glint .line.warning", [("background-color", "rgba(234, 179, 8, 0.16)")]⟩,
   ⟨copySelector,
    [("position", "absolute"), ("top", "0.4em"), ("right", "0.4em"), ("opacity", "0"),
     ("transition", "opacity 0.1s"), ("cursor", "pointer")]⟩,
   ⟨['.'] ++ Page.renderedClass ++ ":hover ".toList ++ copySelector ++ ", ".toList
      ++ copySelector ++ ":focus".toList, [("opacity", "1")]⟩,
   ⟨copySelector ++ "[data-state=\x22copied\x22]".toList, [("opacity", "1")]⟩,
   ⟨['.'] ++ Page.loadingClass, [("opacity", "0.6"), ("transition", "opacity 0.2s")]⟩]

/-! ## Levels -/

/-- How a level looks on light or on dark pages. -/
structure Treatment where
  /-- The background of the line. -/
  tint : Text
  /-- The bar at its side. -/
  accent : Text
  deriving DecidableEq, Repr, Inhabited

/-- How the levels look on light pages, from the first one on. -/
def lightTreatments : List Treatment :=
  [⟨"rgba(250, 189, 47, 0.18)", "#d79921"⟩, ⟨"rgba(131, 165, 152, 0.22)", "#458588"⟩,
   ⟨"rgba(211, 134, 155, 0.22)", "#b16286"⟩, ⟨"rgba(251, 73, 52, 0.20)", "#cc241d"⟩]

/-- How the levels look on dark pages, from the first one on. -/
def darkTreatments : List Treatment :=
  [⟨"rgba(250, 189, 47, 0.14)", "#fabd2f"⟩, ⟨"rgba(131, 165, 152, 0.18)", "#83a598"⟩,
   ⟨"rgba(211, 134, 155, 0.18)", "#d3869b"⟩, ⟨"rgba(251, 73, 52, 0.18)", "#fb4934"⟩]

/-- The rule of one level, the selector beginning with `start`. -/
def levelRule (start : Text) (level : Nat) (t : Treatment) : StyleRule :=
  ⟨start ++ "pre.glint .line.highlighted.hl-".toList ++ Text.ofNat level,
   [("background-color", t.tint), ("box-shadow", "inset 3px 0 0 ".toList ++ t.accent)]⟩

/-- The rules of the levels, each selector beginning with `start`. -/
def levelRules (start : Text) (ts : List Treatment) : List StyleRule :=
  ts.zipIdx.map fun (t, i) => levelRule start (i + 1) t

/-! ## The sheet -/

/-- The selectors of root elements that mean a dark page. -/
def darkRoots (c : Config) : List Text :=
  c.darkIndicators.flatMap fun d =>
    ["html.".toList ++ d, "html[data-theme=\x22".toList ++ d ++ "\x22]".toList]

/-- The rules for pages that are light, or dark by their root element. -/
def rules (c : Config) : List StyleRule :=
  chrome ++ levelRules [] lightTreatments
    ++ (darkRoots c).flatMap fun root => levelRules (root ++ [' ']) darkTreatments

/-- The style sheet of a configuration. -/
def ofConfig (c : Config) : Text :=
  (rules c).flatMap StyleRule.write
    ++ "@media (prefers-color-scheme: dark) \x7b\n".toList
    ++ (levelRules "  " darkTreatments).flatMap StyleRule.write ++ "\x7d\n".toList

end Stylesheet

end PageHighlight
