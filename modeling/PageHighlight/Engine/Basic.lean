/-
  Engine/Basic.lean --- engines that render code, and how they are built.

  WHAT THIS FILE IS FOR.  An engine turns code in a language into a fragment in
  the colours of a theme.  It is built for a configuration, and building it can
  fail or take its time (`Loader`).  `plain` renders every language without
  colours; `ofGrammars` parses the code with the grammars of a directory.
-/
import PageHighlight.Config
import PageHighlight.Grammar.Registry
import PageHighlight.Highlight
import PageHighlight.MarkerPass
import PageHighlight.Text.Quoted

set_option autoImplicit false

namespace PageHighlight

/-- An engine. -/
structure Engine where
  /-- The themes it can render with. -/
  themes : List Text
  /-- Render code in a language with a theme. -/
  render : (code language theme : Text) → Except Error Fragment

/-- An engine, or none if it could not be built. -/
abbrev Handle : Type := Option Engine

/-- A handle as diagnostics tell it. -/
def Handle.describe : Handle → Text
  | some e =>
    "Ready([".toList ++ Text.join ", ".toList (e.themes.map Text.quoted) ++ "])".toList
  | none => "Unavailable"

namespace Engine

/-- A theme that an engine was not built for. -/
def themeNotLoaded (theme : Text) : Error :=
  .renderFailure ("theme `".toList ++ theme ++ "` is not loaded".toList)

/-! ## An engine without grammars -/

/-- Render code without colours of its own. -/
def renderPlain (themes : List Text) (code language theme : Text) : Except Error Fragment :=
  if themes.contains theme then
    match Theme.named? theme with
    | some t => .ok (Fragment.plain t language code)
    | none => .error (.renderFailure ("unknown theme `".toList ++ theme ++ ['`']))
  else .error (themeNotLoaded theme)

/-- An engine that renders every language without colours, with these themes. -/
def plain (themes : List Text) : Engine := ⟨themes, renderPlain themes⟩

/-! ## An engine with grammars -/

/-- What parses a source by the grammar of a name. -/
structure Parser where
  /-- Why it cannot use a grammar, if it cannot. -/
  refuses? : (grammar : Text) → Option Text
  /-- The tree of a source by a grammar, if it makes one. -/
  tree? : (grammar source : Text) → Option Tree

/-- A parser that takes every grammar and makes no tree of anything. -/
def Parser.treeless : Parser := ⟨fun _ => none, fun _ _ => none⟩

/-- A language whose grammar was not loaded. -/
def noGrammar (language : Text) : Error :=
  .renderFailure ("no grammar loaded for `".toList ++ language ++ ['`'])

/-- A grammar that a parser cannot use. -/
def incompatibleGrammar (why : Text) : Error :=
  .renderFailure ("incompatible grammar: ".toList ++ why)

/-- A source that a parser makes no tree of. -/
def noTree : Error := .renderFailure "parser produced no tree"

/-- The spans of the lines of a source, by its tree. -/
def spanLines (parser : Parser) (grammar language code : Text) : Except Error (List SpanLine) :=
  match parser.refuses? grammar with
  | some why => .error (incompatibleGrammar why)
  | none =>
    match parser.tree? grammar code with
    | some tree => .ok (tree.spanLines (Language.ofTag language) code)
    | none => .error noTree

/-- A line in the colours of a theme. -/
def styledLine (theme : Theme) (line : Text) (spans : SpanLine) : RenderedLine :=
  ⟨(spans.runs line).map fun (t, kind) => ⟨t, theme.styleFor? kind⟩, []⟩

/-- Render code with grammars; plain text needs none. -/
def renderParsed (parser : Parser) (registry : Registry) (themes : List Theme)
    (code language theme : Text) : Except Error Fragment :=
  match themes.find? (·.name = theme) with
  | none => .error (themeNotLoaded theme)
  | some t =>
    if language = Language.plainText then .ok (Fragment.plain t language code)
    else
      match registry.get? language with
      | none => .error (noGrammar language)
      | some grammar =>
        (spanLines parser grammar language code).map fun spans =>
          Fragment.ofLines t language
            (List.zipWith (styledLine t) (Text.lines code) spans)

/-- The grammars that a configuration asks for. -/
def grammarNames (c : Config) : List Text :=
  (c.languages.map Language.canonicalTag).filter (· ≠ Language.plainText)

/-- Build an engine with the grammars and themes that a configuration asks for.
Grammars and themes that cannot be had are left out, but the directory and the
default theme must be there. -/
def ofGrammars (shelf : GrammarShelf) (parser : Parser) (c : Config) : Except Error Engine :=
  match shelf c.engineSource with
  | none =>
    .error (.engineUnavailable ("grammar directory ".toList ++ c.engineSource
      ++ " not found".toList))
  | some directory =>
    let themes := c.themesToLoad.filterMap Theme.named?
    if themes.any (·.name = c.defaultTheme) then
      let registry := (Registry.ofDirectory c.engineSource directory).loadAll (grammarNames c)
      .ok ⟨Text.sort (themes.map (·.name)), renderParsed parser registry themes⟩
    else
      .error (.engineUnavailable ("default theme `".toList ++ c.defaultTheme
        ++ "` is not available".toList))

/-! ## Rendering with passes -/

/-- Render code and run the passes over the result. -/
def renderWith (e : Engine) (passes : List MarkerPass) (code language theme : Text) :
    Except Error Fragment :=
  (e.render code language theme).map (MarkerPass.applyAll passes)

end Engine

/-! ## Loaders -/

/-- How long building an engine takes. -/
inductive Pace where
  /-- it is built at once -/
  | immediate
  /-- it is built once a gate is open -/
  | gated
  /-- it is built elsewhere, and comes some time later -/
  | elsewhere
  deriving DecidableEq, Repr, Inhabited

/-- How engines are built. -/
structure Loader where
  /-- How long it takes. -/
  pace : Pace
  /-- What comes of it. -/
  build : Config → Except Error Engine

namespace Loader

/-- Builds engines without grammars at once. -/
def plain : Loader := ⟨.immediate, fun c => .ok (.plain c.themesToLoad)⟩

/-- Builds engines without grammars once the gate is open. -/
def gated : Loader := ⟨.gated, fun c => .ok (.plain c.themesToLoad)⟩

/-- Never builds an engine. -/
def failing : Loader := ⟨.immediate, fun _ => .error (.engineUnavailable "no grammars")⟩

/-- Builds engines with the grammars of a shelf. -/
def ofGrammars (shelf : GrammarShelf) (parser : Engine.Parser) : Loader :=
  ⟨.elsewhere, Engine.ofGrammars shelf parser⟩

/-- What comes of building an engine, its fault forgotten. -/
def handle (l : Loader) (c : Config) : Handle := (l.build c).toOption

end Loader

end PageHighlight
