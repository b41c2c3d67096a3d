/-
  Config.lean --- the configuration of a page's highlighting.

  WHAT THIS FILE IS FOR.  A configuration names the themes, the languages that
  may be rendered, the passes over rendered blocks, the classes that mark blocks
  or dark pages, and the delays of a session.  It is written as JSON and read
  back; what a text leaves out keeps its default.

  LANGUAGES.  The allow-list compares canonical tags on both sides, so `js` in
  the list allows blocks tagged `javascript`.
-/
import PageHighlight.Json.Basic
import PageHighlight.Json.Reader
import PageHighlight.Language

set_option autoImplicit false

namespace PageHighlight

/-! ## The records -/

/-- The delays of a session, in milliseconds. -/
structure Timings where
  /-- From the start to the early cycle. -/
  shortDelay : Nat
  /-- From the start to the late cycle. -/
  fallbackDelay : Nat
  /-- From a restore to the cycle that renders again. -/
  settle : Nat
  /-- How long a copy control shows that it copied. -/
  copyRevert : Nat
  deriving DecidableEq, Repr, Inhabited

namespace Timings

/-- The delays where none are given. -/
def standard : Timings := ⟨100, 1000, 50, 2000⟩

/-- No delays at all. -/
def immediate : Timings := ⟨0, 0, 0, 0⟩

end Timings

/-- The configuration of a page's highlighting. -/
structure Config where
  /-- The theme of light pages. -/
  defaultTheme : Text
  /-- The theme of dark pages. -/
  darkTheme : Text
  /-- The languages that may be rendered; plain text always may. -/
  languages : List Text
  /-- Further themes to load. -/
  preloadThemes : List Text
  /-- The directory of the grammars. -/
  engineSource : Text
  /-- The names of the passes over rendered blocks. -/
  transformers : List Text
  /-- Blocks with one of these classes are left alone. -/
  exclusionMarkers : List Text
  /-- Root classes, or values of `data-theme`, that mean a dark page. -/
  darkIndicators : List Text
  /-- How many blocks are rendered at a time. -/
  batchSize : Nat
  /-- The delays. -/
  timings : Timings
  deriving DecidableEq, Repr, Inhabited

namespace Config

/-- The directory of this program in a user's configuration directory. -/
def directory (userDirectory : Text) : Text := userDirectory ++ "/glint".toList

/-- The script that says what a user wants on all pages. -/
def scriptPath (userDirectory : Text) : Text := directory userDirectory ++ "/init.rhai".toList

/-- Where grammars are looked for if a configuration does not say. -/
def defaultEngineSource (userDirectory : Text) : Text :=
  directory userDirectory ++ "/grammars".toList

/-- The configuration that nothing was said about, for a user with this
configuration directory. -/
def standard (userDirectory : Text) : Config where
  defaultTheme := "gruvbox-light"
  darkTheme := "gruvbox-dark"
  languages := ["rust", "python", "javascript", "typescript", "go", "c", "cpp", "json", "toml",
    "bash", "html", "css", "yaml"]
  preloadThemes := []
  engineSource := defaultEngineSource userDirectory
  transformers := []
  exclusionMarkers := ["language-repl", "repl", "nohighlight", "no-highlight"]
  darkIndicators := ["dark", "navy", "coal", "ayu"]
  batchSize := 5
  timings := Timings.standard

/-! ## What a configuration says -/

/-- Whether blocks with this language tag may be rendered. -/
def allows (c : Config) (tag : Text) : Bool :=
  let tag := Language.canonicalTag tag
  tag = Language.plainText || c.languages.any fun l => Language.canonicalTag l = tag

/-- The themes to load, each once, in the order in which the configuration names
them. -/
def themesToLoad (c : Config) : List Text :=
  Text.distinct (c.defaultTheme :: c.darkTheme :: c.preloadThemes)

/-! ## JSON -/

/-- The delays as JSON. -/
def timingsJson (t : Timings) : Json :=
  .object
    [("short_delay_ms", .number t.shortDelay), ("fallback_delay_ms", .number t.fallbackDelay),
     ("settle_ms", .number t.settle), ("copy_revert_ms", .number t.copyRevert)]

/-- A configuration as JSON. -/
def toJson (c : Config) : Json :=
  .object
    [("default_theme", .text c.defaultTheme), ("dark_theme", .text c.darkTheme),
     ("languages", .texts c.languages), ("preload_themes", .texts c.preloadThemes),
     ("engine_source", .text c.engineSource), ("transformers", .texts c.transformers),
     ("exclusion_markers", .texts c.exclusionMarkers),
     ("dark_indicators", .texts c.darkIndicators), ("batch_size", .number c.batchSize),
     ("timings", timingsJson c.timings)]

/-- A configuration as a text. -/
def write (c : Config) : Text := c.toJson.pretty

/-- A field whose value is a whole number of 64 bits. -/
def natField {σ : Type} (name : Text) (put : σ → Nat → σ) : Json.Field σ :=
  ⟨name, fun s t => (Json.readNat Text.wordLimit t).map fun (n, t) => (put s n, t)⟩

/-- A field whose value is a text. -/
def textField {σ : Type} (name : Text) (put : σ → Text → σ) : Json.Field σ :=
  ⟨name, fun s t => (Json.readText t).map fun (x, t) => (put s x, t)⟩

/-- A field whose value is a list of texts. -/
def textsField {σ : Type} (name : Text) (put : σ → List Text → σ) : Json.Field σ :=
  ⟨name, fun s t => (Json.readList Json.readText t).map fun (xs, t) => (put s xs, t)⟩

/-- The fields of the delays, in order. -/
def timingsFields : List (Json.Field Timings) :=
  [natField "short_delay_ms" fun s n => { s with shortDelay := n },
   natField "fallback_delay_ms" fun s n => { s with fallbackDelay := n },
   natField "settle_ms" fun s n => { s with settle := n },
   natField "copy_revert_ms" fun s n => { s with copyRevert := n }]

/-- The fields of a configuration, in order. -/
def fields : List (Json.Field Config) :=
  [textField "default_theme" fun s x => { s with defaultTheme := x },
   textField "dark_theme" fun s x => { s with darkTheme := x },
   textsField "languages" fun s xs => { s with languages := xs },
   textsField "preload_themes" fun s xs => { s with preloadThemes := xs },
   textField "engine_source" fun s x => { s with engineSource := x },
   textsField "transformers" fun s xs => { s with transformers := xs },
   textsField "exclusion_markers" fun s xs => { s with exclusionMarkers := xs },
   textsField "dark_indicators" fun s xs => { s with darkIndicators := xs },
   natField "batch_size" fun s n => { s with batchSize := n },
   ⟨"timings", fun s t =>
     (Json.readRecord timingsFields Timings.standard t).map fun (ts, t) =>
       ({ s with timings := ts }, t)⟩]

/-- Read a configuration; what the text leaves out is as in `base`. -/
def read (base : Config) (t : Text) : Except Json.Fault Config :=
  Json.readWholeText (Json.readRecord fields base) t

end Config

end PageHighlight
