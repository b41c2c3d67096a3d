/-
  ConfigChange.lean --- the changes that a script can make to a configuration.

  WHAT THIS FILE IS FOR.  Whatever a script computes, all it can do to a
  configuration is one of these changes after another.  Languages are noted by
  their canonical tags and only once; the batch size stays between its bounds.
-/
import PageHighlight.Config

set_option autoImplicit false

namespace PageHighlight

/-- A change to a configuration. -/
inductive ConfigChange where
  /-- use this theme on light pages -/
  | defaultTheme (name : Text)
  /-- use this theme on dark pages -/
  | darkTheme (name : Text)
  /-- let blocks in this language be rendered too -/
  | allowLanguage (tag : Text)
  /-- let no blocks but those of plain text be rendered -/
  | clearLanguages
  /-- load this theme too -/
  | preloadTheme (name : Text)
  /-- look for grammars in this directory -/
  | engineSource (directory : Text)
  /-- run this pass over rendered blocks too -/
  | useTransformer (name : Text)
  /-- leave blocks with this class alone too -/
  | excludeClass (c : Text)
  /-- take this class of the root element for a sign of a dark page too -/
  | darkIndicator (c : Text)
  /-- render so many blocks at a time -/
  | batchSize (n : Int)
  deriving DecidableEq, Repr, Inhabited

namespace Config

/-- The largest batch size that a script can set. -/
def maxBatchSize : Nat := 64

/-- A number brought into the bounds of batch sizes. -/
def clampBatchSize (n : Int) : Nat := (max 1 (min n maxBatchSize)).toNat

/-- The configuration after a change. -/
def apply (change : ConfigChange) (c : Config) : Config :=
  match change with
  | .defaultTheme name => { c with defaultTheme := name }
  | .darkTheme name => { c with darkTheme := name }
  | .allowLanguage tag =>
    let tag := Language.canonicalTag tag
    if c.languages.contains tag then c else { c with languages := c.languages ++ [tag] }
  | .clearLanguages => { c with languages := [] }
  | .preloadTheme name => { c with preloadThemes := c.preloadThemes ++ [name] }
  | .engineSource directory => { c with engineSource := directory }
  | .useTransformer name => { c with transformers := c.transformers ++ [name] }
  | .excludeClass k => { c with exclusionMarkers := c.exclusionMarkers ++ [k] }
  | .darkIndicator k => { c with darkIndicators := c.darkIndicators ++ [k] }
  | .batchSize n => { c with batchSize := clampBatchSize n }

/-- The configuration after changes, the first one made first. -/
def applyAll (changes : List ConfigChange) (c : Config) : Config :=
  changes.foldl (fun c change => c.apply change) c

end Config

end PageHighlight
