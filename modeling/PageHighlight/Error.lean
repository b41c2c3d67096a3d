/-
  Error.lean --- what can go wrong, and how it is told.

  WHAT THIS FILE IS FOR.  Each constructor is a cause; `Error.message` is the one
  place that words it.
-/
import PageHighlight.Text.Basic

set_option autoImplicit false

namespace PageHighlight

/-- Why something could not be done. -/
inductive Error where
  /-- no engine could be built -/
  | engineUnavailable (why : Text)
  /-- a block's language is not on the allow-list -/
  | unsupportedLanguage (tag : Text)
  /-- a block could not be rendered -/
  | renderFailure (why : Text)
  /-- nothing could be written to a clipboard -/
  | clipboardFailure (why : Text)
  /-- a configuration script is wrong -/
  | config (why : Text)
  /-- a file could not be read -/
  | read (path why : Text)
  /-- a file could not be written -/
  | io (why : Text)
  deriving DecidableEq, Repr, Inhabited

namespace Error

/-- An error as it is told. -/
def message : Error → Text
  | engineUnavailable why => "highlighting engine unavailable: ".toList ++ why
  | unsupportedLanguage tag => "language `".toList ++ tag ++ "` is not enabled".toList
  | renderFailure why => "render failed: ".toList ++ why
  | clipboardFailure why => "clipboard write failed: ".toList ++ why
  | config why => "config error: ".toList ++ why
  | read path why => "failed to read ".toList ++ path ++ ": ".toList ++ why
  | io why => why

end Error

end PageHighlight
