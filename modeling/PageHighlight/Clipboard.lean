/-
  Clipboard.lean --- clipboard text on its way through a terminal.

  WHAT THIS FILE IS FOR.  Where no clipboard can be reached, the text to be
  copied is sent to the terminal in an escape sequence that terminals understand
  as a request to fill theirs.
-/
import PageHighlight.Text.Base64

set_option autoImplicit false

namespace PageHighlight

namespace Clipboard

/-- The sequence that asks a terminal to take a text into its clipboard. -/
def terminalSequence (t : Text) : Text :=
  "\x1B]52;c;".toList ++ Text.base64 (Text.utf8 t) ++ ['\x07']

end Clipboard

end PageHighlight
