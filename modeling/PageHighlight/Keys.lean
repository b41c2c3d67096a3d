/-
  Keys.lean --- the keys of a watched session.

  WHAT THIS FILE IS FOR.  While a page is watched, single keys switch its theme,
  render it again or copy a block.  `WatchCommand.ofEvent?` says what an event of
  the terminal asks for.
-/

set_option autoImplicit false

namespace PageHighlight

/-- What a key asks for. -/
inductive WatchCommand where
  /-- toggle the first class that means a dark page -/
  | toggleDarkClass
  /-- flip the preferred colour scheme -/
  | togglePreference
  /-- run a cycle -/
  | rerun
  /-- tell the current theme -/
  | showTheme
  /-- copy the first rendered block -/
  | copyFirst
  /-- end the session -/
  | quit
  deriving DecidableEq, Repr, Inhabited

/-- A key, as far as keys mean anything. -/
inductive Key where
  | char (c : Char)
  | escape
  | other
  deriving DecidableEq, Repr, Inhabited

/-- What happened to a key. -/
inductive KeyAction where
  | press
  | repeated
  | release
  deriving DecidableEq, Repr, Inhabited

/-- An event of a terminal. -/
inductive TerminalEvent where
  | key (key : Key) (control : Bool) (action : KeyAction)
  /-- the terminal changed its size or its focus, or text was pasted -/
  | other
  deriving DecidableEq, Repr, Inhabited

namespace WatchCommand

/-- What a key asks for; with the control key held, `c` ends the session. -/
def ofKey? (key : Key) (control : Bool) : Option WatchCommand :=
  match key with
  | .char 'c' => some (if control then quit else copyFirst)
  | .char 't' => some toggleDarkClass
  | .char 'p' => some togglePreference
  | .char 'r' => some rerun
  | .char 'i' => some showTheme
  | .char 'q' => some quit
  | .escape => some quit
  | _ => none

/-- What an event asks for; letting a key go asks for nothing. -/
def ofEvent? : TerminalEvent → Option WatchCommand
  | .key _ _ .release => none
  | .key key control _ => ofKey? key control
  | .other => none

end WatchCommand

end PageHighlight
