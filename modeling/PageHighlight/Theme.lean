/-
  Theme.lean --- themes: the colours of a block and of each kind of syntax.

  WHAT THIS FILE IS FOR.  A theme gives the colours of a whole block and a style
  for every kind of syntax but the plain one, which is drawn in the block's own
  colour.  Six themes are built in; a name finds the theme that bears it
  (`name_eq_of_named?`).
-/
import PageHighlight.Color
import PageHighlight.TokenKind

set_option autoImplicit false

namespace PageHighlight

/-- A style for every kind of syntax that has one of its own. -/
structure Palette where
  keyword : Style
  string : Style
  number : Style
  comment : Style
  function : Style
  typeName : Style
  variableName : Style
  operator : Style
  punctuation : Style
  property : Style
  constant : Style
  moduleName : Style
  label : Style
  deriving DecidableEq, Repr, Inhabited

/-- A theme. -/
structure Theme where
  /-- The name that configurations and markup use. -/
  name : Text
  /-- Whether it is meant for dark pages. -/
  dark : Bool
  /-- The colour behind a block. -/
  background : Color
  /-- The colour of its text. -/
  foreground : Color
  /-- The styles of the kinds of syntax. -/
  palette : Palette
  deriving DecidableEq, Repr, Inhabited

namespace Theme

/-- The style of a kind; none means the block's own colour.  Parameters are drawn
like variables. -/
def styleFor? (t : Theme) : TokenKind → Option Style
  | .keyword => some t.palette.keyword
  | .string => some t.palette.string
  | .number => some t.palette.number
  | .comment => some t.palette.comment
  | .function => some t.palette.function
  | .typeName => some t.palette.typeName
  | .variableName | .parameter => some t.palette.variableName
  | .operator => some t.palette.operator
  | .punctuation => some t.palette.punctuation
  | .property => some t.palette.property
  | .constant => some t.palette.constant
  | .moduleName => some t.palette.moduleName
  | .label => some t.palette.label
  | .plain => none

/-! ## The built-in themes -/

/-- Letters of a packed colour. -/
def color (packed : Nat) : Style := .ofColor (.ofPacked packed)

/-- The warm dark theme. -/
def gruvboxDark : Theme where
  name := "gruvbox-dark"
  dark := true
  background := .ofPacked 0x282828
  foreground := .ofPacked 0xebdbb2
  palette :=
    { keyword := (color 0xfb4934).inBold
      string := color 0xb8bb26
      number := color 0xd3869b
      comment := (color 0x928374).inItalic
      function := color 0xfabd2f
      typeName := color 0x83a598
      variableName := color 0xebdbb2
      operator := color 0xfe8019
      punctuation := color 0xa89984
      property := color 0x8ec07c
      constant := color 0xd3869b
      moduleName := color 0x83a598
      label := (color 0xfe8019).inItalic }

/-- The warm light theme, used where none is named. -/
def gruvboxLight : Theme where
  name := "gruvbox-light"
  dark := false
  background := .ofPacked 0xfbf1c7
  foreground := .ofPacked 0x3c3836
  palette :=
    { keyword := (color 0x9d0006).inBold
      string := color 0x79740e
      number := color 0x8f3f71
      comment := (color 0x928374).inItalic
      function := color 0xb57614
      typeName := color 0x076678
      variableName := color 0x3c3836
      operator := color 0xd65d0e
      punctuation := color 0x3c3836
      property := color 0x427b58
      constant := color 0x8f3f71
      moduleName := color 0x076678
      label := (color 0xaf3a03).inItalic }

/-- The cold blue theme. -/
def nord : Theme where
  name := "nord"
  dark := true
  background := .ofPacked 0x2e3440
  foreground := .ofPacked 0xd8dee9
  palette :=
    { keyword := (color 0x81a1c1).inBold
      string := color 0xa3be8c
      number := color 0xb48ead
      comment := (color 0x616e88).inItalic
      function := color 0x88c0d0
      typeName := color 0x8fbcbb
      variableName := color 0xd8dee9
      operator := color 0x81a1c1
      punctuation := color 0xeceff4
      property := color 0x88c0d0
      constant := color 0xb48ead
      moduleName := color 0x8fbcbb
      label := (color 0xd08770).inItalic }

/-- The dark theme with strong colours. -/
def dracula : Theme where
  name := "dracula"
  dark := true
  background := .ofPacked 0x282a36
  foreground := .ofPacked 0xf8f8f2
  palette :=
    { keyword := (color 0xff79c6).inBold
      string := color 0xf1fa8c
      number := color 0xbd93f9
      comment := (color 0x6272a4).inItalic
      function := color 0x50fa7b
      typeName := (color 0x8be9fd).inItalic
      variableName := color 0xf8f8f2
      operator := color 0xff79c6
      punctuation := color 0xf8f8f2
      property := color 0x66d9ef
      constant := color 0xbd93f9
      moduleName := color 0x8be9fd
      label := (color 0xffb86c).inItalic }

/-- The dark theme of low contrast. -/
def solarizedDark : Theme where
  name := "solarized-dark"
  dark := true
  background := .ofPacked 0x002b36
  foreground := .ofPacked 0x839496
  palette :=
    { keyword := (color 0x859900).inBold
      string := color 0x2aa198
      number := color 0xd33682
      comment := (color 0x586e75).inItalic
      function := color 0x268bd2
      typeName := color 0xb58900
      variableName := color 0x839496
      operator := color 0x859900
      punctuation := color 0x839496
      property := color 0x268bd2
      constant := color 0xcb4b16
      moduleName := color 0x6c71c4
      label := (color 0xcb4b16).inItalic }

/-- The light theme of low contrast, with the dark one's palette. -/
def solarizedLight : Theme :=
  { solarizedDark with
    name := "solarized-light"
    dark := false
    background := .ofPacked 0xfdf6e3
    foreground := .ofPacked 0x657b83 }

/-- The built-in themes. -/
def builtin : List Theme :=
  [gruvboxDark, gruvboxLight, nord, dracula, solarizedDark, solarizedLight]

/-- The built-in theme with a name. -/
def named? (n : Text) : Option Theme := builtin.find? (·.name = n)

/-- The theme used where none is named. -/
def fallback : Theme := gruvboxLight

/-- A theme found by a name bears it. -/
theorem name_eq_of_named? {n : Text} {t : Theme} (h : named? n = some t) : t.name = n := by
  simpa using List.find?_some h

end Theme

end PageHighlight
