/-
  Language.lean --- programming languages and the tags that name them.

  WHAT THIS FILE IS FOR.  A block says its language by a tag such as `rs` or
  `C++`.  `Language.ofTag` knows the usual tags; `Language.canonicalTag` gives
  every tag the one spelling under which allow-lists and grammars know it: the
  grammar's name for a known language, `text` for plain text, the tag in lower
  case for everything else.
-/
import PageHighlight.Text.LowerCase

set_option autoImplicit false

namespace PageHighlight

/-- The languages that are known by name. -/
inductive Language where
  | rust
  | python
  | javascript
  | typescript
  | tsx
  | go
  | c
  | cpp
  | json
  | toml
  | markdown
  | bash
  | lua
  | ruby
  | html
  | css
  | yaml
  | unknown
  deriving DecidableEq, Repr, Inhabited

namespace Language

/-- Every language but `unknown`. -/
def known : List Language :=
  [rust, python, javascript, typescript, tsx, go, c, cpp, json, toml, markdown, bash, lua, ruby,
   html, css, yaml]

/-- The tags of a language, in lower case; the first is the name of its
grammar. -/
def tags : Language → List Text
  | rust => ["rust", "rs"]
  | python => ["python", "py", "pyw", "pyi"]
  | javascript => ["javascript", "js", "mjs", "cjs", "jsx"]
  | typescript => ["typescript", "ts", "mts", "cts"]
  | tsx => ["tsx"]
  | go => ["go", "golang"]
  | c => ["c", "h"]
  | cpp => ["cpp", "c++", "cc", "cxx", "hpp", "hxx", "hh"]
  | json => ["json"]
  | toml => ["toml"]
  | markdown => ["markdown", "md"]
  | bash => ["bash", "sh", "shell", "zsh"]
  | lua => ["lua"]
  | ruby => ["ruby", "rb"]
  | html => ["html", "htm"]
  | css => ["css", "scss"]
  | yaml => ["yaml", "yml"]
  | unknown => []

/-- The name of a language for readers. -/
def title : Language → Text
  | rust => "Rust"
  | python => "Python"
  | javascript => "JavaScript"
  | typescript => "TypeScript"
  | tsx => "TSX"
  | go => "Go"
  | c => "C"
  | cpp => "C++"
  | json => "JSON"
  | toml => "TOML"
  | markdown => "Markdown"
  | bash => "Bash"
  | lua => "Lua"
  | ruby => "Ruby"
  | html => "HTML"
  | css => "CSS"
  | yaml => "YAML"
  | unknown => "Plain Text"

/-- The name of a language's grammar. -/
def grammar? (l : Language) : Option Text := l.tags.head?

/-- The language that a tag names, in any letter case. -/
def ofTag (tag : Text) : Language :=
  let tag := Text.lowercase tag
  (known.find? (·.tags.contains tag)).getD unknown

/-- The tag of a block that is not in any language. -/
def plainText : Text := "text"

/-- The tags that mean plain text. -/
def plainTextTags : List Text := ["", "txt", "plain", "plaintext", "text"]

/-- The one spelling of a tag, blanks around it left out. -/
def canonicalTag (tag : Text) : Text :=
  let tag := Text.trim tag
  match (ofTag tag).grammar? with
  | some name => name
  | none =>
    let tag := Text.lowercase tag
    if plainTextTags.contains tag then plainText else tag

/-- What a class name says about the language, if it says anything. -/
def classTag? (className : Text) : Option Text := Text.dropPrefix? "language-" className

/-- The tag given by the first class that gives one. -/
def tagOfClasses? (classes : List Text) : Option Text := classes.findSome? classTag?

end Language

end PageHighlight
