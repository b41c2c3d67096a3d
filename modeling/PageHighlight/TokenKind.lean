/-
  TokenKind.lean --- the kinds of syntax that are told apart by colour.

  WHAT THIS FILE IS FOR.  A parse tree names its nodes as the grammar's author
  chose; `TokenKind.ofNode` sorts those names into fifteen kinds.  Most names mean
  the same in every grammar; the keywords of four languages are listed here.
-/
import PageHighlight.Language

set_option autoImplicit false

namespace PageHighlight

/-- What a piece of source is, as far as colour goes. -/
inductive TokenKind where
  | keyword
  | string
  | number
  | comment
  | function
  | typeName
  | variableName
  | operator
  | punctuation
  | property
  | constant
  | moduleName
  | parameter
  | label
  /-- nothing in particular; drawn like the rest of the block -/
  | plain
  deriving DecidableEq, Repr, Inhabited

namespace TokenKind

/-- Every kind, with its name. -/
def names : List (TokenKind × Text) :=
  [(keyword, "Keyword"), (string, "String"), (number, "Number"), (comment, "Comment"),
   (function, "Function"), (typeName, "Type"), (variableName, "Variable"),
   (operator, "Operator"), (punctuation, "Punctuation"), (property, "Property"),
   (constant, "Constant"), (moduleName, "Namespace"), (parameter, "Parameter"),
   (label, "Label"), (plain, "Default")]

/-- The name of a kind. -/
def name (k : TokenKind) : Text := ((names.find? (·.1 = k)).map (·.2)).getD []

/-- The kind with a name. -/
def ofName? (n : Text) : Option TokenKind := (names.find? (·.2 = n)).map (·.1)

/-- Node names that mean the same in every grammar. -/
def nodeNames : List (TokenKind × List Text) :=
  [(comment, ["comment", "line_comment", "block_comment", "doc_comment"]),
   (string, ["string", "string_literal", "raw_string", "raw_string_literal", "char_literal",
     "string_content", "string_fragment", "template_string", "escape_sequence",
     "interpreted_string_literal"]),
   (number, ["number", "integer", "float", "integer_literal", "float_literal",
     "number_literal"]),
   (keyword, ["keyword", "storage_class", "visibility_modifier", "mutable_specifier"]),
   (function, ["function_item", "function_definition", "method_definition",
     "function_declaration", "call_expression", "method_call"]),
   (typeName, ["type", "type_identifier", "primitive_type", "predefined_type", "generic_type",
     "class_definition"]),
   (variableName, ["identifier", "variable", "field_identifier",
     "shorthand_field_identifier"]),
   (operator, ["operator", "comparison_operator", "assignment_operator", "=", "==", "!=", "+",
     "-", "*", "/", "=>", "->", "&&", "||"]),
   (punctuation, ["(", ")", "[", "]", "\x7b", "\x7d", ";", ",", ":", ".", "::"]),
   (property, ["property", "property_identifier"]),
   (constant, ["true", "false", "null", "none", "nil", "boolean", "constant", "undefined"]),
   (moduleName, ["namespace", "module", "scoped_identifier"]),
   (parameter, ["parameter", "formal_parameter"]),
   (label, ["label", "loop_label", "lifetime", "attribute_item", "inner_attribute_item",
     "decorator"])]

/-- The keywords of a language, as its grammar names their nodes. -/
def keywordNames : Language → List String
  | .rust =>
    ["let", "fn", "pub", "mod", "use", "struct", "enum", "trait", "impl", "for", "loop",
     "while", "if", "else", "match", "return", "break", "continue", "async", "await", "const",
     "static", "mut", "ref", "self", "super", "crate", "where", "as", "in", "dyn", "move",
     "type", "unsafe", "extern"]
  | .python =>
    ["def", "class", "if", "elif", "else", "for", "while", "try", "except", "finally", "with",
     "as", "import", "from", "return", "yield", "raise", "pass", "break", "continue", "lambda",
     "and", "or", "not", "in", "is", "global", "nonlocal", "assert", "async", "await"]
  | .javascript | .typescript | .tsx =>
    ["function", "const", "let", "var", "if", "else", "for", "while", "do", "switch", "case",
     "default", "break", "continue", "return", "throw", "try", "catch", "finally", "class",
     "extends", "new", "this", "super", "import", "export", "from", "async", "await", "yield",
     "typeof", "instanceof", "in", "of", "delete", "void", "interface", "type", "enum",
     "implements", "public", "private", "protected", "readonly", "abstract", "static"]
  | .go =>
    ["func", "package", "import", "type", "struct", "interface", "map", "chan", "if", "else",
     "for", "range", "switch", "case", "default", "select", "break", "continue", "return",
     "go", "defer", "var", "const", "fallthrough"]
  | _ => []

/-- The keywords of a language as texts. -/
def keywords (lang : Language) : List Text := (keywordNames lang).map String.toList

/-- The kind of a node with this name in a tree of this language. -/
def ofNode (lang : Language) (node : Text) : TokenKind :=
  match nodeNames.find? (·.2.contains node) with
  | some (kind, _) => kind
  | none =>
    if (keywords lang).contains node then keyword
    else if lang = .rust ∧ node = "macro_invocation".toList then function
    else plain

end TokenKind

end PageHighlight
