/-
  Help.lean --- what the program says about its command lines.

  WHAT THIS FILE IS FOR.  Help is asked for in general or on one command.  It names
  the operands and the options with what they are good for, in two columns.
-/
import PageHighlight.CommandLine

set_option autoImplicit false

namespace PageHighlight

namespace Help

/-- The name of the program. -/
def programName : Text := "glint"

/-- The program with its version. -/
def versionLine : Text := programName ++ " 0.1.0\n".toList

/-- Two columns, the first one as wide as its widest entry. -/
def columns (rows : List (Text × Text)) : List Text :=
  let width := (rows.map (·.1.length)).foldl max 0
  rows.map fun (left, right) =>
    "  ".toList ++ left ++ List.replicate (width - left.length + 2) ' ' ++ right

/-- The rows for options that all commands have. -/
def configRow : Text × Text :=
  ("    --config <FILE>",
    "rhai script, or a JSON config asset when the extension is `.json`".toList)

/-- The row for the option that asks for help. -/
def helpRow : Text × Text := ("-h, --help", "Print help")

/-- The commands and what they do. -/
def commands : List (Text × Text) :=
  [("render", "Render every block of a page once"),
   ("assets", "Write the stylesheet and config asset"),
   ("watch", "Keep a page rendered while toggling theme state from the keyboard"),
   ("help", "Print this message or the help of the given subcommand(s)")]

/-- A part of a help text with a heading. -/
def part (heading : String) (lines : List Text) : List Text :=
  if lines.isEmpty then [] else [[], heading.toList] ++ lines

/-- A help text. -/
def page (about usage : String) (parts : List Text) : Text :=
  ([about.toList, [], "Usage: ".toList ++ usage.toList] ++ parts).flatMap (· ++ ['\n'])

/-- Help in general. -/
def general : Text :=
  page "Highlight the code blocks of a generated documentation page" "glint [OPTIONS] <COMMAND>"
    (part "Commands:" (columns commands)
      ++ part "Options:" (columns [configRow, helpRow, ("-V, --version", "Print version")])
      ++ [[], "watch keys: t dark class, p OS preference, r rerun, i theme, c copy, q quit".toList])

/-- Help on one command. -/
def onCommand : CommandName → Text
  | .render =>
    page "Render every block of a page once" "glint render [OPTIONS] <INPUT>"
      (part "Arguments:" (columns [("<INPUT>", "Page to read")])
        ++ part "Options:" (columns
          [configRow, ("-o, --output <OUT>", "Write here instead of stdout"),
           ("    --dark", "Render as if the OS prefers a dark colour scheme"), helpRow]))
  | .assets =>
    page "Write the stylesheet and config asset" "glint assets [OPTIONS] <DIR>"
      (part "Arguments:" (columns [("<DIR>", "Directory to write into, created if missing")])
        ++ part "Options:" (columns [configRow, helpRow]))
  | .watch =>
    page "Keep a page rendered while toggling theme state from the keyboard"
      "glint watch [OPTIONS] <INPUT> <OUTPUT>"
      (part "Arguments:" (columns [("<INPUT>", []), ("<OUTPUT>", [])])
        ++ part "Options:" (columns [configRow, helpRow]))
  | .help =>
    page "Print this message or the help of the given subcommand(s)" "glint help [COMMAND]..."
      (part "Arguments:" (columns [("[COMMAND]...", "Print help for the subcommand(s)")]))

/-- Help on a command, or in general. -/
def text : Option CommandName → Text
  | none => general
  | some c => onCommand c

end Help

/-- A fault of a command line as it is told. -/
def UsageFault.message : UsageFault → Text
  | .help about => Help.text about
  | .version => Help.versionLine
  | .nothing => Help.general
  | .noCommand => "error: a command is missing\n"
  | .unknownCommand => "error: there is no such command\n"
  | .unknownArgument => "error: unexpected argument\n"
  | .missingOperand => "error: an operand is missing\n"
  | .invalidValue => "error: a value is missing or empty\n"
  | .repeated => "error: an option is given twice\n"
  | .unneededValue => "error: an option takes no value\n"

/-- Whether a command line was told what it asked for. -/
def UsageFault.isAnswer : UsageFault → Bool
  | .help _ | .version => true
  | _ => false

end PageHighlight
