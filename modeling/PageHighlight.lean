import PageHighlight.AnnotatedSource
import PageHighlight.Assets
import PageHighlight.Clipboard
import PageHighlight.Color
import PageHighlight.CommandLine
import PageHighlight.Config
import PageHighlight.ConfigChange
import PageHighlight.Directive
import PageHighlight.Engine.Basic
import PageHighlight.Engine.Cache
import PageHighlight.Entity
import PageHighlight.Error
import PageHighlight.FilePath
import PageHighlight.FileTree
import PageHighlight.Fragment
import PageHighlight.Grammar.Metadata
import PageHighlight.Grammar.Registry
import PageHighlight.Help
import PageHighlight.Highlight
import PageHighlight.Json.Basic
import PageHighlight.Json.Reader
import PageHighlight.Keys
import PageHighlight.Language
import PageHighlight.Level
import PageHighlight.Main
import PageHighlight.MarkerPass
import PageHighlight.Markup
import PageHighlight.Page.Basic
import PageHighlight.Page.Html
import PageHighlight.Page.Part
import PageHighlight.Page.Shared
import PageHighlight.Page.Tag
import PageHighlight.Program
import PageHighlight.Script.Basic
import PageHighlight.Script.Calls
import PageHighlight.Script.Operators
import PageHighlight.Script.Parser
import PageHighlight.Script.Run
import PageHighlight.Script.Token
import PageHighlight.Session.Activity
import PageHighlight.Session.Basic
import PageHighlight.Session.Clock
import PageHighlight.Session.Console
import PageHighlight.Session.Copying
import PageHighlight.Session.Cycle
import PageHighlight.Session.Reactor
import PageHighlight.Session.Render
import PageHighlight.Session.Triggers
import PageHighlight.Session.World
import PageHighlight.Stylesheet
import PageHighlight.Text.Alphanumeric
import PageHighlight.Text.Base64
import PageHighlight.Text.Basic
import PageHighlight.Text.Blank
import PageHighlight.Text.Decimal
import PageHighlight.Text.LowerCase
import PageHighlight.Text.Quoted
import PageHighlight.Theme
import PageHighlight.TokenKind
import PageHighlight.Proofs.Annotation.Numbers
import PageHighlight.Proofs.Annotation.Levels
import PageHighlight.Proofs.Entity
import PageHighlight.Proofs.Highlight.Lines
import PageHighlight.Proofs.Highlight.LevelClasses
import PageHighlight.Proofs.Highlight.Themes
import PageHighlight.Proofs.Markup.Reading
import PageHighlight.Proofs.Markup.Tags
import PageHighlight.Proofs.Markup.Shown
import PageHighlight.Proofs.Page.Edit
import PageHighlight.Proofs.Page.Identity
import PageHighlight.Proofs.Page.Tag
import PageHighlight.Proofs.Page.Blocks
import PageHighlight.Proofs.Page.Shown
import PageHighlight.Proofs.Page.Operations
import PageHighlight.Proofs.Page.Offsets
import PageHighlight.Proofs.Page.RoundTrip
import PageHighlight.Proofs.Page.Parts
import PageHighlight.Proofs.Page.Slots
import PageHighlight.Proofs.Page.Readable
import PageHighlight.Proofs.Page.Observers
import PageHighlight.Proofs.Engine
import PageHighlight.Proofs.Engine.Keys
import PageHighlight.Proofs.Engine.Traffic
import PageHighlight.Proofs.Engine.Queue
import PageHighlight.Proofs.Engine.Agreement
import PageHighlight.Proofs.Engine.Constructions
import PageHighlight.Proofs.Session.History
import PageHighlight.Proofs.Session.Pact
import PageHighlight.Proofs.Session.Edits
import PageHighlight.Proofs.Session.Original
import PageHighlight.Proofs.Session.SingleFlight
import PageHighlight.Proofs.Session.Candidates
import PageHighlight.Proofs.Session.Watching
import PageHighlight.Proofs.Session.ThemeChange
import PageHighlight.Proofs.Session.Showing
import PageHighlight.Proofs.Session.Calls
import PageHighlight.Proofs.Session.Fate
import PageHighlight.Proofs.Session.Batches
import PageHighlight.Proofs.Session.Completed
import PageHighlight.Proofs.Session.PassesThrough
import PageHighlight.Proofs.Session.Reread
import PageHighlight.Proofs.Session.Flights
import PageHighlight.Proofs.Session.Marks
import PageHighlight.Proofs.Session.AtWork
import PageHighlight.Proofs.Session.Dropped
import PageHighlight.Proofs.Session.Again
import PageHighlight.Proofs.Session.Happenings
import PageHighlight.Proofs.Session.Turns
import PageHighlight.Proofs.Session.Lifecycle
import PageHighlight.Proofs.Session.Untouched
import PageHighlight.Proofs.Session.InFlight
import PageHighlight.Proofs.Text.Blank
import PageHighlight.Proofs.Text.Decimal
import PageHighlight.Proofs.Text.Occurrences
import PageHighlight.Proofs.Text.LowerCase
import PageHighlight.Proofs.Text.AsciiLower
import PageHighlight.Proofs.Language
import PageHighlight.Proofs.Engine.Grammars
import PageHighlight.Proofs.Annotation.Comments
import PageHighlight.Proofs.Annotation.Readings
import PageHighlight.Proofs.Annotation.Written
import PageHighlight.Proofs.Annotation.KeptBehind
import PageHighlight.Proofs.Highlight.Markers
import PageHighlight.Proofs.Session.Answered
import PageHighlight.Proofs.Session.Work
import PageHighlight.Proofs.Session.Settled
import PageHighlight.Proofs.Page.Rewriting
import PageHighlight.Proofs.Page.Boundaries
import PageHighlight.Proofs.Highlight.Runs
import PageHighlight.Proofs.Page.Root
import PageHighlight.Proofs.Highlight.Spans
import PageHighlight.Proofs.Highlight.MarkerClasses
import PageHighlight.Proofs.Text.Numeral
import PageHighlight.Proofs.Annotation.RangeLists
import PageHighlight.Proofs.Markup.References
import PageHighlight.Proofs.Page.CopyStates
import PageHighlight.Proofs.Session.Time
import PageHighlight.Proofs.Session.CopySteps
import PageHighlight.Proofs.Session.Copies
import PageHighlight.Proofs.Json.Written
import PageHighlight.Proofs.Json.Reading
import PageHighlight.Proofs.Config
import PageHighlight.Proofs.Text.Sorted
import PageHighlight.Proofs.Json.Fields
import PageHighlight.Proofs.Grammar.Metadata
import PageHighlight.Proofs.Grammar.Loading
import PageHighlight.Proofs.Grammar.Registry
import PageHighlight.Proofs.FilePath
import PageHighlight.Proofs.Engine.SameKey
import PageHighlight.Proofs.ConfigChange
import PageHighlight.Proofs.Script.Calls
import PageHighlight.Proofs.Annotation.Bounds
