import Clickpath.Arguments
import Clickpath.Assistant
import Clickpath.Base64
import Clickpath.Chars.AnyCase
import Clickpath.Chars.Blank
import Clickpath.Chars.Case
import Clickpath.Chars.Digit
import Clickpath.Chars.Lines
import Clickpath.Chars.Printable
import Clickpath.Chars.Search
import Clickpath.Chars.Word
import Clickpath.Command
import Clickpath.Command.Execution
import Clickpath.Command.World
import Clickpath.Datum
import Clickpath.Datum.Display
import Clickpath.Datum.Textual
import Clickpath.Decimal.Binary64
import Clickpath.Decimal.Reader
import Clickpath.Decimal.Shortest
import Clickpath.Disk
import Clickpath.Disk.Path
import Clickpath.Disk.Wildcard
import Clickpath.Driver
import Clickpath.Driver.Capture
import Clickpath.Driver.Page
import Clickpath.Interpreter
import Clickpath.Json.Literal
import Clickpath.Json.Reader
import Clickpath.Locator.Attempt
import Clickpath.Locator.Inference
import Clickpath.Locator.Place
import Clickpath.Locator.Record
import Clickpath.Locator.Snapshot
import Clickpath.Main
import Clickpath.Markup.Builder
import Clickpath.Markup.CharacterName
import Clickpath.Markup.Document
import Clickpath.Markup.Event
import Clickpath.Markup.Linked
import Clickpath.Markup.Node
import Clickpath.Markup.Reference
import Clickpath.Markup.Tag
import Clickpath.Moment
import Clickpath.Moment.Reader
import Clickpath.Proofs.Assistant.Fencing
import Clickpath.Proofs.Chars.Categories
import Clickpath.Proofs.Chars.Classes
import Clickpath.Proofs.Chars.Reading
import Clickpath.Proofs.Chars.Words
import Clickpath.Proofs.Command.Parsing
import Clickpath.Proofs.Disk.Differing
import Clickpath.Proofs.Disk.Following
import Clickpath.Proofs.Disk.Making
import Clickpath.Proofs.Disk.Patterns
import Clickpath.Proofs.Disk.Removing
import Clickpath.Proofs.Disk.Searching
import Clickpath.Proofs.Disk.Writing
import Clickpath.Proofs.Driver.Page
import Clickpath.Proofs.Driver.Stopping
import Clickpath.Proofs.Locator.Addresses
import Clickpath.Proofs.Locator.Attempting
import Clickpath.Proofs.Locator.ChildPath
import Clickpath.Proofs.Locator.CssPath
import Clickpath.Proofs.Locator.Offers
import Clickpath.Proofs.Locator.ReadPage
import Clickpath.Proofs.Locator.RelativePath
import Clickpath.Proofs.Locator.Stability
import Clickpath.Proofs.Locator.StyleRule
import Clickpath.Proofs.Locator.Tree
import Clickpath.Proofs.Markup.Entries
import Clickpath.Proofs.Markup.Layout
import Clickpath.Proofs.Markup.Links
import Clickpath.Proofs.Markup.Mirroring
import Clickpath.Proofs.Markup.Rebuilding
import Clickpath.Proofs.Markup.Traversal
import Clickpath.Proofs.Moment.Written
import Clickpath.Proofs.Record.Clock
import Clickpath.Proofs.Record.Drawn
import Clickpath.Proofs.Record.Made
import Clickpath.Proofs.Record.Misfits
import Clickpath.Proofs.Record.Parts
import Clickpath.Proofs.Record.Shapes
import Clickpath.Proofs.Record.Stored
import Clickpath.Proofs.Repository.Entries
import Clickpath.Proofs.Repository.Files
import Clickpath.Proofs.Repository.Finding
import Clickpath.Proofs.Repository.Keeping
import Clickpath.Proofs.Repository.Ordering
import Clickpath.Proofs.Repository.Replacing
import Clickpath.Proofs.Repository.Restoring
import Clickpath.Proofs.Repository.Saving
import Clickpath.Proofs.Repository.Scanning
import Clickpath.Proofs.Repository.Skipping
import Clickpath.Proofs.Repository.Storing
import Clickpath.Proofs.Repository.Visiting
import Clickpath.Proofs.Run.Account
import Clickpath.Proofs.Run.Agreement
import Clickpath.Proofs.Run.Closing
import Clickpath.Proofs.Run.Course
import Clickpath.Proofs.Run.Demands
import Clickpath.Proofs.Run.Indifference
import Clickpath.Proofs.Run.Results
import Clickpath.Proofs.Run.Stages
import Clickpath.Proofs.Scenario.Captures
import Clickpath.Proofs.Scenario.Designed
import Clickpath.Proofs.Scenario.LineByLine
import Clickpath.Proofs.Scenario.Quoting
import Clickpath.Proofs.Screenshot.Granting
import Clickpath.Proofs.Screenshot.Naming
import Clickpath.Proofs.Screenshot.Sharing
import Clickpath.Proofs.Script.Brackets
import Clickpath.Proofs.Script.ClosedTexts
import Clickpath.Proofs.Script.Containment
import Clickpath.Proofs.Script.Contents
import Clickpath.Proofs.Script.Deeds
import Clickpath.Proofs.Script.Denotation
import Clickpath.Proofs.Script.FixedLines
import Clickpath.Proofs.Script.Identifiers
import Clickpath.Proofs.Script.Idiom
import Clickpath.Proofs.Script.Layout
import Clickpath.Proofs.Script.Lexis
import Clickpath.Proofs.Script.Lines
import Clickpath.Proofs.Script.Literal
import Clickpath.Proofs.Script.Registering
import Clickpath.Proofs.Script.Targets
import Clickpath.Proofs.Script.TextLocators
import Clickpath.Proofs.Selector.StyleString
import Clickpath.Proofs.Session.Conversation
import Clickpath.Proofs.Session.Exchange
import Clickpath.Proofs.Text.Whole
import Clickpath.Proofs.XPath.Expression
import Clickpath.Proofs.XPath.Tokens
import Clickpath.Proofs.Yaml.Blocks
import Clickpath.Proofs.Yaml.Clean
import Clickpath.Proofs.Yaml.Escaped
import Clickpath.Proofs.Yaml.Nodes
import Clickpath.Proofs.Yaml.Pieces
import Clickpath.Proofs.Yaml.Places
import Clickpath.Proofs.Yaml.Plain
import Clickpath.Proofs.Yaml.Quoted
import Clickpath.Proofs.Yaml.Runs
import Clickpath.Record.Designer
import Clickpath.Record.Issue
import Clickpath.Record.Shape
import Clickpath.Record.Tests
import Clickpath.Repository
import Clickpath.Repository.Backend
import Clickpath.Repository.Directory
import Clickpath.Repository.Memory
import Clickpath.Run
import Clickpath.Run.Outcome
import Clickpath.Run.Surroundings
import Clickpath.Scenario
import Clickpath.Scenario.Line
import Clickpath.Screenshot
import Clickpath.Script.Catalog
import Clickpath.Script.Emitter
import Clickpath.Script.Identifier
import Clickpath.Script.Java
import Clickpath.Script.JavaScript
import Clickpath.Script.Python
import Clickpath.Selector
import Clickpath.Selector.Native
import Clickpath.Selector.XPath
import Clickpath.Session
import Clickpath.Settings
import Clickpath.Step
import Clickpath.Supply
import Clickpath.Test
import Clickpath.Text
import Clickpath.Text.Loose
import Clickpath.Text.Quoted
import Clickpath.Utf8
import Clickpath.Web
import Clickpath.Yaml.Cursor
import Clickpath.Yaml.Fault
import Clickpath.Yaml.Layout
import Clickpath.Yaml.Mark
import Clickpath.Yaml.Node
import Clickpath.Yaml.Node.Reader
import Clickpath.Yaml.Scalar
import Clickpath.Yaml.Tag
import Clickpath.Yaml.Token
import Clickpath.Yaml.Value
import Clickpath.Yaml.Writer
