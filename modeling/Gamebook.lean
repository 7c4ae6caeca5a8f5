import Gamebook.Boundary
import Gamebook.Choice
import Gamebook.CommandLine.Command
import Gamebook.CommandLine.LogLevel
import Gamebook.CommandLine.Reading
import Gamebook.CommandLine.Run
import Gamebook.CommandLine.Usage
import Gamebook.Data
import Gamebook.Decimal.Layout
import Gamebook.Decimal.Read
import Gamebook.Decimal.Remainder
import Gamebook.Decimal.Shortest
import Gamebook.Dice
import Gamebook.Document.Basic
import Gamebook.Document.Check
import Gamebook.Document.Decode
import Gamebook.Document.Parse
import Gamebook.Engine
import Gamebook.Fault
import Gamebook.Fields
import Gamebook.Files.Basic
import Gamebook.Files.Path
import Gamebook.Files.Tree
import Gamebook.Host
import Gamebook.Json.Basic
import Gamebook.Json.Decoder
import Gamebook.Json.Reader
import Gamebook.Main
import Gamebook.Markup.Event
import Gamebook.Markup.Input
import Gamebook.Markup.Scalar
import Gamebook.Markup.Token
import Gamebook.Markup.Tokens
import Gamebook.Markup.Tree
import Gamebook.Play.Agent
import Gamebook.Play.LineMode
import Gamebook.Play.Typed
import Gamebook.Player
import Gamebook.PlayerState
import Gamebook.Proofs.Agents
import Gamebook.Proofs.Asking
import Gamebook.Proofs.Calls
import Gamebook.Proofs.Commands
import Gamebook.Proofs.Decimal.Nearest
import Gamebook.Proofs.Dice.Draws
import Gamebook.Proofs.Dice.Totals
import Gamebook.Proofs.DiskFiles
import Gamebook.Proofs.Disks
import Gamebook.Proofs.Documents
import Gamebook.Proofs.Failing
import Gamebook.Proofs.Fields
import Gamebook.Proofs.Folders
import Gamebook.Proofs.Json.Completing
import Gamebook.Proofs.Json.Decoding
import Gamebook.Proofs.Json.Floats
import Gamebook.Proofs.Json.Numbers
import Gamebook.Proofs.Json.Quoting
import Gamebook.Proofs.Json.Rereading
import Gamebook.Proofs.Json.Strings
import Gamebook.Proofs.Json.Written
import Gamebook.Proofs.LineGames
import Gamebook.Proofs.LoadCalls
import Gamebook.Proofs.Loading
import Gamebook.Proofs.Picking
import Gamebook.Proofs.Pieces
import Gamebook.Proofs.Registering
import Gamebook.Proofs.Reports
import Gamebook.Proofs.Restarting
import Gamebook.Proofs.SaveText
import Gamebook.Proofs.Saved
import Gamebook.Proofs.Saving
import Gamebook.Proofs.Screen.Changes
import Gamebook.Proofs.Screen.Frames
import Gamebook.Proofs.Screen.Menus
import Gamebook.Proofs.Screen.Painting
import Gamebook.Proofs.Screen.Typing
import Gamebook.Proofs.ScreenGames
import Gamebook.Proofs.Script.Alike
import Gamebook.Proofs.Script.Bags
import Gamebook.Proofs.Script.Blind
import Gamebook.Proofs.Script.Bridging
import Gamebook.Proofs.Script.Built
import Gamebook.Proofs.Script.Compacting
import Gamebook.Proofs.Script.Constants
import Gamebook.Proofs.Script.Containers
import Gamebook.Proofs.Script.Covered
import Gamebook.Proofs.Script.Level
import Gamebook.Proofs.Script.Naming
import Gamebook.Proofs.Script.Procedures
import Gamebook.Proofs.Script.Registered
import Gamebook.Proofs.Script.Resting
import Gamebook.Proofs.Script.Storing
import Gamebook.Proofs.Session.Checking
import Gamebook.Proofs.Session.Choosing
import Gamebook.Proofs.Session.Continuing
import Gamebook.Proofs.Session.Cursor
import Gamebook.Proofs.Session.Dangling
import Gamebook.Proofs.Session.Entering
import Gamebook.Proofs.Session.Keeping
import Gamebook.Proofs.Session.Leading
import Gamebook.Proofs.Session.Namespaces
import Gamebook.Proofs.Session.Once
import Gamebook.Proofs.Session.Reaching
import Gamebook.Proofs.Session.Resuming
import Gamebook.Proofs.Session.Showing
import Gamebook.Proofs.Session.Twins
import Gamebook.Proofs.Shelves
import Gamebook.Proofs.Stage
import Gamebook.Proofs.Stores
import Gamebook.Proofs.Story
import Gamebook.Proofs.Story.Alias
import Gamebook.Proofs.Story.Counting
import Gamebook.Proofs.Story.Executing
import Gamebook.Proofs.Story.Failures
import Gamebook.Proofs.Story.Journal
import Gamebook.Proofs.Story.Offering
import Gamebook.Proofs.Story.Operations
import Gamebook.Proofs.Story.Privacy
import Gamebook.Proofs.Story.Roster
import Gamebook.Proofs.Story.Starting
import Gamebook.Proofs.Story.Visiting
import Gamebook.Proofs.Templates
import Gamebook.Proofs.Values
import Gamebook.Save
import Gamebook.Save.Text
import Gamebook.Screen.Basic
import Gamebook.Screen.Frame
import Gamebook.Screen.Keys
import Gamebook.Screen.Menu
import Gamebook.Screen.Paint
import Gamebook.Screen.Typewriter
import Gamebook.Script.Bridge
import Gamebook.Script.Complaint
import Gamebook.Script.Containers
import Gamebook.Script.Evaluation
import Gamebook.Script.Grammar
import Gamebook.Script.Interpreter
import Gamebook.Script.Item
import Gamebook.Script.Library
import Gamebook.Script.Library.Lists
import Gamebook.Script.Library.Numbers
import Gamebook.Script.Library.Records
import Gamebook.Script.Library.Reply
import Gamebook.Script.Library.Texts
import Gamebook.Script.Operators
import Gamebook.Script.Purity
import Gamebook.Script.Run
import Gamebook.Script.Scope
import Gamebook.Script.Syntax
import Gamebook.Script.Token
import Gamebook.Script.Tokens
import Gamebook.Script.Trouble
import Gamebook.Section
import Gamebook.Session
import Gamebook.Shelf
import Gamebook.Stage
import Gamebook.Story
import Gamebook.Template
import Gamebook.Text.Blank
import Gamebook.Text.Marks
import Gamebook.Text.Name
import Gamebook.Text.Quoted
import Gamebook.Text.Width
import Gamebook.Value
