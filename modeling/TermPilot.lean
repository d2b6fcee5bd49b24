import TermPilot.DebugLog.Basic
import TermPilot.Dump.Noise
import TermPilot.Dump.Reading
import TermPilot.Dump.Report
import TermPilot.Dump.Request
import TermPilot.Dump.Wrapped
import TermPilot.Emulator.Cell
import TermPilot.Emulator.Command
import TermPilot.Emulator.Palette
import TermPilot.Emulator.Render
import TermPilot.Emulator.Rendition
import TermPilot.Emulator.Screen
import TermPilot.Emulator.Stream
import TermPilot.Fault
import TermPilot.Files.Contents
import TermPilot.Files.Error
import TermPilot.Files.Path
import TermPilot.Files.Scripted
import TermPilot.Files.Store
import TermPilot.Headless.Exit
import TermPilot.Headless.Terminal
import TermPilot.Json.Basic
import TermPilot.Json.Equal
import TermPilot.Json.Reader
import TermPilot.Json.Schema
import TermPilot.Json.Writer
import TermPilot.Keys.Basic
import TermPilot.Keys.Encode
import TermPilot.Keys.Name
import TermPilot.Keys.Probe
import TermPilot.Keys.Typing
import TermPilot.Kitty.Display
import TermPilot.Kitty.Error
import TermPilot.Kitty.Listing
import TermPilot.Kitty.Scripted
import TermPilot.Kitty.Window
import TermPilot.Launch.Program
import TermPilot.Launch.Scripts
import TermPilot.Log.Journal
import TermPilot.Log.Level
import TermPilot.Log.Record
import TermPilot.Main
import TermPilot.Mouse.Encode
import TermPilot.Mouse.Gesture
import TermPilot.Number.Decimal
import TermPilot.Number.Double
import TermPilot.Number.Numeral
import TermPilot.Pattern.Basic
import TermPilot.Pattern.Match
import TermPilot.Pattern.Read
import TermPilot.Proofs.Number.Decimal
import TermPilot.Proofs.Recording.Line
import TermPilot.Proofs.Recording.Print
import TermPilot.Proofs.Text.Base64
import TermPilot.Proofs.Text.Parts
import TermPilot.Proofs.Text.Utf8
import TermPilot.Recording.Directive
import TermPilot.Recording.Event
import TermPilot.Recording.Read
import TermPilot.Replay.Script
import TermPilot.Replay.Timing
import TermPilot.Scenario.Basic
import TermPilot.Scenario.Expectation
import TermPilot.Scenario.Load
import TermPilot.Scenario.Run
import TermPilot.Screen.Clean
import TermPilot.Screen.Colour
import TermPilot.Screen.Escape
import TermPilot.Screen.Separator
import TermPilot.Screen.Token
import TermPilot.Settings.Basic
import TermPilot.Settings.Environment
import TermPilot.Settings.Load
import TermPilot.Shell.Words
import TermPilot.Terminal.Names
import TermPilot.Terminal.Rig
import TermPilot.Terminal.Script
import TermPilot.Terminal.Scripted
import TermPilot.Terminal.Sequence
import TermPilot.Text.Base64
import TermPilot.Text.Basic
import TermPilot.Text.Blank
import TermPilot.Text.Case
import TermPilot.Text.Digit
import TermPilot.Text.Letter
import TermPilot.Text.Lines
import TermPilot.Text.Printable
import TermPilot.Text.Quoted
import TermPilot.Text.Utf8
import TermPilot.Wait.Deadline
import TermPilot.Wait.File
import TermPilot.Wait.Poll
import TermPilot.Wait.Sampling
import TermPilot.Wait.Screen
import TermPilot.Wait.Timeout
import TermPilot.Proofs.Recording.Account
import TermPilot.Proofs.Recording.Malformed
import TermPilot.Proofs.Screen.Clean
import TermPilot.Proofs.Screen.Styled
import TermPilot.Proofs.Emulator.Palette
import TermPilot.Proofs.Emulator.Selection
import TermPilot.Proofs.Emulator.Render
import TermPilot.Proofs.Emulator.Capture
import TermPilot.Proofs.Keys.Name
import TermPilot.Proofs.Keys.Typing
import TermPilot.Proofs.Keys.Encode
import TermPilot.Proofs.Terminal.Script
import TermPilot.Proofs.Terminal.Scripted
import TermPilot.Proofs.Replay.Batch
import TermPilot.Proofs.Replay.Events
import TermPilot.Proofs.Replay.Timing
import TermPilot.Proofs.Scenario.Modes
import TermPilot.Proofs.Screen.Separator
import TermPilot.Proofs.Screen.Rows
import TermPilot.Proofs.Keys.Line
import TermPilot.Proofs.Scenario.Keys
import TermPilot.Proofs.Replay.Reports
import TermPilot.Proofs.Wait.Surroundings
import TermPilot.Proofs.Wait.Poll
import TermPilot.Proofs.Emulator.Foreground
import TermPilot.Proofs.Dump.Reading
import TermPilot.Proofs.DebugLog.Lines
import TermPilot.Proofs.Json.Schema
import TermPilot.Proofs.Json.Reader
import TermPilot.Proofs.Number.Double
import TermPilot.Proofs.Scenario.Members
import TermPilot.Proofs.Scenario.Load
import TermPilot.Proofs.Screen.Cut
import TermPilot.Proofs.Screen.Trimmed
import TermPilot.Proofs.Screen.Strip
import TermPilot.Proofs.Screen.Position
import TermPilot.Proofs.Screen.Parameters
import TermPilot.Proofs.Screen.Encodings
import TermPilot.Proofs.Screen.RowColours
import TermPilot.Proofs.Screen.Spelling
import TermPilot.Proofs.Screen.Setting
import TermPilot.Proofs.Screen.Misread
import TermPilot.Proofs.Screen.Tracking
import TermPilot.Proofs.Keys.Grammar
import TermPilot.Proofs.Recording.Grammar
import TermPilot.Proofs.Recording.WellFormed
import TermPilot.Proofs.Replay.Refusal
import TermPilot.Proofs.Launch.Log
import TermPilot.Proofs.Shell.Tokens
import TermPilot.Proofs.Kitty.Listing
import TermPilot.Proofs.Kitty.Calls
import TermPilot.Proofs.Kitty.Discovery
import TermPilot.Proofs.Kitty.Close
import TermPilot.Proofs.Shell.Script
import TermPilot.Proofs.Launch.Wrapper
import TermPilot.Proofs.Headless.Failure
import TermPilot.Proofs.Number.Order
import TermPilot.Proofs.Settings.Environment
import TermPilot.Proofs.Settings.Durations
import TermPilot.Proofs.Scenario.Precedence
import TermPilot.Proofs.Screen.Tokenization
import TermPilot.Proofs.Terminal.Names
import TermPilot.Proofs.Log.SetUp
import TermPilot.Proofs.Number.Grid
import TermPilot.Proofs.Number.Rounding
import TermPilot.Proofs.Number.Difference
import TermPilot.Proofs.Wait.Sampling
