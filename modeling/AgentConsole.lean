import AgentConsole.CommandLine.Basic
import AgentConsole.CommandLine.Help
import AgentConsole.CommandLine.Inspect
import AgentConsole.CommonMark.Block
import AgentConsole.CommonMark.Document
import AgentConsole.CommonMark.Emphasis
import AgentConsole.CommonMark.Entity
import AgentConsole.CommonMark.Event
import AgentConsole.CommonMark.Html
import AgentConsole.CommonMark.Inline
import AgentConsole.CommonMark.Line
import AgentConsole.CommonMark.Link
import AgentConsole.CommonMark.Marker
import AgentConsole.Config.Basic
import AgentConsole.Config.Document
import AgentConsole.Config.Load
import AgentConsole.Console.Basic
import AgentConsole.Console.Events
import AgentConsole.Console.Keys
import AgentConsole.Console.Render
import AgentConsole.Editor.Basic
import AgentConsole.Editor.Buffer
import AgentConsole.Editor.Render
import AgentConsole.Editor.Rows
import AgentConsole.File
import AgentConsole.Focus
import AgentConsole.Frame.Layout
import AgentConsole.Frame.Overlay
import AgentConsole.Frame.Scroll
import AgentConsole.Frame.Scrollback
import AgentConsole.Host.Backend
import AgentConsole.Host.Basic
import AgentConsole.Host.Rehearsal
import AgentConsole.Host.Stage
import AgentConsole.Journal
import AgentConsole.Key
import AgentConsole.Key.Name
import AgentConsole.Main
import AgentConsole.Picker.Basic
import AgentConsole.Picker.Render
import AgentConsole.Schedule.Refresh
import AgentConsole.Schedule.Timer
import AgentConsole.Session.Basic
import AgentConsole.Simulation.Agent
import AgentConsole.Simulation.Timeline
import AgentConsole.Simulation.Workspace
import AgentConsole.Styled.Fit
import AgentConsole.Styled.Plain
import AgentConsole.Styled.Splice
import AgentConsole.Styled.Token
import AgentConsole.Styled.Wrap
import AgentConsole.Table
import AgentConsole.Text.Basic
import AgentConsole.Text.Case
import AgentConsole.Text.Quoted
import AgentConsole.Theme.Basic
import AgentConsole.Theme.Color
import AgentConsole.Theme.File
import AgentConsole.Toast
import AgentConsole.Toml.Fields
import AgentConsole.Toml.Printer
import AgentConsole.Toml.Quoted
import AgentConsole.Toml.Reader
import AgentConsole.Toml.Scalar
import AgentConsole.Toml.Value
import AgentConsole.Transcript.Log
import AgentConsole.Transcript.Rows
import AgentConsole.Transcript.Segment
import AgentConsole.Tuning
import AgentConsole.Unicode.Blank
import AgentConsole.Unicode.Case
import AgentConsole.Unicode.CodeSet
import AgentConsole.Unicode.Printable
import AgentConsole.Unicode.Punctuation
import AgentConsole.Unicode.Width
import AgentConsole.View.Main
import AgentConsole.View.Modal
import AgentConsole.View.Status
import AgentConsole.Proofs.Styled.Token
import AgentConsole.Proofs.Text.Rows
import AgentConsole.Proofs.Styled.Solid
import AgentConsole.Proofs.Styled.Fit
import AgentConsole.Proofs.Styled.Splice
import AgentConsole.Proofs.Theme.Paint
import AgentConsole.Proofs.Frame.Overlay
import AgentConsole.Proofs.Schedule.Timer
import AgentConsole.Proofs.Toast
import AgentConsole.Proofs.Toast.Expiry
import AgentConsole.Proofs.Picker.Keys
import AgentConsole.Proofs.Console.Lists
import AgentConsole.Proofs.Console.Keys
import AgentConsole.Proofs.Console.Events
import AgentConsole.Proofs.Console.RefreshProtocol
import AgentConsole.Proofs.Console.Reach
import AgentConsole.Proofs.Console.Frame
import AgentConsole.Proofs.Console.Output
import AgentConsole.Proofs.Console.Relay
import AgentConsole.Proofs.Text.Inert
import AgentConsole.Proofs.CommonMark.Entity
import AgentConsole.Proofs.CommonMark.Block
import AgentConsole.Proofs.CommonMark.Reading
import AgentConsole.Proofs.CommonMark.Inline
import AgentConsole.Proofs.Transcript.Segment
import AgentConsole.Proofs.Styled.Painted
import AgentConsole.Proofs.Transcript.Rows
import AgentConsole.Proofs.Transcript.Relayout
import AgentConsole.Proofs.Transcript.Blocks
import AgentConsole.Proofs.CommonMark.Fence
import AgentConsole.Proofs.Transcript.Fence
import AgentConsole.Proofs.CommonMark.Fenced
import AgentConsole.Proofs.Transcript.Code
import AgentConsole.Proofs.Transcript.Layout
import AgentConsole.Proofs.Transcript.Drawn
import AgentConsole.Proofs.Transcript.Tint
import AgentConsole.Proofs.Transcript.Room
import AgentConsole.Proofs.Transcript.LongFence
import AgentConsole.Proofs.CommonMark.Nested
import AgentConsole.Proofs.CommonMark.Contents
import AgentConsole.Proofs.Transcript.Tidy
import AgentConsole.Proofs.Transcript.Order
import AgentConsole.Proofs.Styled.Strip
import AgentConsole.Proofs.Styled.Delimited
import AgentConsole.Proofs.Console.Focus
import AgentConsole.Proofs.Console.Quit
import AgentConsole.Proofs.Frame.Position
import AgentConsole.Proofs.Frame.Scroll
import AgentConsole.Proofs.Frame.Window
import AgentConsole.Proofs.Console.Sight
import AgentConsole.Proofs.Console.Scroll
import AgentConsole.Proofs.Console.Viewed
import AgentConsole.Proofs.Console.Still
import AgentConsole.Proofs.Console.Laid
import AgentConsole.Proofs.Console.Revisit
import AgentConsole.Proofs.Console.Edges
import AgentConsole.Proofs.Console.Answers
import AgentConsole.Proofs.Console.Commands
import AgentConsole.Proofs.Console.Mistakes
import AgentConsole.Proofs.Picker.Selection
import AgentConsole.Proofs.Picker.Filter
import AgentConsole.Proofs.Picker.Rank
import AgentConsole.Proofs.Picker.Highlight
import AgentConsole.Proofs.Picker.Search
import AgentConsole.Proofs.Console.Ended
import AgentConsole.Proofs.Console.Addressee
import AgentConsole.Proofs.Console.Stale
import AgentConsole.Proofs.Styled.Kind
import AgentConsole.Proofs.Styled.Flat
import AgentConsole.Proofs.Frame.Box
import AgentConsole.Proofs.Editor.Rows
import AgentConsole.Proofs.Editor.Change
import AgentConsole.Proofs.Editor.Keys
import AgentConsole.Proofs.Editor.Zipper
import AgentConsole.Proofs.Editor.View
import AgentConsole.Proofs.Editor.Cut
import AgentConsole.Proofs.Editor.Tiles
import AgentConsole.Proofs.Editor.Locate
import AgentConsole.Proofs.Editor.Exact
import AgentConsole.Proofs.Editor.CursorCell
import AgentConsole.Proofs.Console.Modal
import AgentConsole.Proofs.Console.Permission
import AgentConsole.Proofs.Host.Loop
import AgentConsole.Proofs.Styled.Style
import AgentConsole.Proofs.Styled.Omits
import AgentConsole.Proofs.Styled.Reverse
import AgentConsole.Proofs.Styled.Wrap
import AgentConsole.Proofs.Styled.Overflow
import AgentConsole.Proofs.Text.Number
import AgentConsole.Proofs.Text.Case
import AgentConsole.Proofs.Session.Newest
import AgentConsole.Proofs.View.Sessions
import AgentConsole.Proofs.Simulation.Workspace
import AgentConsole.Proofs.Simulation.Refusal
import AgentConsole.Proofs.Simulation.Turn
import AgentConsole.Proofs.Simulation.Chronicle
import AgentConsole.Proofs.Toml.Bounded
import AgentConsole.Proofs.Toml.Printed
import AgentConsole.Proofs.Config.RoundTrip
import AgentConsole.Proofs.Styled.Cut
import AgentConsole.Proofs.Styled.Column
import AgentConsole.Proofs.Styled.Spread
import AgentConsole.Proofs.Frame.Rectangle
import AgentConsole.Proofs.Frame.Float
