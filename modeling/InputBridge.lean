import InputBridge.Assoc
import InputBridge.Binary64
import InputBridge.Broker.Request
import InputBridge.Broker.State
import InputBridge.Client
import InputBridge.Client.Conversation
import InputBridge.Client.Report
import InputBridge.CommandLine
import InputBridge.CommandLine.Grammar
import InputBridge.CommandLine.Values
import InputBridge.Daemon
import InputBridge.Daemon.Session
import InputBridge.Daemon.Socket
import InputBridge.Event
import InputBridge.Files
import InputBridge.FixedPoint
import InputBridge.Input
import InputBridge.Keyboard.Keymap
import InputBridge.Keyboard.Language
import InputBridge.Keyboard.Layout
import InputBridge.Keyboard.Rules
import InputBridge.Keyboard.ScanCode
import InputBridge.Keyboard.Tables
import InputBridge.Keyboard.Tables.Draft
import InputBridge.Keyboard.Tables.Image
import InputBridge.Keyboard.VirtualKey
import InputBridge.Main
import InputBridge.Overflow
import InputBridge.Pointer
import InputBridge.Program
import InputBridge.Proofs.Assoc
import InputBridge.Proofs.Binary64
import InputBridge.Proofs.Broker.Answers
import InputBridge.Proofs.Broker.Attachment
import InputBridge.Proofs.Broker.Calls
import InputBridge.Proofs.Broker.Detaching
import InputBridge.Proofs.Broker.Failure
import InputBridge.Proofs.Broker.Flushes
import InputBridge.Proofs.Broker.Handles
import InputBridge.Proofs.Broker.Isolation
import InputBridge.Proofs.Broker.Layouts
import InputBridge.Proofs.Broker.Locks
import InputBridge.Proofs.Broker.Membership
import InputBridge.Proofs.Broker.Mirror
import InputBridge.Proofs.Broker.Moves
import InputBridge.Proofs.Broker.Ownership
import InputBridge.Proofs.Broker.Recipients
import InputBridge.Proofs.Broker.Reconnecting
import InputBridge.Proofs.Broker.Records
import InputBridge.Proofs.Broker.Routing
import InputBridge.Proofs.Broker.Run
import InputBridge.Proofs.Broker.Serving
import InputBridge.Proofs.Broker.Silence
import InputBridge.Proofs.Broker.Steps
import InputBridge.Proofs.Broker.Tables
import InputBridge.Proofs.Client.Conversation
import InputBridge.Proofs.CommandLine.Grammar
import InputBridge.Proofs.CommandLine.Screens
import InputBridge.Proofs.Daemon.Answerable
import InputBridge.Proofs.Daemon.Conversation
import InputBridge.Proofs.Daemon.Departures
import InputBridge.Proofs.Daemon.Handshake
import InputBridge.Proofs.Daemon.Progress
import InputBridge.Proofs.Daemon.Run
import InputBridge.Proofs.Daemon.Sessions
import InputBridge.Proofs.Daemon.Sides
import InputBridge.Proofs.Faults
import InputBridge.Proofs.FixedPoint
import InputBridge.Proofs.Keyboard.Building
import InputBridge.Proofs.Keyboard.Bytes
import InputBridge.Proofs.Keyboard.Characters
import InputBridge.Proofs.Keyboard.Descriptions
import InputBridge.Proofs.Keyboard.Drafting
import InputBridge.Proofs.Keyboard.Image
import InputBridge.Proofs.Keyboard.LayoutIds
import InputBridge.Proofs.Keyboard.Pointers
import InputBridge.Proofs.Keyboard.Reading
import InputBridge.Proofs.Keyboard.Rebuilding
import InputBridge.Proofs.Keyboard.Rules
import InputBridge.Proofs.Keyboard.ScanCodes
import InputBridge.Proofs.Keyboard.Sections
import InputBridge.Proofs.Keyboard.Truncation
import InputBridge.Proofs.Keyboard.VirtualKeys
import InputBridge.Proofs.Overflow
import InputBridge.Proofs.Pointer
import InputBridge.Proofs.Recording
import InputBridge.Proofs.Recording.Barriers
import InputBridge.Proofs.Recording.Kinds
import InputBridge.Proofs.Seat.ActiveLayout
import InputBridge.Proofs.Seat.Barriers
import InputBridge.Proofs.Seat.Calls
import InputBridge.Proofs.Seat.Continuity
import InputBridge.Proofs.Seat.Cursor
import InputBridge.Proofs.Seat.Deliveries
import InputBridge.Proofs.Seat.Events
import InputBridge.Proofs.Seat.Keys
import InputBridge.Proofs.Seat.Language
import InputBridge.Proofs.Seat.Locks
import InputBridge.Proofs.Seat.Positions
import InputBridge.Proofs.Seat.Recorded
import InputBridge.Proofs.Seat.Refusals
import InputBridge.Proofs.Seat.Registration
import InputBridge.Proofs.Seat.Releases
import InputBridge.Proofs.Seat.Requests
import InputBridge.Proofs.Seat.Run
import InputBridge.Proofs.Seat.Touches
import InputBridge.Proofs.Seat.Warps
import InputBridge.Proofs.SharedSeats
import InputBridge.Proofs.SharedSeats.Calls
import InputBridge.Proofs.SharedSeats.Isolation
import InputBridge.Proofs.SharedSeats.Later
import InputBridge.Proofs.SharedSeats.Quiet
import InputBridge.Proofs.Talk
import InputBridge.Proofs.Text.Numeral
import InputBridge.Proofs.Text.Utf16
import InputBridge.Proofs.Text.Utf8
import InputBridge.Proofs.WindowTable
import InputBridge.Proofs.WindowTable.History
import InputBridge.Proofs.WindowTable.Slots
import InputBridge.Proofs.Wire.Compatibility
import InputBridge.Proofs.Wire.Entries
import InputBridge.Proofs.Wire.Fields
import InputBridge.Proofs.Wire.Frame
import InputBridge.Proofs.Wire.Grammar
import InputBridge.Proofs.Wire.Growth
import InputBridge.Proofs.Wire.Message
import InputBridge.Proofs.Wire.Truncation
import InputBridge.Proofs.Wire.Value
import InputBridge.Proofs.X11.Listener
import InputBridge.ScriptedServer
import InputBridge.ScriptedServer.Script
import InputBridge.Seat.Basic
import InputBridge.Seat.Cursor
import InputBridge.Seat.Dispatch
import InputBridge.Seat.Pointing
import InputBridge.Seat.Summary
import InputBridge.Seat.Typing
import InputBridge.Server
import InputBridge.SharedSeats
import InputBridge.Text.Blank
import InputBridge.Text.Dump
import InputBridge.Text.HexBytes
import InputBridge.Text.Hidden
import InputBridge.Text.Numeral
import InputBridge.Text.Quoted
import InputBridge.Text.Utf16
import InputBridge.Text.Utf8
import InputBridge.Trace
import InputBridge.WindowTable
import InputBridge.Wire.Decode
import InputBridge.Wire.Encode
import InputBridge.Wire.Frame
import InputBridge.Wire.Message
import InputBridge.Wire.Message.Dump
import InputBridge.Wire.Record
import InputBridge.Wire.Value
import InputBridge.X11.Connection
import InputBridge.X11.Display
import InputBridge.X11.EventBytes
import InputBridge.X11.Listener
import InputBridge.X11.Protocol
import InputBridge.X11.Server
import InputBridge.X11.Server.Record
import InputBridge.X11.WireEvent
import InputBridge.X11.WireEvent.Record
