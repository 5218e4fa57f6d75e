import InterfaceManager.Action
import InterfaceManager.Address.Basic
import InterfaceManager.Address.Parser
import InterfaceManager.Address.Printer
import InterfaceManager.Cidr
import InterfaceManager.Cidr.Codec
import InterfaceManager.CommandLine.Command
import InterfaceManager.CommandLine.Grammar
import InterfaceManager.CommandLine.LogDirective
import InterfaceManager.CommandLine.LogFilter
import InterfaceManager.CommandLine.Parser
import InterfaceManager.CommandLine.Run
import InterfaceManager.Device.Basic
import InterfaceManager.Device.Codec
import InterfaceManager.Device.Fleet
import InterfaceManager.Device.Interface
import InterfaceManager.Device.Manager
import InterfaceManager.Device.Observation
import InterfaceManager.Device.Registration
import InterfaceManager.Device.Registry
import InterfaceManager.Device.State
import InterfaceManager.Error
import InterfaceManager.Error.Codec
import InterfaceManager.Event
import InterfaceManager.Event.Codec
import InterfaceManager.IfIndex
import InterfaceManager.IfIndex.Codec
import InterfaceManager.InMemory.Backend
import InterfaceManager.InMemory.Host
import InterfaceManager.InMemory.Links
import InterfaceManager.InMemory.Namespaces
import InterfaceManager.Json.Decode
import InterfaceManager.Json.Reader
import InterfaceManager.Json.Value
import InterfaceManager.Json.Writer
import InterfaceManager.Labelled
import InterfaceManager.Link.Control
import InterfaceManager.Link.State
import InterfaceManager.Main
import InterfaceManager.Namespace.Config
import InterfaceManager.Namespace.Context
import InterfaceManager.Namespace.Handle
import InterfaceManager.Namespace.Pool
import InterfaceManager.Namespace.Pools
import InterfaceManager.Namespace.Provider
import InterfaceManager.Namespace.Scope
import InterfaceManager.Notice
import InterfaceManager.Notice.Codec
import InterfaceManager.OsError
import InterfaceManager.Path
import InterfaceManager.Proofs.Backend
import InterfaceManager.Proofs.Device.Agreement
import InterfaceManager.Proofs.Device.Attachment
import InterfaceManager.Proofs.Device.Bookkeeping
import InterfaceManager.Proofs.Device.Fleet
import InterfaceManager.Proofs.Device.Interface
import InterfaceManager.Proofs.Device.Manager
import InterfaceManager.Proofs.Device.Observation
import InterfaceManager.Proofs.Device.Operation
import InterfaceManager.Proofs.Device.Registration
import InterfaceManager.Proofs.Device.Registry
import InterfaceManager.Proofs.Device.Roll
import InterfaceManager.Proofs.Namespace.Calls
import InterfaceManager.Proofs.Namespace.Leasing
import InterfaceManager.Proofs.Namespace.Pool
import InterfaceManager.Proofs.Namespace.Pooled
import InterfaceManager.Proofs.Namespace.Pools
import InterfaceManager.Proofs.Namespace.Scope
import InterfaceManager.Proofs.Outcome
import InterfaceManager.Proofs.Recording
import InterfaceManager.Proofs.Remarks
import InterfaceManager.Session
import InterfaceManager.System.Backend
import InterfaceManager.System.Description
import InterfaceManager.System.Files
import InterfaceManager.System.Interfaces
import InterfaceManager.System.Kernel
import InterfaceManager.System.Machine
import InterfaceManager.System.Namespaces
import InterfaceManager.Text.Alphanumeric
import InterfaceManager.Text.Blank
import InterfaceManager.Text.CharSet
import InterfaceManager.Text.ControlSequence
import InterfaceManager.Text.Digits
import InterfaceManager.Text.Pattern.Basic
import InterfaceManager.Text.Pattern.Parser
import InterfaceManager.Text.Pieces
import InterfaceManager.Text.Quoted
import InterfaceManager.Text.Ranges
import InterfaceManager.Text.Shortest
import InterfaceManager.Text.Shown
import InterfaceManager.Text.Utf8
import InterfaceManager.Timestamp
import InterfaceManager.Proofs.Namespace.Accounts
import InterfaceManager.Proofs.Namespace.Lifetimes
import InterfaceManager.Proofs.System.Switching
import InterfaceManager.Proofs.System.Errands
import InterfaceManager.Proofs.Mirror
import InterfaceManager.Proofs.Device.Keeping
import InterfaceManager.Proofs.Device.Mirror
import InterfaceManager.Proofs.InMemory.Traffic
import InterfaceManager.Proofs.Namespace.Handles
import InterfaceManager.Proofs.InMemory.Devices
import InterfaceManager.Proofs.InMemory.Isolation
import InterfaceManager.Proofs.Device.Spelling
import InterfaceManager.Proofs.Labelled
import InterfaceManager.Proofs.System.Moments
import InterfaceManager.Proofs.Namespace.Guards
import InterfaceManager.Proofs.Namespace.Conservation
import InterfaceManager.Proofs.InMemory.Names
import InterfaceManager.Proofs.Device.Standing
import InterfaceManager.Proofs.Device.History
import InterfaceManager.Proofs.Text.Digits
import InterfaceManager.Proofs.Address.RoundTrip
import InterfaceManager.Proofs.Json.RoundTrip
import InterfaceManager.Proofs.Json.Readings
import InterfaceManager.Proofs.Cidr
import InterfaceManager.Proofs.Event
import InterfaceManager.Proofs.System.Refusals
import InterfaceManager.Proofs.Namespace.Plays
import InterfaceManager.Proofs.Namespace.RunsAlike
import InterfaceManager.Proofs.Namespace.StandIn
import InterfaceManager.Proofs.Text.Utf8
import InterfaceManager.Proofs.System.Queries
import InterfaceManager.Proofs.System.Devices
import InterfaceManager.Proofs.CommandLine.Tasks
import InterfaceManager.Proofs.CommandLine.Show
import InterfaceManager.Proofs.InMemory.Upkeep
import InterfaceManager.Proofs.InMemory.Effects
import InterfaceManager.Proofs.InMemory.Registering
import InterfaceManager.Proofs.InMemory.Commuting
import InterfaceManager.Proofs.Device.Callbacks
import InterfaceManager.Proofs.Namespace.Failures
import InterfaceManager.Proofs.CommandLine.Complaints
import InterfaceManager.Proofs.System.Constancy
import InterfaceManager.Proofs.CommandLine.Alterations
import InterfaceManager.Proofs.Cidr.Grammar
import InterfaceManager.Proofs.Event.Overflow
import InterfaceManager.Proofs.Namespace.Nesting
import InterfaceManager.Proofs.Device.Refreshing
import InterfaceManager.Proofs.InMemory.Refreshing
import InterfaceManager.Proofs.Path
import InterfaceManager.Proofs.System.Files
import InterfaceManager.Proofs.Text.Order
import InterfaceManager.Proofs.System.Namespaces
import InterfaceManager.Proofs.System.Interfaces
