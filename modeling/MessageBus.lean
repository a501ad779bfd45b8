import MessageBus.Concurrency.Workload
import MessageBus.Config.Load
import MessageBus.Exchange.Scenario
import MessageBus.Exchange.Script
import MessageBus.Json.Reader
import MessageBus.Json.Writer
import MessageBus.Log.Encoding
import MessageBus.Log.Layout
import MessageBus.Log.Section
import MessageBus.Message.Fixtures
import MessageBus.Session
import MessageBus.Toml.Reader
import MessageBus.Proofs.Registry.Roll
import MessageBus.Proofs.Registry.Ledger
import MessageBus.Proofs.Registry.Removal
import MessageBus.Proofs.Exchange.Change
import MessageBus.Proofs.Exchange.Reach
import MessageBus.Proofs.Message.Lineage
import MessageBus.Proofs.Exchange.Sound
import MessageBus.Proofs.Exchange.Course
import MessageBus.Proofs.Exchange.Balance
import MessageBus.Proofs.Exchange.Orderly
import MessageBus.Proofs.Dispatch.Agenda
import MessageBus.Proofs.Dispatch.Order
import MessageBus.Proofs.Exchange.Tally
import MessageBus.Proofs.Dispatch.Accounts
import MessageBus.Proofs.Dispatch.Abort
import MessageBus.Proofs.Message.Narrowing
import MessageBus.Proofs.Exchange.Candid
import MessageBus.Proofs.Dispatch.Routing
import MessageBus.Proofs.Config.Shelf
import MessageBus.Proofs.Text.Parts
import MessageBus.Proofs.Config.Tree
import MessageBus.Proofs.Config.Field
import MessageBus.Proofs.Toml.Ordered
import MessageBus.Proofs.Config.Layers
import MessageBus.Proofs.Concurrency.Move
import MessageBus.Proofs.Concurrency.Progress
import MessageBus.Proofs.Concurrency.Live
import MessageBus.Proofs.Concurrency.Deeds
import MessageBus.Proofs.Concurrency.Balance
import MessageBus.Proofs.Concurrency.Keeping
import MessageBus.Proofs.Concurrency.Publishing
import MessageBus.Proofs.Config.Accepted
import MessageBus.Proofs.Log.Conversion
import MessageBus.Proofs.Config.Structure
import MessageBus.Proofs.Config.Defaults
import MessageBus.Proofs.Config.Loading
import MessageBus.Proofs.Exchange.Unheard
import MessageBus.Proofs.Exchange.Heard
import MessageBus.Proofs.Log.Plain
import MessageBus.Proofs.Log.Observer
import MessageBus.Proofs.Registry.Numbering
import MessageBus.Proofs.Concurrency.Overtaking
import MessageBus.Proofs.Message.Ascent
import MessageBus.Proofs.Message.Service
import MessageBus.Proofs.Exchange.Resolution
import MessageBus.Proofs.Concurrency.Resolution
import MessageBus.Proofs.Config.Overlay
import MessageBus.Proofs.Config.Applied
import MessageBus.Proofs.Config.Placement
import MessageBus.Proofs.Log.Installation
import MessageBus.Proofs.Exchange.Drops
import MessageBus.Proofs.Exchange.Sustained
import MessageBus.Proofs.Exchange.Sheltered
import MessageBus.Proofs.Exchange.Replay
import MessageBus.Proofs.Dispatch.Custody
import MessageBus.Proofs.Exchange.Clearing
import MessageBus.Proofs.Exchange.BusCall
import MessageBus.Proofs.Registry.Unnumbered
import MessageBus.Proofs.Dispatch.Cancellation
import MessageBus.Proofs.Exchange.Attested
import MessageBus.Proofs.Exchange.Calls
import MessageBus.Proofs.Log.Trail
import MessageBus.Proofs.Exchange.Journals
import MessageBus.Proofs.Dispatch.Records
import MessageBus.Proofs.Config.Stacking
import MessageBus.Proofs.Config.Inspection
import MessageBus.Proofs.Json.RoundTrip
import MessageBus.Proofs.Log.Encoding
import MessageBus.Proofs.Exchange.Aloof
import MessageBus.Proofs.Exchange.Solo
import MessageBus.Proofs.Exchange.Meeting
import MessageBus.Proofs.Exchange.Asking
import MessageBus.Proofs.Exchange.Mute
import MessageBus.Proofs.Exchange.Retold
import MessageBus.Proofs.Dispatch.Independence
