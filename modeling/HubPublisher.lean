import HubPublisher.Text.Blank
import HubPublisher.Text.Utf8
import HubPublisher.Text.Hex
import HubPublisher.Text.Base64
import HubPublisher.Number.Binary64
import HubPublisher.Number.Shortest
import HubPublisher.Keyed
import HubPublisher.Json.Value
import HubPublisher.Text.Quoted
import HubPublisher.Text.Marks
import HubPublisher.Text.CodeMap
import HubPublisher.Text.Composites
import HubPublisher.Text.Composed
import HubPublisher.Json.Scanner
import HubPublisher.Json.Reader
import HubPublisher.Event.Topic
import HubPublisher.Event.Payload
import HubPublisher.Event.Reading
import HubPublisher.Event.File
import HubPublisher.Sample
import HubPublisher.Error
import HubPublisher.Hub.Request
import HubPublisher.Hub.Response
import HubPublisher.Toml.Reader
import HubPublisher.Settings.File
import HubPublisher.Trust.Store
import HubPublisher.Hub.Connections
import HubPublisher.Adapter.Run
import HubPublisher.Adapter.Assembly
import HubPublisher.Cli.Program
import HubPublisher.Main
import HubPublisher.Proofs.Pool.Acts
import HubPublisher.Proofs.Pool.Runs
import HubPublisher.Proofs.Pool.Conservation
import HubPublisher.Proofs.Pool.Idle
import HubPublisher.Proofs.Pool.Admission
import HubPublisher.Proofs.Pool.SingleRoute
import HubPublisher.Proofs.Pool.Order
import HubPublisher.Proofs.Text.Trim
import HubPublisher.Proofs.Text.Utf8
import HubPublisher.Proofs.Url.Form
import HubPublisher.Proofs.Hub.TopicUrl
import HubPublisher.Proofs.Hub.Sharing
import HubPublisher.Proofs.Settings.Numbers
import HubPublisher.Proofs.Settings.Switches
import HubPublisher.Proofs.Settings.Usable
import HubPublisher.Proofs.Toml.Ordered
import HubPublisher.Proofs.Toml.Leaves
import HubPublisher.Proofs.Settings.Flattening
import HubPublisher.Proofs.Hub.Counting
import HubPublisher.Proofs.Json.Scanner
import HubPublisher.Proofs.Json.Values
import HubPublisher.Proofs.Json.Records
import HubPublisher.Proofs.Keyed
import HubPublisher.Proofs.Event.Described
import HubPublisher.Proofs.Event.Subjects
import HubPublisher.Proofs.Event.RoundTrip
import HubPublisher.Proofs.Event.Drafts
import HubPublisher.Proofs.Event.Reading
import HubPublisher.Proofs.Event.File
import HubPublisher.Proofs.Event.Nulls
import HubPublisher.Proofs.Event.Filing
import HubPublisher.Proofs.Event.Naming
import HubPublisher.Proofs.Event.Closing
import HubPublisher.Proofs.Adapter.History
import HubPublisher.Proofs.Adapter.Outcome
import HubPublisher.Proofs.Adapter.Setup
import HubPublisher.Proofs.Adapter.Refusal
import HubPublisher.Proofs.Adapter.Matching
import HubPublisher.Proofs.Adapter.Slots
import HubPublisher.Proofs.Adapter.Trust
import HubPublisher.Proofs.Adapter.Diagnostics
import HubPublisher.Proofs.Hub.Restart
import HubPublisher.Proofs.Adapter.FirstCall
import HubPublisher.Proofs.Adapter.BaseUrl
import HubPublisher.Proofs.Cli.Verdict
import HubPublisher.Proofs.Adapter.Dropped
import HubPublisher.Proofs.Pool.Deadline
import HubPublisher.Proofs.Hub.Form
import HubPublisher.Proofs.Hub.Subscribers
import HubPublisher.Proofs.Hub.Verdicts
import HubPublisher.Proofs.Settings.Warnings
import HubPublisher.Proofs.Settings.Overrides
import HubPublisher.Proofs.Service
import HubPublisher.Proofs.Url.Domain
import HubPublisher.Proofs.Url.Host
import HubPublisher.Proofs.Url.Origin
import HubPublisher.Proofs.Pool.Apart
import HubPublisher.Proofs.Hub.Routes
import HubPublisher.Proofs.Event.Removal
