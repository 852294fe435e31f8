import CircuitBreaker.Block
import CircuitBreaker.Circuit
import CircuitBreaker.Circuit.Checked
import CircuitBreaker.Circuit.Watched
import CircuitBreaker.CircuitCache
import CircuitBreaker.CircuitCache.Run
import CircuitBreaker.Clock
import CircuitBreaker.Config
import CircuitBreaker.Config.Codec
import CircuitBreaker.Config.Load
import CircuitBreaker.Config.Yaml
import CircuitBreaker.Decimal.Binary
import CircuitBreaker.Decimal.Layout
import CircuitBreaker.Decimal.Shortest
import CircuitBreaker.Engine
import CircuitBreaker.Engine.Description
import CircuitBreaker.Engine.Run
import CircuitBreaker.Engine.Schedule
import CircuitBreaker.Json
import CircuitBreaker.Json.Number
import CircuitBreaker.Json.Printer
import CircuitBreaker.Json.Reader
import CircuitBreaker.Json.Record
import CircuitBreaker.Outcome
import CircuitBreaker.Outcome.Codec
import CircuitBreaker.Pattern
import CircuitBreaker.Pattern.Cache
import CircuitBreaker.Pattern.Matching
import CircuitBreaker.Probe
import CircuitBreaker.Proofs.Binary64
import CircuitBreaker.Proofs.Circuit.Admission
import CircuitBreaker.Proofs.Circuit.Bare
import CircuitBreaker.Proofs.Circuit.Checked
import CircuitBreaker.Proofs.Circuit.Deadline
import CircuitBreaker.Proofs.Circuit.Invariant
import CircuitBreaker.Proofs.Circuit.Notification
import CircuitBreaker.Proofs.Circuit.Prompt
import CircuitBreaker.Proofs.Circuit.Rate
import CircuitBreaker.Proofs.Circuit.Recovery
import CircuitBreaker.Proofs.Circuit.Soundness
import CircuitBreaker.Proofs.Circuit.Stay
import CircuitBreaker.Proofs.Circuit.Streak
import CircuitBreaker.Proofs.Circuit.Trial
import CircuitBreaker.Proofs.CircuitCache
import CircuitBreaker.Proofs.CircuitCache.InPlace
import CircuitBreaker.Proofs.CircuitCache.Lifecycle
import CircuitBreaker.Proofs.CircuitCache.OneMap
import CircuitBreaker.Proofs.CircuitCache.Share
import CircuitBreaker.Proofs.Codec
import CircuitBreaker.Proofs.Config.Override
import CircuitBreaker.Proofs.Engine.Admission
import CircuitBreaker.Proofs.Engine.Freshness
import CircuitBreaker.Proofs.Engine.InPlace
import CircuitBreaker.Proofs.Engine.Isolation
import CircuitBreaker.Proofs.Engine.Lease
import CircuitBreaker.Proofs.Engine.Lifecycle
import CircuitBreaker.Proofs.Engine.News
import CircuitBreaker.Proofs.Engine.Noninterference
import CircuitBreaker.Proofs.Engine.OneResource
import CircuitBreaker.Proofs.Engine.Orderly
import CircuitBreaker.Proofs.Engine.Permission
import CircuitBreaker.Proofs.Engine.Protection
import CircuitBreaker.Proofs.Engine.Repetition
import CircuitBreaker.Proofs.Engine.Similar
import CircuitBreaker.Proofs.Engine.Slots
import CircuitBreaker.Proofs.Engine.Soundness
import CircuitBreaker.Proofs.Engine.Ungoverned
import CircuitBreaker.Proofs.Engine.Validity
import CircuitBreaker.Proofs.Pattern.Eviction
import CircuitBreaker.Proofs.Pattern.Listing
import CircuitBreaker.Proofs.Pattern.Recency
import CircuitBreaker.Proofs.Resolution
import CircuitBreaker.Proofs.Rule.Acceptance
import CircuitBreaker.Proofs.RuleSource
import CircuitBreaker.Proofs.RuleStore.Load
import CircuitBreaker.Proofs.Trigger.Share
import CircuitBreaker.Proofs.Window.Accuracy
import CircuitBreaker.Proofs.Window.Ahead
import CircuitBreaker.Proofs.Window.Checked
import CircuitBreaker.Proofs.Window.Log
import CircuitBreaker.Proofs.Window.Placement
import CircuitBreaker.Proofs.Window.Ring
import CircuitBreaker.Regex
import CircuitBreaker.Regex.Name
import CircuitBreaker.Regex.Reader
import CircuitBreaker.Regex.Search
import CircuitBreaker.Resolution
import CircuitBreaker.Resource
import CircuitBreaker.Resource.Codec
import CircuitBreaker.Rule
import CircuitBreaker.Rule.Codec
import CircuitBreaker.Rule.Headers
import CircuitBreaker.Rule.Validity
import CircuitBreaker.RuleSource
import CircuitBreaker.RuleStore
import CircuitBreaker.Status
import CircuitBreaker.Status.Codec
import CircuitBreaker.Text.Blank
import CircuitBreaker.Text.Fields
import CircuitBreaker.Text.Numeral
import CircuitBreaker.Text.Quoted
import CircuitBreaker.Transition
import CircuitBreaker.Trigger
import CircuitBreaker.Unicode.Category
import CircuitBreaker.Unicode.Folding
import CircuitBreaker.Unicode.Property
import CircuitBreaker.Unicode.Ranges
import CircuitBreaker.Unicode.Script
import CircuitBreaker.Window
import CircuitBreaker.Window.Checked
import CircuitBreaker.Window.Run
import CircuitBreaker.Yaml.Cursor
import CircuitBreaker.Yaml.Node
import CircuitBreaker.Yaml.Record
import CircuitBreaker.Yaml.Scalar
import CircuitBreaker.Yaml.Tag
import CircuitBreaker.Yaml.Token
