import FeedSieve.Event.Basic
import FeedSieve.Event.Normalize
import FeedSieve.Fault
import FeedSieve.Feed.Document
import FeedSieve.Feed.Fetch
import FeedSieve.Feed.Location
import FeedSieve.Feed.Normalize
import FeedSieve.Filter.Clause
import FeedSieve.Filter.Expression
import FeedSieve.ICalendar.Component
import FeedSieve.ICalendar.ContentLine
import FeedSieve.ICalendar.Datum
import FeedSieve.ICalendar.Document
import FeedSieve.ICalendar.Escape
import FeedSieve.ICalendar.Lines
import FeedSieve.ICalendar.Observance
import FeedSieve.ICalendar.Parameter
import FeedSieve.ICalendar.Property
import FeedSieve.Log
import FeedSieve.Log.Template
import FeedSieve.Log.Writer
import FeedSieve.Main
import FeedSieve.Output.Calendar
import FeedSieve.Output.Format
import FeedSieve.Output.Json
import FeedSieve.Pattern.Basic
import FeedSieve.Pattern.Case
import FeedSieve.Pattern.CharacterName
import FeedSieve.Pattern.Error
import FeedSieve.Pattern.Match
import FeedSieve.Pattern.Parse
import FeedSieve.Product
import FeedSieve.Proofs.Event.AllDay
import FeedSieve.Proofs.Event.Checks
import FeedSieve.Proofs.Event.Reading
import FeedSieve.Proofs.Event.Zoned
import FeedSieve.Proofs.Feed.Conservation
import FeedSieve.Proofs.Feed.Document
import FeedSieve.Proofs.Feed.Encoding
import FeedSieve.Proofs.Feed.Fetch
import FeedSieve.Proofs.Feed.Isolation
import FeedSieve.Proofs.Feed.Location
import FeedSieve.Proofs.Feed.Outline
import FeedSieve.Proofs.Feed.Parsing
import FeedSieve.Proofs.Feed.WholeSeconds
import FeedSieve.Proofs.Feed.Zones
import FeedSieve.Proofs.Filter.Clause
import FeedSieve.Proofs.Filter.Literal
import FeedSieve.Proofs.Filter.Meaning
import FeedSieve.Proofs.Filter.Refusal
import FeedSieve.Proofs.ICalendar.Ambiguous
import FeedSieve.Proofs.ICalendar.ContentLine
import FeedSieve.Proofs.ICalendar.Datum
import FeedSieve.Proofs.ICalendar.Document
import FeedSieve.Proofs.ICalendar.Escape
import FeedSieve.Proofs.ICalendar.Folding
import FeedSieve.Proofs.ICalendar.Lines
import FeedSieve.Proofs.ICalendar.Parameter
import FeedSieve.Proofs.ICalendar.Registry
import FeedSieve.Proofs.ICalendar.Snag
import FeedSieve.Proofs.Output.Calendar
import FeedSieve.Proofs.Output.Concatenation
import FeedSieve.Proofs.Output.Json
import FeedSieve.Proofs.Output.Layout
import FeedSieve.Proofs.Output.RoundTrip
import FeedSieve.Proofs.Output.Timestamps
import FeedSieve.Proofs.Service.Contract
import FeedSieve.Proofs.Settings.CommandLine
import FeedSieve.Proofs.Settings.Conversion
import FeedSieve.Proofs.Settings.Load
import FeedSieve.Proofs.Settings.SocketAddress
import FeedSieve.Proofs.Settings.Table
import FeedSieve.Proofs.Settings.Toml.Document
import FeedSieve.Proofs.Settings.Toml.Scan
import FeedSieve.Proofs.Sieve.Collect
import FeedSieve.Proofs.Sieve.Independence
import FeedSieve.Proofs.Startup.Layers
import FeedSieve.Proofs.Startup.Port
import FeedSieve.Proofs.Text.Binary64
import FeedSieve.Proofs.Text.Case
import FeedSieve.Proofs.Text.Json
import FeedSieve.Proofs.Text.Number
import FeedSieve.Proofs.Text.Order
import FeedSieve.Proofs.Text.Replace
import FeedSieve.Proofs.Text.Utf8
import FeedSieve.Proofs.Time.Calendar
import FeedSieve.Proofs.Time.Directory
import FeedSieve.Proofs.Time.Instant
import FeedSieve.Proofs.Time.Localize
import FeedSieve.Proofs.Time.Moment
import FeedSieve.Proofs.Time.Names
import FeedSieve.Proofs.Time.Order
import FeedSieve.Proofs.Time.Showing
import FeedSieve.Proofs.Time.Timeline
import FeedSieve.Proofs.Time.Timestamp
import FeedSieve.Proofs.Time.Year
import FeedSieve.Proofs.Time.YearlyRule
import FeedSieve.Proofs.Time.Zone
import FeedSieve.Proofs.Traced
import FeedSieve.Proofs.Value
import FeedSieve.Service
import FeedSieve.Service.Query
import FeedSieve.Settings.CommandLine
import FeedSieve.Settings.Config
import FeedSieve.Settings.Error
import FeedSieve.Settings.Files
import FeedSieve.Settings.Load
import FeedSieve.Settings.SocketAddress
import FeedSieve.Settings.Toml.Document
import FeedSieve.Settings.Toml.Error
import FeedSieve.Settings.Toml.Scalar
import FeedSieve.Settings.Toml.Scan
import FeedSieve.Settings.Toml.Tree
import FeedSieve.Sieve
import FeedSieve.Startup
import FeedSieve.Text.Binary64
import FeedSieve.Text.Case
import FeedSieve.Text.Case.Table
import FeedSieve.Text.Class.Blank
import FeedSieve.Text.Class.Digit
import FeedSieve.Text.Class.Identifier
import FeedSieve.Text.Class.Printable
import FeedSieve.Text.Class.Word
import FeedSieve.Text.Decimal
import FeedSieve.Text.Json
import FeedSieve.Text.Number
import FeedSieve.Text.Quoted
import FeedSieve.Text.Ranges
import FeedSieve.Text.Replace
import FeedSieve.Text.Utf8
import FeedSieve.Time.Calendar
import FeedSieve.Time.Instant
import FeedSieve.Time.Moment
import FeedSieve.Time.Timeline
import FeedSieve.Time.Zone
import FeedSieve.Time.Zone.Africa
import FeedSieve.Time.Zone.Alias
import FeedSieve.Time.Zone.America
import FeedSieve.Time.Zone.Asia
import FeedSieve.Time.Zone.Directory
import FeedSieve.Time.Zone.Europe
import FeedSieve.Time.Zone.Fixed
import FeedSieve.Time.Zone.Ocean
import FeedSieve.Time.Zone.Source
import FeedSieve.Time.Zone.Windows
import FeedSieve.Value
