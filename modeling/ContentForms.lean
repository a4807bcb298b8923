import ContentForms.Api.Config
import ContentForms.Api.Endpoint
import ContentForms.Api.Failure
import ContentForms.Api.Service
import ContentForms.Api.Site
import ContentForms.Api.Submission
import ContentForms.Assoc
import ContentForms.Binary64.Arithmetic
import ContentForms.Binary64.Basic
import ContentForms.Binary64.Decimal
import ContentForms.Binary64.Literal
import ContentForms.Calendar.Date
import ContentForms.Calendar.Instant
import ContentForms.Command.Contents
import ContentForms.Command.Outcome
import ContentForms.Command.Summarize
import ContentForms.Command.Validate
import ContentForms.Content.Document
import ContentForms.Content.Key
import ContentForms.Content.Name
import ContentForms.Field.Descriptor
import ContentForms.Field.Kind
import ContentForms.Field.Options
import ContentForms.FiniteMap
import ContentForms.Http.Form
import ContentForms.Http.MediaType
import ContentForms.Http.Message
import ContentForms.Json.Basic
import ContentForms.Json.Decode
import ContentForms.Json.Number
import ContentForms.Json.Printer
import ContentForms.Json.Reader
import ContentForms.Json.Token
import ContentForms.Link
import ContentForms.Location
import ContentForms.Main
import ContentForms.Proofs.Addresses
import ContentForms.Proofs.Agreement
import ContentForms.Proofs.Atomicity
import ContentForms.Proofs.ByteOrder
import ContentForms.Proofs.Canonical
import ContentForms.Proofs.Checking
import ContentForms.Proofs.Coercion
import ContentForms.Proofs.Compiled
import ContentForms.Proofs.Confinement
import ContentForms.Proofs.Conformance
import ContentForms.Proofs.Conforming
import ContentForms.Proofs.Conversion
import ContentForms.Proofs.Decimals
import ContentForms.Proofs.Digits
import ContentForms.Proofs.Disk
import ContentForms.Proofs.Entries
import ContentForms.Proofs.EntryLists
import ContentForms.Proofs.Expansion
import ContentForms.Proofs.Freshness
import ContentForms.Proofs.Hereditary
import ContentForms.Proofs.Independence
import ContentForms.Proofs.KeyLists
import ContentForms.Proofs.KeyTexts
import ContentForms.Proofs.Links
import ContentForms.Proofs.Listings
import ContentForms.Proofs.Locations
import ContentForms.Proofs.Nearest
import ContentForms.Proofs.Nesting
import ContentForms.Proofs.Normalization
import ContentForms.Proofs.Numerals
import ContentForms.Proofs.Options
import ContentForms.Proofs.Ordered
import ContentForms.Proofs.Outline
import ContentForms.Proofs.Paths
import ContentForms.Proofs.Places
import ContentForms.Proofs.Presentation
import ContentForms.Proofs.ReadAfterWrite
import ContentForms.Proofs.ReadBack
import ContentForms.Proofs.Readable
import ContentForms.Proofs.Relaxation
import ContentForms.Proofs.Removal
import ContentForms.Proofs.Reports
import ContentForms.Proofs.Requests
import ContentForms.Proofs.Rereading
import ContentForms.Proofs.Respelling
import ContentForms.Proofs.RoundTrip
import ContentForms.Proofs.Rounding
import ContentForms.Proofs.Scaling
import ContentForms.Proofs.SchemaFiles
import ContentForms.Proofs.SchemaUse
import ContentForms.Proofs.Schemas
import ContentForms.Proofs.Sections
import ContentForms.Proofs.Shapes
import ContentForms.Proofs.SharedCaches
import ContentForms.Proofs.Site
import ContentForms.Proofs.Spelling
import ContentForms.Proofs.Strictness
import ContentForms.Proofs.SummaryPaths
import ContentForms.Proofs.Targets
import ContentForms.Proofs.Undeclared
import ContentForms.Proofs.Uploads
import ContentForms.Proofs.Visits
import ContentForms.Proofs.WholeNumbers
import ContentForms.Proofs.Writes
import ContentForms.Rule.Basic
import ContentForms.Rule.Compile
import ContentForms.Schema.Cache
import ContentForms.Schema.Document
import ContentForms.Schema.Loaded
import ContentForms.Schema.Sharing
import ContentForms.Schema.Summary
import ContentForms.Store.Disk
import ContentForms.Store.Documents
import ContentForms.Store.Entries
import ContentForms.Store.Layout
import ContentForms.Store.PathText
import ContentForms.Store.Uploads
import ContentForms.Text.Blank
import ContentForms.Text.Digits
import ContentForms.Text.Quoted
import ContentForms.Text.Split
import ContentForms.Unicode.Combining
import ContentForms.Unicode.Decomposition
import ContentForms.Unicode.Direction
import ContentForms.Unicode.HostMapping
import ContentForms.Unicode.Joining
import ContentForms.Unicode.Marks
import ContentForms.Unicode.Normal
import ContentForms.Unicode.RangeMap
import ContentForms.Unicode.Visible
import ContentForms.Url.Absolute
import ContentForms.Url.Host
import ContentForms.Url.Ipv4
import ContentForms.Url.Ipv6
import ContentForms.Url.Percent
import ContentForms.Url.Punycode
import ContentForms.Validation.Check
import ContentForms.Validation.Issue
import ContentForms.Validation.Report
import ContentForms.Yaml.Expand
import ContentForms.Yaml.Node
import ContentForms.Yaml.ToJson
import ContentForms.Yaml.Token.Basic
import ContentForms.Yaml.Token.Block
import ContentForms.Yaml.Token.Cursor
import ContentForms.Yaml.Token.Folding
import ContentForms.Yaml.Token.Plain
import ContentForms.Yaml.Token.Quoted
import ContentForms.Yaml.Token.Reader
import ContentForms.Yaml.Token.Tag
import ContentForms.Yaml.Value
