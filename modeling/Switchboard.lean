import Switchboard.Config.Call
import Switchboard.Config.Check
import Switchboard.Config.Error
import Switchboard.Config.Folder
import Switchboard.Config.Format
import Switchboard.Config.Property
import Switchboard.Config.Source
import Switchboard.Config.Store
import Switchboard.Directory.Aggregate
import Switchboard.Directory.Backend
import Switchboard.Directory.Balancer
import Switchboard.Directory.Closing
import Switchboard.Directory.Consul
import Switchboard.Directory.Dns
import Switchboard.Directory.Droplet
import Switchboard.Directory.Fixed
import Switchboard.Directory.Lookup
import Switchboard.Directory.Metadata
import Switchboard.Directory.Pool
import Switchboard.Directory.Requests
import Switchboard.Directory.Roster
import Switchboard.Directory.Settings
import Switchboard.Directory.Turns
import Switchboard.Directory.Visits
import Switchboard.Distinct
import Switchboard.Dotenv.Line
import Switchboard.Dotenv.Reader
import Switchboard.Dotenv.Value
import Switchboard.Environment
import Switchboard.Http.Accept
import Switchboard.Http.Exchange
import Switchboard.Http.MediaType
import Switchboard.Http.Method
import Switchboard.Http.Query
import Switchboard.Http.Request
import Switchboard.Http.Status
import Switchboard.Json.Document
import Switchboard.Json.Equality
import Switchboard.Json.Pick
import Switchboard.Json.Printer
import Switchboard.Json.Reader
import Switchboard.Log.Filter
import Switchboard.Log.Settings
import Switchboard.Number.Binary
import Switchboard.Number.Integer
import Switchboard.Number.Literal
import Switchboard.Number.Shortest
import Switchboard.Proofs.AddressTexts
import Switchboard.Proofs.Addresses
import Switchboard.Proofs.Bounds
import Switchboard.Proofs.CanonicalNames
import Switchboard.Proofs.Chains
import Switchboard.Proofs.Closing
import Switchboard.Proofs.ConstraintTexts
import Switchboard.Proofs.Contenders
import Switchboard.Proofs.Conventions
import Switchboard.Proofs.Decimals
import Switchboard.Proofs.Echoes
import Switchboard.Proofs.Enumerations
import Switchboard.Proofs.Escapes
import Switchboard.Proofs.Extensions
import Switchboard.Proofs.FailFast
import Switchboard.Proofs.FanOut
import Switchboard.Proofs.Fetching
import Switchboard.Proofs.FormQueries
import Switchboard.Proofs.Forms
import Switchboard.Proofs.Histories
import Switchboard.Proofs.Hosts
import Switchboard.Proofs.Identities
import Switchboard.Proofs.Layers
import Switchboard.Proofs.Leaders
import Switchboard.Proofs.Letters
import Switchboard.Proofs.LowerCase
import Switchboard.Proofs.Meanings
import Switchboard.Proofs.MediaTypeTexts
import Switchboard.Proofs.NamedVersions
import Switchboard.Proofs.Negotiation
import Switchboard.Proofs.Nesting
import Switchboard.Proofs.Numbering
import Switchboard.Proofs.OtherHeaders
import Switchboard.Proofs.OtherMethods
import Switchboard.Proofs.Overlay
import Switchboard.Proofs.Overrides
import Switchboard.Proofs.OwnNames
import Switchboard.Proofs.Pairs
import Switchboard.Proofs.Patterns
import Switchboard.Proofs.Pins
import Switchboard.Proofs.Registrations
import Switchboard.Proofs.Rendering
import Switchboard.Proofs.Reordering
import Switchboard.Proofs.Rereading
import Switchboard.Proofs.Resolved
import Switchboard.Proofs.Routing
import Switchboard.Proofs.Scalars
import Switchboard.Proofs.Schemes
import Switchboard.Proofs.Segments
import Switchboard.Proofs.Sources
import Switchboard.Proofs.Spelling
import Switchboard.Proofs.Subtables
import Switchboard.Proofs.Targets
import Switchboard.Proofs.TemplateLanguage
import Switchboard.Proofs.Turns
import Switchboard.Proofs.Undeclared
import Switchboard.Proofs.Unversioned
import Switchboard.Proofs.Variables
import Switchboard.Proofs.Versions
import Switchboard.Proofs.WantedVersions
import Switchboard.Route.Candidate
import Switchboard.Route.Entry
import Switchboard.Route.Router
import Switchboard.Route.Selection
import Switchboard.Route.Template
import Switchboard.Service.Error
import Switchboard.Service.Instance
import Switchboard.Service.Name
import Switchboard.Settings
import Switchboard.Text.Blank
import Switchboard.Text.Case
import Switchboard.Text.CaseTable
import Switchboard.Text.Cut
import Switchboard.Text.Cutting
import Switchboard.Text.Percent
import Switchboard.Text.Quoted
import Switchboard.Text.Span
import Switchboard.Text.Trimming
import Switchboard.Text.VisibleTable
import Switchboard.Text.Word
import Switchboard.Text.WordTable
import Switchboard.Toml.Moment
import Switchboard.Toml.Quotation
import Switchboard.Toml.Reader
import Switchboard.Toml.Table
import Switchboard.Toml.Word
import Switchboard.Tree.Basic
import Switchboard.Tree.Decode
import Switchboard.Tree.Equality
import Switchboard.Tree.Fields
import Switchboard.Tree.Tidy
import Switchboard.Url.Address
import Switchboard.Url.Basic
import Switchboard.Url.Host
import Switchboard.Url.Punycode
import Switchboard.Url.Reader
import Switchboard.Version.Basic
import Switchboard.Version.Constraint
import Switchboard.Version.Resolution
import Switchboard.Version.Rules
