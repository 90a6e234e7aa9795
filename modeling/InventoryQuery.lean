import InventoryQuery.Json.Printer
import InventoryQuery.Text.Blank
import InventoryQuery.Filter.Brackets
import InventoryQuery.Filter.Condition
import InventoryQuery.Filter.Parser
import InventoryQuery.Predicate.Render
import InventoryQuery.Json.Number
import InventoryQuery.Json.Reader
import InventoryQuery.FactMap
import InventoryQuery.Config.Error
import InventoryQuery.Error
import InventoryQuery.Activity
import InventoryQuery.Client
import InventoryQuery.Text.Form
import InventoryQuery.Url.Address
import InventoryQuery.Url.Basic
import InventoryQuery.Url.Encoding
import InventoryQuery.Url.Domain
import InventoryQuery.Url.Host
import InventoryQuery.Url.Parser
import InventoryQuery.Http.Network
import InventoryQuery.Http.Transport
import InventoryQuery.Toml.Item
import InventoryQuery.Toml.Reader
import InventoryQuery.Config.Basic
import InventoryQuery.Config.Store
import InventoryQuery.Credentials.Base64
import InventoryQuery.Credentials.Certificate
import InventoryQuery.Credentials.Identity
import InventoryQuery.Http.Connection
import InventoryQuery.CommandLine.Arguments
import InventoryQuery.CommandLine.Run
import InventoryQuery.Main
import InventoryQuery.Text.CombiningClass
import InventoryQuery.Text.Composition
import InventoryQuery.Text.Mark
import InventoryQuery.Text.Punycode
import InventoryQuery.Url.Domain.Mapping
import InventoryQuery.Url.Domain.Refused
import InventoryQuery.Filter.NormalForm
import InventoryQuery.Filter.Spelling
import InventoryQuery.Inventory
import InventoryQuery.Json.Balance
import InventoryQuery.Predicate.Truth
import InventoryQuery.Proofs.Json.ReadBack
import InventoryQuery.Proofs.Predicate.Unambiguous
import InventoryQuery.Proofs.Inventory.Selection
import InventoryQuery.Proofs.Filter.Alternation
import InventoryQuery.Proofs.Filter.Condition
import InventoryQuery.Proofs.Filter.Layout
import InventoryQuery.Proofs.Filter.Grammar
import InventoryQuery.Proofs.Filter.Spelling
import InventoryQuery.Proofs.Filter.ReadBack
import InventoryQuery.Proofs.Filter.Faithful
import InventoryQuery.Proofs.Filter.Outcome
import InventoryQuery.Proofs.Inventory.FactRows
import InventoryQuery.Proofs.Json.NestingLimit
import InventoryQuery.Proofs.Json.Balance
import InventoryQuery.Proofs.Predicate.QueryText
import InventoryQuery.Proofs.Predicate.EndpointsApart
import InventoryQuery.Proofs.Predicate.Subqueries
import InventoryQuery.Proofs.Json.Occurrence
import InventoryQuery.Proofs.Predicate.Narrowing
import InventoryQuery.Proofs.Http.Requests
import InventoryQuery.Proofs.CommandLine.CleanFailure
import InventoryQuery.Proofs.CommandLine.Configuration
import InventoryQuery.Proofs.Text.Form
import InventoryQuery.Proofs.Url.Host
import InventoryQuery.Proofs.Url.AbsolutePath
import InventoryQuery.Proofs.Url.PlainPath
import InventoryQuery.Proofs.Http.QueryDelivery
import InventoryQuery.Proofs.Http.SameServer
import InventoryQuery.Proofs.Toml.Integers
import InventoryQuery.Proofs.Toml.Lines
import InventoryQuery.Proofs.Toml.NumberLocality
import InventoryQuery.Proofs.Toml.ValueLocality
import InventoryQuery.Proofs.Config.Fields
import InventoryQuery.Proofs.Config.Stored
import InventoryQuery.Proofs.Config.FailedSaves
import InventoryQuery.Proofs.Filter.Juxtaposition
import InventoryQuery.Proofs.Filter.Disjunction
import InventoryQuery.Proofs.Filter.Enclosure
import InventoryQuery.Proofs.Keyed
import InventoryQuery.Proofs.Row.Sequence
import InventoryQuery.Proofs.Row.Walk
import InventoryQuery.Proofs.Row.Forms
import InventoryQuery.Proofs.FactMap
import InventoryQuery.Proofs.CommandLine.FactOutput
import InventoryQuery.Proofs.CommandLine.Options
import InventoryQuery.Proofs.CommandLine.Arrangement
import InventoryQuery.Proofs.Filter.Partition
import InventoryQuery.Proofs.Number.Digits
import InventoryQuery.Proofs.Json.Integers
import InventoryQuery.Proofs.Json.Decoded
import InventoryQuery.Proofs.Json.Indented
import InventoryQuery.Proofs.CommandLine.JsonOutput
