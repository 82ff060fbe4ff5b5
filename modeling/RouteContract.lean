import RouteContract.Json.Reader
import RouteContract.Main
import RouteContract.Proofs.Json.Sameness
import RouteContract.Proofs.Merge.Contribution
import RouteContract.Proofs.Merge.Exactness
import RouteContract.Proofs.Provider.Cache
import RouteContract.Proofs.Table
import RouteContract.Proofs.Json.References
import RouteContract.Proofs.Json.Records
import RouteContract.Proofs.Schema.References
import RouteContract.Proofs.Schema.Closure
import RouteContract.Proofs.Document.Operations
import RouteContract.Proofs.Document.Responses
import RouteContract.Proofs.Document.References
import RouteContract.Proofs.Document.Codec
import RouteContract.Proofs.Lint.Operations
import RouteContract.Proofs.Lint.Generated
import RouteContract.Proofs.Merge.Incremental
import RouteContract.Proofs.Lint.Merged
import RouteContract.Proofs.Decimal.Notation
import RouteContract.Proofs.Text.Split
import RouteContract.Proofs.Lint.Policy
import RouteContract.Proofs.Endpoint.Scan
import RouteContract.Proofs.Document.Listing
import RouteContract.Proofs.Document.Order
import RouteContract.Proofs.Endpoint.Scoping
import RouteContract.Proofs.Provider.Components
import RouteContract.Proofs.Schema.RoundTrip
import RouteContract.Proofs.Document.RoundTrip
import RouteContract.Proofs.Endpoint.Settings
import RouteContract.Proofs.Merge.Order
import RouteContract.Proofs.Document.Erasure
import RouteContract.Proofs.Endpoint.Erasure
import RouteContract.Proofs.Endpoint.Aliases
import RouteContract.Proofs.Schema.Description
import RouteContract.Proofs.Schema.Fields
import RouteContract.Proofs.Schema.Growth
import RouteContract.Proofs.Lint.Documented
import RouteContract.Proofs.Endpoint.Chains
import RouteContract.Proofs.Source.Builders
import RouteContract.Proofs.Source.Folding
import RouteContract.Proofs.Source.Recognition
import RouteContract.Proofs.Endpoint.Precedence
import RouteContract.Proofs.Schema.Inlining
import RouteContract.Proofs.Document.Required
import RouteContract.Proofs.Source.Namesakes
import RouteContract.Proofs.Document.SourceText
import RouteContract.Proofs.Document.Flattening
import RouteContract.Proofs.Document.Requests
import RouteContract.Proofs.Lint.Strictness
import RouteContract.Proofs.Provider.Outcome
import RouteContract.Proofs.Schema.Wrappers
import RouteContract.Proofs.Schema.Settling
import RouteContract.Proofs.Endpoint.Files
