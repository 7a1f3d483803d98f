import RequestFilter.CustomRule
import RequestFilter.Definitions.Basic
import RequestFilter.Definitions.Reader
import RequestFilter.Definitions.Settings
import RequestFilter.Definitions.Writer
import RequestFilter.Documentation
import RequestFilter.Live
import RequestFilter.Proofs.Compilation
import RequestFilter.Proofs.Definitions.Contents
import RequestFilter.Proofs.Definitions.Grammar
import RequestFilter.Proofs.Definitions.Loading
import RequestFilter.Proofs.Definitions.Paths
import RequestFilter.Proofs.Definitions.RoundTrip
import RequestFilter.Proofs.Definitions.Steps
import RequestFilter.Proofs.DocumentationOrder
import RequestFilter.Proofs.DocumentedRules
import RequestFilter.Proofs.Fallbacks
import RequestFilter.Proofs.Faults
import RequestFilter.Proofs.Insertions
import RequestFilter.Proofs.JsonRequests
import RequestFilter.Proofs.JsonText
import RequestFilter.Proofs.KeyForms
import RequestFilter.Proofs.ListDispatch
import RequestFilter.Proofs.PageRequests
import RequestFilter.Proofs.Reachability
import RequestFilter.Proofs.Sessions
import RequestFilter.Proofs.SortLists
import RequestFilter.Proofs.Sql.Acceptance
import RequestFilter.Proofs.Sql.Applied
import RequestFilter.Proofs.Sql.Demand
import RequestFilter.Proofs.Sql.Directives
import RequestFilter.Proofs.Sql.Isolation
import RequestFilter.Proofs.Sql.Matching
import RequestFilter.Proofs.Sql.Names
import RequestFilter.Proofs.Sql.Placeholders
import RequestFilter.Proofs.Sql.Rearranged
import RequestFilter.Proofs.Sql.Refusal
import RequestFilter.Proofs.Sql.Registration
import RequestFilter.Proofs.Sql.Scoping
import RequestFilter.Proofs.Sql.SingleFilters
import RequestFilter.Proofs.Sql.Unambiguous
import RequestFilter.Recorder
import RequestFilter.Sql.Catalog
import RequestFilter.Sql.Statement
import RequestFilter.Proofs.DoubleTexts
