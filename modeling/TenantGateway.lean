import TenantGateway.App
import TenantGateway.Http.Gateway
import TenantGateway.Number.Shortest
import TenantGateway.Proofs.Disclosure
import TenantGateway.Proofs.Isolation
import TenantGateway.Proofs.Addresses
import TenantGateway.Proofs.Agreement
import TenantGateway.Proofs.Containment
import TenantGateway.Proofs.Rejection
import TenantGateway.Proofs.Admission
import TenantGateway.Proofs.Serving
import TenantGateway.Proofs.Rules
import TenantGateway.Proofs.Queries
import TenantGateway.Token.Authority
import TenantGateway.Token.Directory
import TenantGateway.Token.KeySource
import TenantGateway.Proofs.Spelling
import TenantGateway.Proofs.RuleRequests
import TenantGateway.Proofs.Template
import TenantGateway.Proofs.Reach
import TenantGateway.Proofs.Form
import TenantGateway.Proofs.Declarations
import TenantGateway.Proofs.Listing
import TenantGateway.Proofs.Views
import TenantGateway.Proofs.Reports
import TenantGateway.Proofs.Issuers
import TenantGateway.Proofs.Hosts
import TenantGateway.Proofs.Lifetime
import TenantGateway.Proofs.Requests
import TenantGateway.Proofs.Restoring
import TenantGateway.Proofs.Synonyms
import TenantGateway.Proofs.Keeping
