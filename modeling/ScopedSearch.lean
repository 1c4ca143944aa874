import ScopedSearch.Main
import ScopedSearch.Settings.Record
import ScopedSearch.Storage.Memory
import ScopedSearch.Encoding.Hex
import ScopedSearch.Extraction.Plain
import ScopedSearch.Http.Script
import ScopedSearch.Json.Shape
import ScopedSearch.Search.MapBackend
import ScopedSearch.Search.Recording
import ScopedSearch.Storage.Editing
import ScopedSearch.Text.Template
import ScopedSearch.Proofs.Index.Isolation
import ScopedSearch.Proofs.Index.Replies
import ScopedSearch.Proofs.Search.Reference
import ScopedSearch.Proofs.Search.Visibility
import ScopedSearch.Proofs.Search.Walk
import ScopedSearch.Proofs.Rebuild.Convergence
import ScopedSearch.Proofs.Service.Sharing
import ScopedSearch.Proofs.Events.Lines
import ScopedSearch.Proofs.Events.Replay
import ScopedSearch.Proofs.Events.Redelivery
import ScopedSearch.Proofs.Rebuild.Provenance
import ScopedSearch.Proofs.Events.Overtaking
import ScopedSearch.Proofs.Events.RoundTrip
import ScopedSearch.Proofs.Events.Serving
import ScopedSearch.Proofs.Rebuild.Deletion
import ScopedSearch.Proofs.Digest.Mixing
import ScopedSearch.Proofs.Search.Fingerprint
import ScopedSearch.Proofs.Cluster.Patching
import ScopedSearch.Proofs.Cluster.Selection
import ScopedSearch.Proofs.Storage.Reading
import ScopedSearch.Proofs.Search.Recency
import ScopedSearch.Proofs.Rebuild.Ledger
import ScopedSearch.Proofs.Rebuild.Accounts
import ScopedSearch.Proofs.Rebuild.Resumption
import ScopedSearch.Proofs.Search.Counting
import ScopedSearch.Proofs.Rebuild.Trash
import ScopedSearch.Proofs.Search.Acceptance
import ScopedSearch.Proofs.Path.Scope
import ScopedSearch.Proofs.Cluster.Bulk
import ScopedSearch.Proofs.Index.Ties
import ScopedSearch.Proofs.Service.Rebuilding
import ScopedSearch.Proofs.Cancellation.Writing
import ScopedSearch.Proofs.Storage.Walking
import ScopedSearch.Proofs.Identity.Minting
import ScopedSearch.Proofs.Settings.Overrides
import ScopedSearch.Proofs.Events.Retagging
import ScopedSearch.Proofs.Cluster.Addressing
