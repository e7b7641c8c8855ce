import SearchBridge.Main
import SearchBridge.Proofs.Body.Spelling
import SearchBridge.Proofs.Body.CatalogReads
import SearchBridge.Proofs.Body.WrittenForm
import SearchBridge.Proofs.Catalog.Mapping
import SearchBridge.Proofs.Connection.Endpoint
import SearchBridge.Proofs.Facet.Precedence
import SearchBridge.Proofs.Filter.Grouping
import SearchBridge.Proofs.Filter.NormalForm
import SearchBridge.Proofs.Format.Edits
import SearchBridge.Proofs.Response.BucketNames
import SearchBridge.Proofs.Response.RoundTrip
import SearchBridge.Proofs.Filter.Terms
import SearchBridge.Proofs.Response.MalformedCounts
import SearchBridge.Proofs.Response.NestedBuckets
