import ThreatGraph.Main
import ThreatGraph.Upload
import ThreatGraph.Proofs.Client.Execution
import ThreatGraph.Proofs.Envelope.Decision
import ThreatGraph.Proofs.Pager.Continuation
import ThreatGraph.Proofs.Pager.Course
import ThreatGraph.Proofs.Pager.Token
import ThreatGraph.Proofs.Pager.Guard
import ThreatGraph.Proofs.Program.Listing
import ThreatGraph.Proofs.Secrecy.Redaction
import ThreatGraph.Proofs.Secrecy.Twins
import ThreatGraph.Proofs.Secrecy.Traversal
import ThreatGraph.Proofs.Secrecy.Session
import ThreatGraph.Proofs.Secrecy.Length
import ThreatGraph.Proofs.Params.Sorting
import ThreatGraph.Proofs.Pager.Links
import ThreatGraph.Proofs.Upload.Parts
import ThreatGraph.Proofs.Upload.Making
import ThreatGraph.Proofs.Upload.Sending
import ThreatGraph.Proofs.Calendar.Days
import ThreatGraph.Proofs.Instant.Rereading
import ThreatGraph.Proofs.Record.Rereading
import ThreatGraph.Proofs.Pager.Consuming
import ThreatGraph.Proofs.Calendar.Succession
import ThreatGraph.Proofs.Instant.Forms
import ThreatGraph.Proofs.Record.Sources
import ThreatGraph.Proofs.Pager.PageSize
import ThreatGraph.Proofs.Params.Settings
import ThreatGraph.Proofs.Search.Fields
import ThreatGraph.Proofs.Record.Columns
import ThreatGraph.Proofs.Record.Locality
import ThreatGraph.Proofs.Yaml.Scalars
import ThreatGraph.Proofs.Yaml.Flow
import ThreatGraph.Proofs.Json.Portable
import ThreatGraph.Proofs.Json.Fields
import ThreatGraph.Proofs.Config.Saving
import ThreatGraph.Proofs.Client.Resolution
import ThreatGraph.Proofs.Json.Compact
import ThreatGraph.Proofs.Json.Rereading
import ThreatGraph.Proofs.Program.Lines
import ThreatGraph.Proofs.Instant.Acceptance
import ThreatGraph.Proofs.Record.Terms
import ThreatGraph.Proofs.Params.History
import ThreatGraph.Proofs.Client.Waiting
import ThreatGraph.Proofs.Client.Pacing
