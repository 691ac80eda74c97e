import FleetDesk.Main
import FleetDesk.Proofs.Audit.Crowd
import FleetDesk.Proofs.Audit.Store
import FleetDesk.Proofs.Config.Layers
import FleetDesk.Proofs.Exec.Report
import FleetDesk.Proofs.Exec.Secrecy
import FleetDesk.Proofs.Node.Confidential
import FleetDesk.Proofs.Redaction.Clean
import FleetDesk.Proofs.Redaction.Tokens
import FleetDesk.Proofs.Rpc.Acceptance
import FleetDesk.Proofs.Rpc.InBand
import FleetDesk.Proofs.Rpc.Isolation
import FleetDesk.Proofs.Rpc.Serving
import FleetDesk.Proofs.Rpc.Truthful
import FleetDesk.Proofs.Tool.Agreement
import FleetDesk.Proofs.Tool.Deletion
import FleetDesk.Proofs.Audit.Rotation
import FleetDesk.Proofs.Json.Fields
import FleetDesk.Proofs.Node.Reading
import FleetDesk.Proofs.Node.Listing
import FleetDesk.Proofs.Node.Selection
import FleetDesk.Proofs.Audit.Line
import FleetDesk.Proofs.Home
import FleetDesk.Proofs.Text.EditDistance
import FleetDesk.Proofs.Text.EditMetric
import FleetDesk.Proofs.Text.Suggestion
import FleetDesk.Proofs.Domain.Punycode
import FleetDesk.Proofs.Url.Path
import FleetDesk.Proofs.Url.Reader
import FleetDesk.Proofs.Domain.Mapping
import FleetDesk.Proofs.Domain.Marks
import FleetDesk.Proofs.Domain.Parts
import FleetDesk.Proofs.Domain.Composition
import FleetDesk.Proofs.Domain.Ascii
import FleetDesk.Proofs.Url.Host
import FleetDesk.Proofs.Fleet.Address
