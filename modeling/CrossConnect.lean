import CrossConnect.Client.Exchange
import CrossConnect.Client.Schedule
import CrossConnect.Main
import CrossConnect.Wire.Drop
import CrossConnect.Wire.Report
import CrossConnect.Proofs.PortRun
import CrossConnect.Proofs.Registry.Effect
import CrossConnect.Proofs.Registry.WellFormed
import CrossConnect.Proofs.Registry.Operations
import CrossConnect.Proofs.Server
import CrossConnect.Proofs.Editor
import CrossConnect.Proofs.Edits
import CrossConnect.Proofs.Registry.Listing
import CrossConnect.Proofs.Client.InStep
import CrossConnect.Proofs.Client.Operations
import CrossConnect.Proofs.Client.Report
import CrossConnect.Proofs.Client.SingleStep
import CrossConnect.Proofs.Client.Sight
import CrossConnect.Proofs.Client.Overlap
import CrossConnect.Proofs.Registry.Placing
import CrossConnect.Proofs.Client.Terms
import CrossConnect.Proofs.Client.Exclusion
import CrossConnect.Proofs.Client.Move
import CrossConnect.Proofs.Client.FillPlan
import CrossConnect.Proofs.Client.FillRun
import CrossConnect.Proofs.Registry.Growing
import CrossConnect.Proofs.Client.Beside
import CrossConnect.Proofs.Client.Displacing
import CrossConnect.Proofs.Registry.Transition
import CrossConnect.Proofs.Client.Prediction
import CrossConnect.Proofs.Client.Owned
import CrossConnect.Proofs.Client.Course
import CrossConnect.Proofs.Client.Switching
import CrossConnect.Proofs.InPlace
import CrossConnect.Proofs.Client.Restoring
import CrossConnect.Proofs.Registry.Uploads
import CrossConnect.Proofs.Client.Stale
import CrossConnect.Proofs.Registry.Commuting
import CrossConnect.Proofs.Client.Account
import CrossConnect.Proofs.Client.Notices
import CrossConnect.Proofs.Client.Reached
import CrossConnect.Proofs.Client.Validation
import CrossConnect.Proofs.Registry.Relisted
import CrossConnect.Proofs.Relisting
import CrossConnect.Proofs.Client.Confirmed
import CrossConnect.Proofs.Client.FillOrder
import CrossConnect.Proofs.Client.Groups
import CrossConnect.Proofs.Client.Selection
import CrossConnect.Proofs.Registry.Identities
import CrossConnect.Proofs.Registry.Dissolving
import CrossConnect.Proofs.Registry.Undoing
import CrossConnect.Proofs.Client.Unhindered
import CrossConnect.Proofs.Client.RoundTrip
import CrossConnect.Proofs.Client.GroupDrop
import CrossConnect.Proofs.Occupancy
import CrossConnect.Proofs.Bundles
import CrossConnect.Proofs.Client.CableOrder
import CrossConnect.Proofs.Wire.Drop
import CrossConnect.Proofs.NoticeLog
