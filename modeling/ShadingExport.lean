import ShadingExport.CommandLine.Workspace
import ShadingExport.Main
import ShadingExport.Proofs.Graph.Construction
import ShadingExport.Proofs.Surface.Acceptance
import ShadingExport.Proofs.Surface.Validity
import ShadingExport.Proofs.Translation.Following
import ShadingExport.Proofs.Translation.HostDefaults
import ShadingExport.Proofs.Session.ExactlyOnce
import ShadingExport.Proofs.Session.Idempotence
import ShadingExport.Proofs.Session.Skeleton
import ShadingExport.Proofs.Session.Copies
import ShadingExport.Proofs.Session.ReferenceOrder
import ShadingExport.Proofs.Session.Enlargement
import ShadingExport.Proofs.Json.Finite
import ShadingExport.Proofs.Json.Faithful
import ShadingExport.Proofs.Snapshot.RoundTrip
import ShadingExport.Proofs.Json.Same
import ShadingExport.Proofs.Record.Unambiguous
import ShadingExport.Proofs.Translation.Reports
import ShadingExport.Proofs.World.Background
import ShadingExport.Proofs.Surface.Remarks
import ShadingExport.Proofs.Session.Recovery
import ShadingExport.Proofs.Surface.GlossyModes
import ShadingExport.Proofs.Surface.MixTree
import ShadingExport.Proofs.Session.Ledger
import ShadingExport.Proofs.Session.Accounting
import ShadingExport.Proofs.Session.Announcements
import ShadingExport.Proofs.Session.ReservedRecord
import ShadingExport.Proofs.Snapshot.Filling
import ShadingExport.Proofs.Graph.Attributes
import ShadingExport.Proofs.Session.Flattening
import ShadingExport.Proofs.CommandLine.Precedence
import ShadingExport.Proofs.Surface.Termination
import ShadingExport.Proofs.Surface.ConstantColor
import ShadingExport.Proofs.Surface.SocketValues
import ShadingExport.Proofs.Surface.SharpRoughness
import ShadingExport.Proofs.Session.Placeholders
import ShadingExport.Proofs.Surface.BlendAmounts
import ShadingExport.Proofs.Texture.Flatness
import ShadingExport.Proofs.World.Rotation
import ShadingExport.Proofs.Graph.Indexed
import ShadingExport.Proofs.Session.Independence
import ShadingExport.Proofs.Snapshot.NodeScheme
import ShadingExport.Proofs.CommandLine.Files
