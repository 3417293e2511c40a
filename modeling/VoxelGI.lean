import VoxelGI.Control.Session
import VoxelGI.Document.Config
import VoxelGI.Proofs.Work
import VoxelGI.Proofs.Custody
import VoxelGI.Proofs.NoLostUpdate
import VoxelGI.Proofs.Agreement
import VoxelGI.Proofs.CallProtocol
import VoxelGI.Proofs.SetUp
import VoxelGI.Proofs.OffRequest
import VoxelGI.Proofs.Announcements
import VoxelGI.Proofs.CallLaw
import VoxelGI.Proofs.CascadeLists
import VoxelGI.Proofs.Handover
import VoxelGI.Proofs.Origin
import VoxelGI.Proofs.Starting
import VoxelGI.Proofs.Freshness
import VoxelGI.Proofs.Delivery
import VoxelGI.Proofs.CascadeGrids
import VoxelGI.Proofs.TickPlacement
import VoxelGI.Proofs.RoundTrip
import VoxelGI.Proofs.Editability
import VoxelGI.Proofs.Decisions
import VoxelGI.Proofs.Ledger
import VoxelGI.Proofs.Refusals
import VoxelGI.Proofs.Lifecycle
import VoxelGI.Proofs.TickCalls
import VoxelGI.Proofs.Cameras
import VoxelGI.Proofs.Settling
import VoxelGI.Proofs.Concealment
import VoxelGI.Proofs.VolumeGrids
import VoxelGI.Proofs.Commuting
import VoxelGI.Proofs.Rechecking
import VoxelGI.Proofs.Startup
import VoxelGI.Proofs.Subscribers
import VoxelGI.Proofs.Headless
import VoxelGI.Proofs.PartialDocuments
import VoxelGI.Proofs.OverlayChoice
import VoxelGI.Proofs.Validation
import VoxelGI.Proofs.Growth
