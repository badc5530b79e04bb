import Ksa64.Library.Run
import Ksa64.Library.Words
import Ksa64.Library.Shifts
import Ksa64.Library.Aliasing
import Ksa64.Library.Filling
import Ksa64.Library.Conversions
import Ksa64.Library.RunningMean
import Ksa64.Library.Bytes
import Ksa64.Library.Ring
import Ksa64.Library.Checked
import Ksa64.Library.Loop
import Ksa64.Library.Attempt
import Ksa64.Library.Stateful
import Ksa64.Library.Poll
import Ksa64.Library.Cobs
import Ksa64.Library.Pool
import Ksa64.Library.Drawn
import Ksa64.Library.Chunks
import Ksa64.Core.Numeric
import Ksa64.Core.Spatial
import Ksa64.Core.GlobalNumeric
import Ksa64.Core.GlobalContract
import Ksa64.Core.GlobalEnvironment
import Ksa64.Core.GlobalGeodesy
import Ksa64.Core.GlobalFrames
import Ksa64.Core.GlobalVehicle
import Ksa64.Core.Faults
import Ksa64.Core.Products
import Ksa64.Core.EventClock
import Ksa64.Core.ResidualCarry
import Ksa64.Core.GlobalTime
import Ksa64.Core.LeapSeconds
import Ksa64.Core.ScaledArithmetic
import Ksa64.Core.ReducedDivision
import Ksa64.Core.Magnitude
import Ksa64.Core.Interpolation
import Ksa64.Core.AttitudeRuns
import Ksa64.Core.Rcs
import Ksa64.Core.RcsPulses
import Ksa64.Core.RcsSegments
import Ksa64.Sim.GlobalControl
import Ksa64.Sim.WorldState
import Ksa64.Sim.WorldForces
import Ksa64.Sim.GlobalWorld
import Ksa64.Sim.WorldSteps
import Ksa64.Sim.WorldClock
import Ksa64.Sim.ForceAgreement
import Ksa64.Sim.WorldSoundness
import Ksa64.Sim.WorldRuns
import Ksa64.Sim.Rescaling
import Ksa64.Sim.StockRetention
import Ksa64.Sim.RunSelection
import Ksa64.Sim.StreamingMetric
import Ksa64.Sim.History
import Ksa64.Sim.PulseRuns
import Ksa64.Interface.Phase10
import Ksa64.Interface.Codec
import Ksa64.Interface.Phase11
import Ksa64.Interface.MissionPlan
import Ksa64.Interface.PlanCodec
import Ksa64.Interface.ProcedureCodec
import Ksa64.Interface.ObjectSegment
import Ksa64.Interface.LinkBounds
import Ksa64.Interface.LinkTransport
import Ksa64.Interface.Realtime
import Ksa64.Interface.Klr10
import Ksa64.Interface.CellCodec
import Ksa64.Flight.Phase10Math
import Ksa64.Flight.Phase10
import Ksa64.Flight.Deployment
import Ksa64.Flight.Execution
import Ksa64.Flight.Safing
import Ksa64.Flight.SafeholdRuns
import Ksa64.Flight.AidFreshness
import Ksa64.Flight.Allocator
import Ksa64.Flight.AllocatorRuns
import Ksa64.Flight.JetCarry
import Ksa64.Flight.Reference
import Ksa64.Flight.Uplink
import Ksa64.Flight.Receiver
import Ksa64.Flight.Journal
import Ksa64.Flight.Package
import Ksa64.Flight.PlanChange
import Ksa64.Session.Sha256
import Ksa64.Session.Bundle
import Ksa64.Session.Segment
import Ksa64.Session.BundleScan
import Ksa64.Session.Phase12b
import Ksa64.Session.GlobalDisplay
import Ksa64.Session.DisplayLog
import Ksa64.Sim.Avionics
import Ksa64.Sim.GlobalAvionics
import Ksa64.Sim.AvionicsCalls
import Ksa64.Sim.AvionicsErrors
import Ksa64.Sim.EventRuns
import Ksa64.Session.MissionUpdate
import Ksa64.Session.FullMissionRuns
import Ksa64.Session.FullMissionUplink
import Ksa64.Session.FullMissionTraces
import Ksa64.Session.PresentationAdapter
import Ksa64.Session.PresentationRuns
import Ksa64.Session.ReviewedLoads
import Ksa64.Session.Pacing
import Ksa64.Session.RestingMission
import Ksa64.Session.LiveUplink
import Ksa64.Session.LiveCompletion
import Ksa64.Session.ProcedureRuns
import Ksa64.Sim.ArchiveRecovery
import Ksa64.Presentation.Stream
import Ksa64.Presentation.Payload
import Ksa64.Presentation.Global
import Ksa64.Presentation.Protocol
import Ksa64.Broker.NoiseDelivery
import Ksa64.Broker.Revocation
import Ksa64.Broker.PeerArchive
import Ksa64.Broker.PairedState
import Ksa64.Broker.Attachment
import Ksa64.Broker.Replies
import Ksa64.Broker.Transports
import Ksa64.Sim.Campaign
import Ksa64.Sim.Distributions
import Ksa64.Sim.CampaignRuns
import Ksa64.Sim.ReuProbe
import Ksa64.Sim.StoragePlans
import Ksa64.Sim.StorageSafety
import Ksa64.Sim.LinkBroker
import Ksa64.Library.StagedLatches
import Ksa64.Library.Layers
import Ksa64.Flight.LocalDeployment
import Ksa64.Flight.SpatialRuns
import Ksa64.Sim.ExactRuns
import Ksa64.Sim.ArchiveFaults
import Ksa64.Host.Search
import Ksa64.Host.Dominance
import Ksa64.Host.Lattice
import Ksa64.Library.Segments
import Ksa64.Host.Phase9Contract
import Ksa64.Host.SearchArchive
import Ksa64.Host.FinalistPack
import Ksa64.Host.ArchiveResume
import Ksa64.Host.AvionicsSummary
import Ksa64.Host.SearchEvidence
import Ksa64.Host.ArchiveReplacement
