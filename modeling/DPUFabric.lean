import DPUFabric.Library.Codec
import DPUFabric.Library.OrderedMap
import DPUFabric.Library.TransitionRun
import DPUFabric.Persistence
import DPUFabric.Eligibility
import DPUFabric.Footprint
import DPUFabric.Readiness
import DPUFabric.WorkerLoss
import DPUFabric.DeviceLifecycle
import DPUFabric.Freshness
import DPUFabric.Correspondence
import DPUFabric.DeploymentLifecycle
import DPUFabric.Authority
import DPUFabric.Completion
import DPUFabric.Conservation
import DPUFabric.Publication
import DPUFabric.Save
import DPUFabric.Format
import DPUFabric.Agreement
import DPUFabric.Sections
import DPUFabric.Consistency
import DPUFabric.RoundTrip
import DPUFabric.AtomicReplace
import DPUFabric.Incarnations
import DPUFabric.Recoverability
import DPUFabric.PolicyRecovery
import DPUFabric.PartialRecovery
import DPUFabric.Incidents
import DPUFabric.RecoveredResources
import DPUFabric.RecoveredDeployments
import DPUFabric.EpochFence
import DPUFabric.HardConstraints
import DPUFabric.Library.Ranking
import DPUFabric.Selection
import DPUFabric.Reservation
import DPUFabric.AdmittedResources
import DPUFabric.DeployedProgram
import DPUFabric.Exclusivity
import DPUFabric.Pipeline
import DPUFabric.WorkerBoots
import DPUFabric.WorkerProtocol
import DPUFabric.Library.Grammar
import DPUFabric.Library.Exceptions
import DPUFabric.WireGrammar
import DPUFabric.Protocol
import DPUFabric.Transport
import DPUFabric.CallFaults
import DPUFabric.Messages
import DPUFabric.Coordinator
import DPUFabric.HostileBytes
import DPUFabric.FrameCodec
import DPUFabric.Library.ShiftRegister
import DPUFabric.Corruption
import DPUFabric.UntestedRequirements
import DPUFabric.OptionalCapabilities
import DPUFabric.IrrelevantDevices
import DPUFabric.ArrivalOrder
import DPUFabric.RegistrationOrder
import DPUFabric.Admission
import DPUFabric.ScopedReservations
import DPUFabric.PublishedUsage
import DPUFabric.DeviceOrder
import DPUFabric.Library.Numeral
import DPUFabric.IdentityText
import DPUFabric.Framing
import DPUFabric.Containment
import DPUFabric.ProgramGenerations
import DPUFabric.Library.Filling
import DPUFabric.Contents
import DPUFabric.DeclaredEnums
import DPUFabric.Synthetic
import DPUFabric.LoopRuns
import DPUFabric.LoopDeployments
import DPUFabric.Connections
import DPUFabric.Routing
import DPUFabric.Library.Requests
import DPUFabric.Cluster
import DPUFabric.ClusterLinks
import DPUFabric.ClusterBook
import DPUFabric.ClusterRuns
import DPUFabric.ClusterAnswers
import DPUFabric.StateFile
import DPUFabric.StateTexts
import DPUFabric.Durability
import DPUFabric.Restarts
