import AcceleratorFabric.Ledger
import AcceleratorFabric.TopologyStore
import AcceleratorFabric.Selection
import AcceleratorFabric.Evaluate
import AcceleratorFabric.Hooks
import AcceleratorFabric.Lifecycle
import AcceleratorFabric.DraResources
import AcceleratorFabric.ClaimTemplate
import AcceleratorFabric.DraRecovery
import AcceleratorFabric.NewestWins
import AcceleratorFabric.ParallelLinks
import AcceleratorFabric.StoreConvergence
import AcceleratorFabric.InformerHistory
import AcceleratorFabric.DraPublisher
import AcceleratorFabric.ApiServer
import AcceleratorFabric.LocalityTranslation
import AcceleratorFabric.PolicySync
import AcceleratorFabric.TopologySync
import AcceleratorFabric.GoScan
import AcceleratorFabric.Providers
import AcceleratorFabric.DiscoveryAgent
import AcceleratorFabric.LinkKeys
import AcceleratorFabric.SnapshotIndexes
import AcceleratorFabric.FabricSearch
import AcceleratorFabric.Relaxation
import AcceleratorFabric.SnapshotCanonical
import AcceleratorFabric.FabricAttributes
import AcceleratorFabric.DraAtomicity
import AcceleratorFabric.DraIdempotence
import AcceleratorFabric.Scores
import AcceleratorFabric.NvlinkGroups
import AcceleratorFabric.Inventory
import AcceleratorFabric.DevicePlugin
import AcceleratorFabric.DraConsumers
import AcceleratorFabric.MatrixText
import AcceleratorFabric.DraLeftovers
import AcceleratorFabric.ControllerLoops
import AcceleratorFabric.CopyOnWrite
import AcceleratorFabric.DeviceServer
import AcceleratorFabric.DraContainers
import AcceleratorFabric.Heartbeats
import AcceleratorFabric.StoreAccess
import AcceleratorFabric.ControlPlane
import AcceleratorFabric.DiscoveredFabric
import AcceleratorFabric.DiscoveryConvergence
import AcceleratorFabric.CelText
import AcceleratorFabric.DraBatches
import AcceleratorFabric.PolicyToContainer
