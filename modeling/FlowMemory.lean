import FlowMemory.LocalRuntime.Conservation
import FlowMemory.LocalRuntime.DexBounds
import FlowMemory.LocalRuntime.Finality
import FlowMemory.LocalRuntime.ValueTaint
import FlowMemory.LocalRuntime.AnchorChain
import FlowMemory.LocalRuntime.NodeNetwork
import FlowMemory.AgentBonds.ShareValue
import FlowMemory.AgentBonds.WithdrawalCooldown
import FlowMemory.AgentBonds.StakeCapacity
import FlowMemory.AgentBonds.CreditScore
import FlowMemory.AgentBonds.EscrowBooks
import FlowMemory.AgentBonds.FeeOutcome
import FlowMemory.AgentBonds.BondCapacity
import FlowMemory.AgentBonds.TimelockedMultisig
import FlowMemory.Bridge.LockboxConservation
import FlowMemory.AgentMemory.SpendingCap
import FlowMemory.AgentMemory.TaskScoutReplay
import FlowMemory.AgentMemory.PreviewedCall
import FlowMemory.AgentNetwork.BudgetCover
import FlowMemory.AgentNetwork.ReservationLedgers
import FlowMemory.AgentNetwork.SwarmMembership
import FlowMemory.AgentNetwork.MemberList
import FlowMemory.AgentNetwork.ProfileHandles
import FlowMemory.AgentNetwork.LaunchPreview
import FlowMemory.AgentNetwork.Lineage
import FlowMemory.AgentNetwork.LaunchFunding
import FlowMemory.Crypto.BlockRoots
import FlowMemory.Relayer.HandoffRecords
import FlowMemory.Indexer.Canonical
import FlowMemory.Indexer.Rootflow
