import ViperChain.Consensus.Certificates
import ViperChain.Consensus.Preimages
import ViperChain.Consensus.ProposerSchedule
import ViperChain.Consensus.VoteBook
import ViperChain.Engine.ActiveSet
import ViperChain.Engine.ArchivalRecords
import ViperChain.Engine.BlockBinding
import ViperChain.Engine.GovernanceRuns
import ViperChain.Engine.Identities
import ViperChain.Engine.KeyRuns
import ViperChain.Engine.ReplayProtection
import ViperChain.Engine.SlashSaturation
import ViperChain.Engine.Upgrades
import ViperChain.LightClient.Committee
import ViperChain.Node.AuditLog
import ViperChain.Node.EpochSummary
import ViperChain.Node.EvidenceRules
import ViperChain.Node.OrphanMasking
import ViperChain.Node.PrecommitBuffer
import ViperChain.Node.Sync
import ViperChain.Replacement
import ViperChain.State.Funding
import ViperChain.State.GenesisIdentity
import ViperChain.Storage.ColdSigner
import ViperChain.Storage.Forgery
import ViperChain.Storage.Pruning
