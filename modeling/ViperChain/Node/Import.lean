import ViperChain.Engine.SiblingSwap
import ViperChain.Node.OrphanCache

/-!
Block reception. The clock and the answers of RocksDB are arguments, one `Occasion` for each
import; counters and logging are left out.
-/

namespace ViperChain

open Fallible Relation

/-! ### The classifier -/

inductive BlockReceptionClass where
  | linkAtTip
  | duplicate
  | siblingAtTip (tip : BlockMetadata)
  | orphanFutureChild
  | belowFinalized
deriving DecidableEq

inductive BlockReceptionError where
  | heightInconsistent (metadata header : Nat)
  | hashInconsistent
deriving DecidableEq

def receptionClass (metadata : BlockMetadata) (localHeight : Nat)
    (localTip : Option BlockMetadata) (lookupCanonicalAtHeight : Nat → Option BlockMetadata) :
    BlockReceptionClass :=
  let height := metadata.height
  if (lookupCanonicalAtHeight height).any fun found => found.blockHash = metadata.blockHash then
    .duplicate
  else if height < localHeight then .belowFinalized
  else if height = localHeight then
    match localTip with
    | some tip =>
        if tip.blockHash ≠ metadata.blockHash then .siblingAtTip tip else .orphanFutureChild
    | none => .orphanFutureChild
  else if height = localHeight + 1 then
    match localTip with
    | some tip => if metadata.prevHash = tip.blockHash then .linkAtTip else .orphanFutureChild
    -- Without a tip in memory any parent passes.
    | none => .linkAtTip
  else .orphanFutureChild

def classifyIncomingBlock (env : Env) (candidate : StoredBlock) (localHeight : Nat)
    (localTip : Option BlockMetadata) (lookupCanonicalAtHeight : Nat → Option BlockMetadata) :
    Except BlockReceptionError BlockReceptionClass := do
  let metadata := candidate.metadata
  require (metadata.height = candidate.block.header.height)
    (.heightInconsistent metadata.height candidate.block.header.height)
  require (metadata.blockHash = computeBlockHash env candidate.block) .hashInconsistent
  return receptionClass metadata localHeight localTip lookupCanonicalAtHeight

/-! ### Evidence against double signers -/

namespace Slashing

def encodeEquivocationVote (vote : EquivocationVote) : Value :=
  .map [
    (.integer 1, .integer vote.height),
    (.integer 2, .integer vote.round),
    (.integer 3, .bytes vote.blockHash.data),
    (.integer 4, .integer vote.step),
    (.integer 5, .bytes vote.signature)]

def encodeEquivocationEvidence (evidence : EquivocationEvidence) : Value :=
  .map [
    (.integer 1, .bytes evidence.validatorAddress.data),
    (.integer 2, .integer evidence.height),
    (.integer 3, encodeEquivocationVote evidence.voteA),
    (.integer 4, encodeEquivocationVote evidence.voteB)]

def stepPrecommit : Nat := 2

/-- The evidence one commit signature of the candidate gives rise to. A map is built from the
signatures of the canonical block, so the last one of a validator and round counts. -/
def siblingEvidence (height : Nat) (canonical candidate : StoredBlock) (later : CommitSig) :
    Option EquivocationEvidence := do
  let earlier ← canonical.block.commitSignatures.reverse.find? fun commit =>
    commit.validatorAddress = later.validatorAddress ∧ commit.round = later.round
  let validatorAddress ← Bytes32.ofBytes? later.validatorAddress
  return {
    validatorAddress
    height
    voteA := ⟨height, earlier.round, canonical.metadata.blockHash, stepPrecommit, earlier.signature⟩
    voteB := ⟨height, later.round, candidate.metadata.blockHash, stepPrecommit, later.signature⟩ }

/-- The loop of `submit_equivocation_evidence_for_sibling_pair`: the state it leaves and the
number of records submitted, or nothing if an encoding panics. -/
def submitSiblingEvidence (env : Env) (verifier : SignatureVerifier) (diskHeight height : Nat)
    (canonical candidate : StoredBlock) :
    List CommitSig → StateStore → Nat → StateStore × Option Nat
  | [], state, submitted => (state, some submitted)
  | commit :: rest, state, submitted =>
      match siblingEvidence height canonical candidate commit with
      | none => submitSiblingEvidence env verifier diskHeight height canonical candidate rest state
          submitted
      | some evidence =>
          match env.cborEncode (encodeEquivocationEvidence evidence) with
          | .error _ => (state, none)
          | .ok payload =>
              match applySubmitEquivocationEvidence env state payload diskHeight verifier with
              | .ok slashed =>
                  submitSiblingEvidence env verifier diskHeight height canonical candidate rest
                    slashed (submitted + 1)
              | .error _ =>
                  submitSiblingEvidence env verifier diskHeight height canonical candidate rest
                    state submitted

end Slashing

/-! ### The import -/

structure NodeConfig where
  feeParams : FeeParams
  validatorPool : List Address
  distributedSigning : Bool
  verifier : SignatureVerifier

/-- What the node does not decide itself: the time, and whether RocksDB takes the block and
the checkpoint. -/
structure Occasion where
  now : Nat
  persisted : Bool
  checkpointed : Bool

/-- The chain with what an import may change next to it: the blocks column family, which is
read back as it was written, the state and the tip the local proposer builds on. -/
structure NodeCore where
  chain : ChainStore
  blocks : Std.ExtTreeMap Nat StoredBlock
  state : StateStore
  proposerTip : Option BlockHash

inductive ImportError where
  | classifier (error : BlockReceptionError)
  | belowTip (height localHeight : Nat)
  | replay (error : ReplayError)
  | storage (error : SwapError)
  /-- With the number of evidence records, or without the local block to build any. -/
  | equivocationDetected (submitted : Option Nat)
  | panicked

inductive ImportOutcome where
  | imported
  | duplicate
  | orphanedNeedsParent (parentHash : BlockHash)
deriving DecidableEq

def NodeConfig.replayParams (config : NodeConfig) : ReplayParams :=
  ⟨config.feeParams, ⟨5000⟩, config.validatorPool⟩

def CommitQuorumPolicy.fromStateStore (env : Env) (store : StateStore)
    (quorumThreshold : Option Nat) : Except CommitValidationError (Option CommitQuorumPolicy) :=
  let active := store.activeValidators
  if active.isEmpty then .ok none
  else
    let validators := active.map fun record =>
      ⟨record.nodeId, record.operator.data, record.consensusAlgId, record.consensusPk⟩
    (CommitQuorumPolicy.new (.viperResearch1 env) validators quorumThreshold).map some

def policyFromState (env : Env) (config : NodeConfig) (state : StateStore) :
    Except CommitValidationError (Option CommitQuorumPolicy) :=
  (CommitQuorumPolicy.fromStateStore env state none).map fun policy => policy.map fun policy =>
    if config.distributedSigning then policy.withDistributedPreimage 0 else policy

/-- `RocksDbChainStore::append_stored_block`, with the errors of the swap. -/
def appendToDisk (env : Env) (chain : ChainStore) (stored : StoredBlock)
    (policy : Option CommitQuorumPolicy) (persisted : Bool) : Except SwapError ChainStore := do
  (checkCommitQuorum env stored.block policy).mapError .commitQuorum
  let trial ← (chain.appendStoredBlock env stored).mapError .chain
  require persisted .storage
  return trial

def writeTrustedCheckpoint (env : Env) (chain : ChainStore) (state : StateStore) (written : Bool) :
    Option (Nat × BlockHash) :=
  let height := state.blockHeight
  let found := if height = 0 then none else chain.getMetadataByHeight height
  let gotTipHash := (found.map BlockMetadata.blockHash).getD chain.anchorPrevHash
  let actualRoot := state.stateRoot env
  let expectedRoot := (found.map BlockMetadata.stateRoot).getD actualRoot
  if height = chain.height ∧ gotTipHash = chain.expectedPrevHash ∧ actualRoot = expectedRoot ∧
      written then some (height, chain.expectedPrevHash)
  else none

def checkpointInterval : Nat := 1000

namespace NodeCore

variable (env : Env) (config : NodeConfig) (occasion : Occasion) (core : NodeCore)

def classify (stored : StoredBlock) : Except BlockReceptionError BlockReceptionClass :=
  classifyIncomingBlock env stored core.chain.height
    (core.chain.tipHash.bind core.chain.getMetadataByHash) core.chain.getMetadataByHeight

def readStoredBlockAtHeight (height : Nat) : Option StoredBlock :=
  (core.chain.getStoredBlockByHeight height).or core.blocks[height]?

/-- The checkpoint every `CHECKPOINT_INTERVAL` blocks: it takes the blocks up to the tip out
of memory. A checkpoint that cannot be written is no error. -/
def checkpointAt (height : Nat) : NodeCore :=
  if height % checkpointInterval = 0 then
    match writeTrustedCheckpoint env core.chain core.state occasion.checkpointed with
    | some (checkpoint, tipHash) =>
        { core with chain := core.chain.compactToCheckpoint checkpoint tipHash }
    | none => core
  else core

def appendCanonicalLinkAtTip (stored : StoredBlock) : Except ImportError NodeCore := do
  let replay ← (replayBlocksFromState env core.state core.chain.expectedPrevHash [stored]
    config.replayParams).mapError .replay
  -- `self.state` is still the state before the block.
  let policy ← (policyFromState env config core.state).mapError fun _ => .panicked
  let chain ← (appendToDisk env core.chain stored policy occasion.persisted).mapError .storage
  let appended : NodeCore :=
    { chain
      blocks := core.blocks.insert stored.metadata.height stored
      state := replay.state
      proposerTip := core.proposerTip.map fun _ => stored.metadata.blockHash }
  return appended.checkpointAt env occasion stored.metadata.height

def stateEquivalent (candidate : StoredBlock) (tip : BlockMetadata) : Bool :=
  candidate.metadata.prevHash = tip.prevHash && candidate.metadata.stateRoot = tip.stateRoot &&
    candidate.metadata.txRoot = tip.txRoot

def swapSibling (candidate : StoredBlock) (policy : Option CommitQuorumPolicy) :
    Except ImportError NodeCore := do
  let (chain, _) ← (replaceCanonicalAtHeight env core.chain candidate policy
    occasion.persisted).mapError fun
      | .panicked => .panicked
      | error => .storage error
  return { core with
    chain
    blocks := core.blocks.insert candidate.metadata.height candidate
    proposerTip := core.proposerTip.map fun _ => candidate.metadata.blockHash }

def reportDivergence (candidate : StoredBlock) : NodeCore × ImportError :=
  let height := candidate.metadata.height
  match core.readStoredBlockAtHeight height with
  | none => (core, .equivocationDetected none)
  | some canonical =>
      let submission := Slashing.submitSiblingEvidence env config.verifier core.chain.height height
        canonical candidate candidate.block.commitSignatures core.state 0
      ({ core with state := submission.1 },
        match submission.2 with
        | none => .panicked
        | some submitted => .equivocationDetected (some submitted))

def resolveSiblingAtTip (candidate : StoredBlock) (tip : BlockMetadata) :
    NodeCore × Except ImportError Unit :=
  match policyFromState env config core.state with
  | .error _ => (core, .error .panicked)
  | .ok policy =>
      if stateEquivalent candidate tip then
        match core.swapSibling env occasion candidate policy with
        | .error error => (core, .error error)
        | .ok swapped => (swapped, .ok ())
      else
        let reported := core.reportDivergence env config candidate
        (reported.1, .error reported.2)

end NodeCore

structure LiveNodeState where
  core : NodeCore
  orphanCache : BlockTreeCache

def importRemoteBlock (env : Env) (config : NodeConfig) (occasion : Occasion)
    (node : LiveNodeState) (stored : StoredBlock) :
    LiveNodeState × Except ImportError ImportOutcome :=
  match node.core.classify env stored with
  | .error error => (node, .error (.classifier error))
  | .ok .duplicate => (node, .ok .duplicate)
  | .ok .belowFinalized =>
      (node, .error (.belowTip stored.metadata.height node.core.chain.height))
  | .ok (.siblingAtTip tip) =>
      let resolved := node.core.resolveSiblingAtTip env config occasion stored tip
      ({ node with core := resolved.1 }, resolved.2.map fun _ => .imported)
  | .ok .orphanFutureChild =>
      ({ node with orphanCache := node.orphanCache.insert occasion.now stored },
        .ok (.orphanedNeedsParent stored.metadata.prevHash))
  | .ok .linkAtTip =>
      match node.core.appendCanonicalLinkAtTip env config occasion stored with
      | .error error => (node, .error error)
      | .ok core => ({ node with core }, .ok .imported)

def drainChildren (env : Env) (config : NodeConfig) (occasionOf : BlockHash → Occasion) :
    List StoredBlock → LiveNodeState → List BlockHash → LiveNodeState × List BlockHash
  | [], node, needsFetch => (node, needsFetch)
  | child :: rest, node, needsFetch =>
      let hash := child.metadata.blockHash
      let removed := { node with orphanCache := (node.orphanCache.remove hash).1 }
      match importRemoteBlock env config (occasionOf hash) removed child with
      | (next, .error .panicked) => (next, needsFetch)
      | (next, .ok (.orphanedNeedsParent parentHash)) =>
          drainChildren env config occasionOf rest next (needsFetch ++ [parentHash])
      | (next, _) => drainChildren env config occasionOf rest next needsFetch

/-- The children are collected once, at `now`: what an import makes a child of is not
followed. -/
def drainOrphanChildren (env : Env) (config : NodeConfig) (now : Nat)
    (occasionOf : BlockHash → Occasion) (node : LiveNodeState) (parentHash : BlockHash) :
    LiveNodeState × List BlockHash :=
  drainChildren env config occasionOf (node.orphanCache.childrenOf now parentHash) node []

end ViperChain
