import ViperChain.Engine.Assembly

/-!
Stored blocks and the canonical chain: blocks by hash, hashes by height, and a tip.
-/

namespace ViperChain

open Fallible

structure BlockMetadata where
  blockHash : BlockHash
  height : Nat
  prevHash : BlockHash
  stateRoot : BlockHash
  txRoot : BlockHash
  timestamp : Nat
  bytesUsed : Nat
  includedCount : Nat
  deferredCount : Nat
  skippedCount : Nat
  vcBudgetConsumed : Nat
deriving DecidableEq

structure StoredBlock where
  block : Block
  metadata : BlockMetadata
  includedTransactions : List Transaction
deriving DecidableEq

inductive ChainError where
  | duplicateBlockHash
  | duplicateBlockHeight (height : Nat)
  | invalidBlockHeight (expected got : Nat)
  | parentHashMismatch (expected got : BlockHash)
  | executionHeightMismatch (blockHeight executionHeight : Nat)
  | executionRootMismatch
  | storedBlockHashMismatch
  | storedBlockMetadataMismatch (detail : String)
  | storedBlockBodyCountMismatch
  | replaceNotAtTip (requested tip : Nat)
  | replaceEmptyChain
  | siblingStateDivergence (height : Nat) (field : String)
  | siblingHashCollision
deriving DecidableEq

structure ChainStore where
  anchorPrevHash : BlockHash
  byHash : Std.ExtTreeMap BlockHash StoredBlock
  byHeight : Std.ExtTreeMap Nat BlockHash
  tipHash : Option BlockHash
  baseHeight : Nat

def storedBlock (env : Env) (execution : BlockExecutionResult) : StoredBlock where
  block := execution.block
  metadata :=
    { blockHash := computeBlockHash env execution.block
      height := execution.block.header.height
      prevHash := execution.block.header.prevHash
      stateRoot := execution.stateRoot
      txRoot := execution.txRoot
      timestamp := execution.block.header.timestamp
      bytesUsed := execution.bytesUsed
      includedCount := execution.included.length
      deferredCount := execution.deferred.length
      skippedCount := execution.skipped.length
      vcBudgetConsumed := execution.vcBudgetConsumed }
  includedTransactions := execution.includedTransactions

namespace ChainStore

def newWithBase (anchorPrevHash : BlockHash) (baseHeight : Nat) : ChainStore where
  anchorPrevHash
  byHash := ∅
  byHeight := ∅
  tipHash := none
  baseHeight

def new (anchorPrevHash : BlockHash) : ChainStore := newWithBase anchorPrevHash 0

variable (env : Env) (chain : ChainStore)

def tip : Option StoredBlock := chain.tipHash.bind fun hash => chain.byHash[hash]?

def height : Nat := (chain.tip.map fun stored => stored.metadata.height).getD chain.baseHeight

def getStoredBlockByHeight (height : Nat) : Option StoredBlock :=
  chain.byHeight[height]?.bind fun hash => chain.byHash[hash]?

def getMetadataByHeight (height : Nat) : Option BlockMetadata :=
  (chain.getStoredBlockByHeight height).map StoredBlock.metadata

def getMetadataByHash (hash : BlockHash) : Option BlockMetadata :=
  chain.byHash[hash]?.map StoredBlock.metadata

def blocksInOrder : List StoredBlock :=
  (chain.byHeight.toList.map Prod.snd).filterMap fun hash => chain.byHash[hash]?

def expectedPrevHash : BlockHash := chain.tipHash.getD chain.anchorPrevHash

def validateExecution (execution : BlockExecutionResult) : Except ChainError Unit := do
  let header := execution.block.header
  require (header.height = execution.newHeight)
    (.executionHeightMismatch header.height execution.newHeight)
  require (header.stateRoot = execution.stateRoot ∧ header.txRoot = execution.txRoot)
    .executionRootMismatch
  require (!chain.byHash.contains (computeBlockHash env execution.block)) .duplicateBlockHash
  require (!chain.byHeight.contains header.height) (.duplicateBlockHeight header.height)
  require (header.height = satAdd64 chain.height 1)
    (.invalidBlockHeight (satAdd64 chain.height 1) header.height)
  require (header.prevHash = chain.expectedPrevHash)
    (.parentHashMismatch chain.expectedPrevHash header.prevHash)

def validateStoredBlock (stored : StoredBlock) : Except ChainError Unit := do
  let header := stored.block.header
  let metadata := stored.metadata
  require (metadata.height = header.height)
    (.storedBlockMetadataMismatch "metadata height does not match block header")
  require (metadata.prevHash = header.prevHash)
    (.storedBlockMetadataMismatch "metadata prev_hash does not match block header")
  require (metadata.stateRoot = header.stateRoot)
    (.storedBlockMetadataMismatch "metadata state_root does not match block header")
  require (metadata.txRoot = header.txRoot)
    (.storedBlockMetadataMismatch "metadata tx_root does not match block header")
  require (metadata.includedCount = stored.block.txHashes.length)
    (.storedBlockMetadataMismatch "metadata included_count does not match tx_hash count")
  require (stored.block.txHashes.length = stored.includedTransactions.length)
    .storedBlockBodyCountMismatch
  let blockHash := computeBlockHash env stored.block
  require (metadata.blockHash = blockHash) .storedBlockHashMismatch
  require (!chain.byHash.contains blockHash) .duplicateBlockHash
  require (!chain.byHeight.contains header.height) (.duplicateBlockHeight header.height)
  require (header.height = satAdd64 chain.height 1)
    (.invalidBlockHeight (satAdd64 chain.height 1) header.height)
  require (header.prevHash = chain.expectedPrevHash)
    (.parentHashMismatch chain.expectedPrevHash header.prevHash)

def linkBlock (stored : StoredBlock) : ChainStore :=
  { chain with
    byHeight := chain.byHeight.insert stored.metadata.height stored.metadata.blockHash
    byHash := chain.byHash.insert stored.metadata.blockHash stored
    tipHash := some stored.metadata.blockHash }

def appendStoredBlock (stored : StoredBlock) : Except ChainError ChainStore := do
  chain.validateStoredBlock env stored
  return chain.linkBlock stored

def appendBlock (execution : BlockExecutionResult) : Except ChainError ChainStore := do
  chain.validateExecution env execution
  chain.appendStoredBlock env (storedBlock env execution)

/-- The checks of `replace_tip_block` against the tip it replaces. The bodies of the
candidate are counted, not hashed. -/
def validateReplacement (tip canonical : StoredBlock) : Except ChainError Unit := do
  let metadata := canonical.metadata
  let header := canonical.block.header
  require (tip.metadata.height = metadata.height)
    (.replaceNotAtTip metadata.height tip.metadata.height)
  require (tip.metadata.blockHash ≠ metadata.blockHash) .siblingHashCollision
  require (tip.metadata.prevHash = metadata.prevHash)
    (.siblingStateDivergence tip.metadata.height "prev_hash")
  require (tip.metadata.stateRoot = metadata.stateRoot)
    (.siblingStateDivergence tip.metadata.height "state_root")
  require (tip.metadata.txRoot = metadata.txRoot)
    (.siblingStateDivergence tip.metadata.height "tx_root")
  require (metadata.blockHash = computeBlockHash env canonical.block) .storedBlockHashMismatch
  require (metadata.height = header.height ∧ metadata.prevHash = header.prevHash ∧
      metadata.stateRoot = header.stateRoot ∧ metadata.txRoot = header.txRoot)
    (.storedBlockMetadataMismatch "candidate metadata does not match its block header")
  require (canonical.block.txHashes.length = canonical.includedTransactions.length)
    .storedBlockBodyCountMismatch

/-- The source panics when `tip_hash` is missing from `by_hash`, as it is after a compaction
up to the tip. -/
def replaceTipBlock (canonical : StoredBlock) : Except ChainError (ChainStore × StoredBlock) := do
  let tipHash ← okOr chain.tipHash .replaceEmptyChain
  let tip ← okOr chain.byHash[tipHash]? .replaceEmptyChain
  validateReplacement env tip canonical
  let newHash := canonical.metadata.blockHash
  let replaced : ChainStore :=
    { chain with
      byHeight := chain.byHeight.insert canonical.metadata.height newHash
      byHash := (chain.byHash.erase tipHash).insert newHash canonical
      tipHash := some newHash }
  return (replaced, tip)

def compactToCheckpoint (checkpointHeight : Nat) (checkpointTipHash : BlockHash) : ChainStore :=
  let evicted := chain.byHeight.toList.filter fun item => item.1 ≤ checkpointHeight
  { chain with
    byHeight := evicted.foldl (fun heights item => heights.erase item.1) chain.byHeight
    byHash := evicted.foldl (fun blocks item => blocks.erase item.2) chain.byHash
    anchorPrevHash := checkpointTipHash
    baseHeight := checkpointHeight }

end ChainStore

end ViperChain
