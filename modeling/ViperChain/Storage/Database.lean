import ViperChain.Storage.Bootstrap

/-!
The database of a node. Opening it loads the blocks after the newest checkpoint that decodes;
recovery starts from the newest whose state verifies. The indexes by hash and the archive of
siblings are read by neither and left out.
-/

namespace ViperChain.Storage

open Fallible

structure Database where
  blocks : Std.ExtTreeMap Nat Bytes
  checkpoints : Std.ExtTreeMap Nat Bytes
  genesisAnchor : Option BlockHash
  tipHeight : Option Nat
  snapshotBaseHeight : Option Nat
  snapshotBaseHash : Option BlockHash

structure RocksDbStore where
  db : Database
  chain : ChainStore
  genesisAnchor : BlockHash

inductive RecoveryError where
  | binaryTooOld (diskVersion : Nat)
  | version (error : BootstrapError)
  | missingBlockFile (height : Nat)
  | tipHeightMismatch (expected got : Nat)
  | checkpointMismatch
  | encode
  | invalidPruneCutoff (detail : String)
  | block (error : BlockStorageError)
  | chain (error : ChainError)
  | replay (error : ReplayError)
  | panicked

variable (env : Env) (checkpoints : CheckpointFormat) (records : RecordFormat)

section Checkpoints

def Database.checkpointsNewestFirst (db : Database) : List (Nat × Bytes) :=
  db.checkpoints.toList.reverse

/-- Height and tip hash of the newest checkpoint that can be decoded. Its state is not looked at. -/
def findLatestCheckpointPair : List (Nat × Bytes) → Except RecoveryError (Option (Nat × BlockHash))
  | [] => .ok none
  | (_, bytes) :: older =>
      match checkpoints.read bytes with
      | none => findLatestCheckpointPair older
      | some record =>
          if stateFormatVersion < record.version then .error (.binaryTooOld record.version)
          else if record.metadata.height = 0 then findLatestCheckpointPair older
          else .ok (some (record.metadata.height, record.metadata.tipHash))

def verifiedState (record : TrustedCheckpointRecord) (chainId : Bytes) : Option StateStore :=
  (recordIntoState env record.state chainId).toOption.filter fun state =>
    state.blockHeight = record.metadata.height ∧ state.stateRoot env = record.metadata.stateRoot

def findLatestCheckpointWithState (chainId : Bytes) :
    List (Nat × Bytes) → Except RecoveryError (Option (TrustedCheckpointMetadata × StateStore))
  | [] => .ok none
  | (_, bytes) :: older =>
      match checkpoints.read bytes with
      | none => findLatestCheckpointWithState chainId older
      | some record => do
          (checkStateFormatVersion record.version).mapError .version
          if record.metadata.height = 0 then return none
          match verifiedState env record chainId with
          | none => findLatestCheckpointWithState chainId older
          | some state => return some (record.metadata, state)

end Checkpoints

namespace Database

variable (db : Database)

def readStoredBlockFromDb (height : Nat) : Except BlockStorageError (Option StoredBlock) :=
  match db.blocks[height]? with
  | none => .ok none
  | some bytes => do
      let record ← decodeCborSlice records bytes
      let stored ← recordIntoStoredBlock env record height
      return some stored

def snapshotBase : Option (Nat × BlockHash) :=
  match db.snapshotBaseHeight, db.snapshotBaseHash with
  | some height, some hash => if 0 < height then some (height, hash) else none
  | _, _ => none

def nextHeight (height : Nat) : Except RecoveryError Nat := do
  require (height < u64Max) .panicked
  return height + 1

def memoryBase (genesisAnchor : BlockHash) : Except RecoveryError (BlockHash × Nat) := do
  let window ← findLatestCheckpointPair checkpoints db.checkpointsNewestFirst
  return match window, db.snapshotBase with
    | some (height, tipHash), _ => (tipHash, height)
    | none, some (height, hash) => (hash, height)
    | none, none => (genesisAnchor, 0)

def loadBlock (chain : ChainStore) (height : Nat) : Except RecoveryError ChainStore := do
  let found ← (db.readStoredBlockFromDb env records height).mapError .block
  let stored ← okOr found (.missingBlockFile height)
  (chain.appendStoredBlock env stored).mapError .chain

def heights (first last : Nat) : List Nat := List.range' first (last + 1 - first)

def loadTail (genesisAnchor : BlockHash) (tipHeight : Nat) : Except RecoveryError ChainStore := do
  let (anchor, base) ← db.memoryBase checkpoints genesisAnchor
  let first ← nextHeight base
  let chain ← (heights first tipHeight).foldlM (db.loadBlock env records) (.newWithBase anchor base)
  require (chain.height = tipHeight) (.tipHeightMismatch tipHeight chain.height)
  return chain

end Database

def openInternal (disk : Database) (anchorPrevHash : BlockHash) : Except RecoveryError RocksDbStore := do
  let genesisAnchor := disk.genesisAnchor.getD anchorPrevHash
  let db := { disk with genesisAnchor := some genesisAnchor }
  let tipHeight := db.tipHeight.getD 0
  let (emptyAnchor, emptyBase) := (db.snapshotBase.map Prod.swap).getD (genesisAnchor, 0)
  let _startHeight ← Database.nextHeight emptyBase
  if tipHeight = 0 then
    return ⟨db, .newWithBase emptyAnchor emptyBase, genesisAnchor⟩
  let chain ← db.loadTail env checkpoints records genesisAnchor tipHeight
  return ⟨db, chain, genesisAnchor⟩

namespace RocksDbStore

variable (store : RocksDbStore)

def view : RocksDbChainStore := ⟨store.chain, store.genesisAnchor, store.db.blocks⟩

def readStoredBlockAtHeight (height : Nat) : Except BlockStorageError (Option StoredBlock) :=
  store.view.readStoredBlockAtHeight env records height

def appendStoredBlock (stored : StoredBlock) : Except RecoveryError RocksDbStore := do
  let next ← (store.view.appendStoredBlock env records stored).mapError .block
  return { store with
    chain := next.chain
    db := { store.db with blocks := next.blocks, tipHeight := some stored.metadata.height } }

def appendBlock (execution : BlockExecutionResult) : Except RecoveryError RocksDbStore := do
  let trial ← (store.chain.appendBlock env execution).mapError .chain
  let stored ← okOr trial.tip .panicked
  let bytes ← (encodeStoredBlockBytes env records stored).mapError .block
  return { store with
    chain := trial
    db := { store.db with
      blocks := store.db.blocks.insert stored.metadata.height bytes
      tipHeight := some stored.metadata.height } }

def writeTrustedCheckpoint (state : StateStore) : Except RecoveryError RocksDbStore := do
  let (height, _) ← okOr (ViperChain.writeTrustedCheckpoint env store.chain state true)
    .checkpointMismatch
  let bytes ← okOr (checkpoints.write (checkpointRecord env store.chain state)) .encode
  return { store with
    db := { store.db with checkpoints := store.db.checkpoints.insert height bytes } }

def compactChainToCheckpoint (height : Nat) (tipHash : BlockHash) : RocksDbStore :=
  { store with chain := store.chain.compactToCheckpoint height tipHash }

end RocksDbStore

section Recovery

def verifyChainConsistency (chain : ChainStore) : Except ReplayError Unit := do
  let blocks := chain.blocksInOrder
  verifyStoredBlocksStructure env 1 chain.anchorPrevHash blocks
  let expectedTip := (blocks.getLast?.map fun stored => stored.metadata.blockHash).getD
    chain.anchorPrevHash
  require (chain.expectedPrevHash = expectedTip) (.tipHashMismatch expectedTip chain.expectedPrevHash)

def recoverFromChain (chain : ChainStore) (genesis : StateStore) (params : ReplayParams) :
    Except ReplayError ReplayResult := do
  verifyChainConsistency env chain
  replayBlocksFromState env genesis chain.anchorPrevHash chain.blocksInOrder params

namespace RocksDbStore

variable (store : RocksDbStore) (genesis : StateStore) (params : ReplayParams)

def readEvery (heights : List Nat) : Except RecoveryError (List StoredBlock) :=
  heights.mapM fun height => do
    let found ← (store.db.readStoredBlockFromDb env records height).mapError .block
    okOr found (.missingBlockFile height)

def recoverTip : Except RecoveryError ReplayResult := do
  let tipHeight := store.chain.height
  if tipHeight = 0 then
    return ← (recoverFromChain env store.chain genesis params).mapError .replay
  let start ← Database.nextHeight (store.db.snapshotBaseHeight.getD 0)
  let chainStart := (store.chain.blocksInOrder.head?.map fun stored => stored.metadata.height).getD start
  if start < chainStart then
    let blocks ← store.readEvery env records (Database.heights start tipHeight)
    (replayBlocksFromState env genesis store.genesisAnchor blocks params).mapError .replay
  else
    (recoverFromChain env store.chain genesis params).mapError .replay

def recoverTipWithCheckpoint : Except RecoveryError ReplayResult := do
  let found ← findLatestCheckpointWithState env checkpoints genesis.chainId
    store.db.checkpointsNewestFirst
  match found with
  | some (metadata, state) =>
      let tail := store.chain.blocksInOrder.filter fun stored => metadata.height < stored.metadata.height
      (replayBlocksFromState env state metadata.tipHash tail params).mapError .replay
  | none => store.recoverTip env records genesis params

end RocksDbStore

end Recovery

section Pruning

structure PruneStats where
  blocksDeleted : Nat
  checkpointsDeleted : Nat
  checkpointsKept : Nat
deriving DecidableEq

/-- Blocks below the cutoff go, and every checkpoint but the one with the greatest height. -/
def Database.prune (db : Database) (cutoffHeight : Nat) : Database :=
  { db with
    blocks := db.blocks.filter fun height _ => cutoffHeight ≤ height
    checkpoints := db.checkpoints.filter fun height _ => db.checkpoints.keys.max? = some height }

def RocksDbStore.pruneBlocksBelow (store : RocksDbStore) (cutoffHeight : Nat) :
    Except RecoveryError (RocksDbStore × PruneStats) := do
  require (cutoffHeight ≠ 0) (.invalidPruneCutoff "cutoff of 0 would delete the genesis block")
  require (cutoffHeight ≤ store.chain.height)
    (.invalidPruneCutoff "cutoff exceeds current tip height")
  require (store.db.checkpoints.keys.any fun height => cutoffHeight ≤ height)
    (.invalidPruneCutoff ("no trusted checkpoint at or above the cutoff height; pruning would " ++
      "render the node unable to bootstrap on next start"))
  let pruned := store.db.prune cutoffHeight
  return ({ store with db := pruned },
    { blocksDeleted := store.db.blocks.size - pruned.blocks.size
      checkpointsDeleted := store.db.checkpoints.size - pruned.checkpoints.size
      checkpointsKept := pruned.checkpoints.size })

end Pruning

end ViperChain.Storage
