import ViperChain.Mempool
import ViperChain.State.Apply

/-!
Block production. `assemble_block` only fails before its first write, so an error leaves the
store and the pool as they were.
-/

namespace ViperChain

open Fallible

structure AssemblyContext where
  height : Nat
  prevHash : BlockHash
  timestamp : Nat
  proposer : Bytes

structure EpochConfig where
  epochDuration : Nat
  unbondingPeriod : Nat
  churn : ChurnConfig

structure AssemblyConfig where
  maxBlockBytes : Nat
  feeParams : FeeParams
  validatorPool : List Address
  feeDist : FeeDistributionParams
  epochConfig : EpochConfig

inductive SkipReason where
  | blockSizeLimit
  | applyFailed (error : ApplyError)

structure SkippedTx where
  txHash : TxHash
  reason : SkipReason

structure BlockExecutionResult where
  block : Block
  included : List TxHash
  includedTransactions : List Transaction
  deferred : List TxHash
  newHeight : Nat
  stateRoot : BlockHash
  txRoot : BlockHash
  bytesUsed : Nat
  vcBudgetConsumed : Nat
  skipped : List SkippedTx

inductive AssembleError where
  | invalidHeight (expected got : Nat)
  | invalidProposer (got : Nat)
deriving DecidableEq, Repr

def isEpochBoundary (height epochDuration : Nat) : Bool :=
  height > 0 && height % epochDuration = 0

def comparePendingEntries (left right : PendingEntry) : Ordering :=
  (compare right.fee left.fee)
    |>.then (compare right.feeTip left.feeTip)
    |>.then (compare left.tx.sender right.tx.sender)
    |>.then (compare left.tx.nonce right.tx.nonce)
    |>.then (compare left.txHash right.txHash)

def pendingInOrder (pool : Mempool) : List PendingEntry :=
  pool.allPending.insertionSort fun left right => (comparePendingEntries left right).isLE

theorem mem_pendingInOrder {pool : Mempool} {entry : PendingEntry} :
    entry ∈ pendingInOrder pool ↔ entry ∈ pool.allPending :=
  (List.perm_insertionSort _ _).mem_iff

structure AssemblyState where
  store : StateStore
  pool : Mempool
  includedHashes : List TxHash := []
  includedTransactions : List Transaction := []
  deferred : List TxHash := []
  bytesUsed : Nat := 0
  skipped : List SkippedTx := []
  feesCollected : Nat := 0
  blockGasUsed : Nat := 0

def executionContext (store : StateStore) (feeParams : FeeParams) (txBytesLen : Nat) :
    ExecutionContext :=
  ⟨txBytesLen, { feeParams with baseFeeDynamic := store.baseFeeDynamic }⟩

variable (env : Env)

def assembleEntry (config : AssemblyConfig) (state : AssemblyState) (entry : PendingEntry) :
    AssemblyState :=
  let nextSize := satAdd64 state.bytesUsed entry.rawBytes.length
  if nextSize > config.maxBlockBytes then
    { state with deferred := state.deferred ++ [entry.txHash] }
  else
    match applyTx env state.store entry.tx
        (executionContext state.store config.feeParams entry.rawBytes.length) with
    | .ok (store, execution) =>
        { state with
          store
          pool := (state.pool.evict entry.txHash).evictStale entry.tx.sender
            (satAdd64 entry.tx.nonce 1)
          includedHashes := state.includedHashes ++ [entry.txHash]
          includedTransactions := state.includedTransactions ++ [entry.tx]
          bytesUsed := nextSize
          feesCollected := satAdd128 (satAdd128 state.feesCollected execution.feeCharged)
            entry.tx.feeTip
          blockGasUsed := satAdd64 state.blockGasUsed execution.gasUsed }
    | .error error =>
        { state with
          pool := state.pool.evict entry.txHash
          skipped := state.skipped ++ [⟨entry.txHash, .applyFailed error⟩] }

def assembleEntries (config : AssemblyConfig) (store : StateStore) (pool : Mempool) :
    AssemblyState :=
  (pendingInOrder pool).foldl (assembleEntry env config) { store, pool }

def feePool (store : StateStore) (validatorPool : List Address) : List Address :=
  let statePool := store.activeValidators.map ValidatorRecord.operator
  if statePool.isEmpty then validatorPool else statePool

/-- The five calls with which production and replay both end a block, in their order. -/
def closeBlock (store : StateStore) (height blockGasUsed : Nat) : StateStore :=
  let priced := store.applyAimdUpdate env blockGasUsed
  let tallied := processGovernanceTallies env priced height
  let refunded := refundExpirations env tallied height
  let rotated := refunded.activatePendingConsensusKeyRotations env height
  rotated.advanceHeight env

def epochStep (store : StateStore) (height : Nat) (epochConfig : EpochConfig) : StateStore :=
  if isEpochBoundary height epochConfig.epochDuration then
    store.processEpochTransitions env epochConfig.churn
  else store

def finishAssembly (store : StateStore) (proposer : Address) (height feesCollected blockGasUsed : Nat)
    (config : AssemblyConfig) : StateStore :=
  let paid := distributeBlockFees env store proposer feesCollected
    (feePool store config.validatorPool) config.feeDist
  epochStep env (closeBlock env paid height blockGasUsed) height config.epochConfig

def assembledBlock (context : AssemblyContext) (stateRoot : BlockHash) (txHashes : List TxHash) :
    Block where
  header :=
    { headerVersion := headerVersionV1
      height := context.height
      prevHash := context.prevHash
      stateRoot
      txRoot := computeTxRoot env txHashes
      timestamp := context.timestamp
      proposer := context.proposer
      extensionRoot := emptyExtensionRoot env }
  txHashes
  commitSignatures := []

structure Assembled where
  result : BlockExecutionResult
  store : StateStore
  pool : Mempool

/-- The body of `assemble_block` after its two checks. -/
def executeAssembly (store : StateStore) (pool : Mempool) (context : AssemblyContext)
    (config : AssemblyConfig) (proposer : Address) : Assembled :=
  let state := assembleEntries env config store pool
  let finished := finishAssembly env state.store proposer context.height state.feesCollected
    state.blockGasUsed config
  let block := assembledBlock env context (finished.stateRoot env) state.includedHashes
  { result :=
      { block
        included := state.includedHashes
        includedTransactions := state.includedTransactions
        deferred := state.deferred
        newHeight := finished.blockHeight
        stateRoot := block.header.stateRoot
        txRoot := block.header.txRoot
        bytesUsed := state.bytesUsed
        vcBudgetConsumed := pool.vcAdmittedCount
        skipped := state.skipped }
    store := finished
    pool := state.pool.resetVcCount }

def assembleBlock (store : StateStore) (pool : Mempool) (context : AssemblyContext)
    (config : AssemblyConfig) : Except AssembleError Assembled := do
  let expectedHeight := satAdd64 store.blockHeight 1
  require (context.height = expectedHeight) (.invalidHeight expectedHeight context.height)
  let proposer ← okOr (Bytes32.ofBytes? context.proposer)
    (.invalidProposer context.proposer.length)
  return executeAssembly env store pool context config proposer

variable {env}

theorem assembleBlock_eq_ok {store : StateStore} {pool : Mempool} {context : AssemblyContext}
    {config : AssemblyConfig} {assembled : Assembled} :
    assembleBlock env store pool context config = .ok assembled ↔
      context.height = satAdd64 store.blockHeight 1 ∧
      ∃ proposer, Bytes32.ofBytes? context.proposer = some proposer ∧
        executeAssembly env store pool context config proposer = assembled := by
  simp only [assembleBlock, bind_eq_ok, require_eq_ok, okOr_eq_ok, pure_eq_ok, decide_eq_true_eq]
  constructor
  · rintro ⟨_, height, proposer, address, rfl⟩
    exact ⟨height, proposer, address, rfl⟩
  · rintro ⟨height, proposer, address, rfl⟩
    exact ⟨(), height, proposer, address, rfl⟩

end ViperChain
