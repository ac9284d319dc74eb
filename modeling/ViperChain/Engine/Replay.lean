import ViperChain.Engine.Chain

/-!
Replay of stored blocks, behind recovery and behind every imported block. It compares each body
with its hash and runs `apply_tx`, without envelope checks or epoch transitions.
-/

namespace ViperChain

open Fallible

structure ReplayParams where
  feeParams : FeeParams
  feeDist : FeeDistributionParams
  validatorPool : List Address

structure ReplayResult where
  state : StateStore
  tipHash : BlockHash
  height : Nat
  stateRoot : BlockHash

inductive ReplayError where
  | heightGap (expected got : Nat)
  | parentHashMismatch (height : Nat) (expected got : BlockHash)
  | tipHashMismatch (expected got : BlockHash)
  | blockHashMismatch (height : Nat) (expected got : BlockHash)
  | bodyCountMismatch (height bodyCount hashCount : Nat)
  | txHashMismatch (height txIndex : Nat) (expected got : TxHash)
  | txEncodingFailed (height txIndex : Nat) (source : TxError)
  | applyFailed (height txIndex : Nat) (source : ApplyError)
  | txRootMismatch (height : Nat) (expected got : BlockHash)
  | stateRootMismatch (height : Nat) (expected got : BlockHash)
  | metadataMismatch (height : Nat) (detail : String)

variable (env : Env)

section Structure

def verifyStoredBlock (expectedHeight : Nat) (expectedPrevHash : BlockHash) (stored : StoredBlock) :
    Except ReplayError Unit := do
  let header := stored.block.header
  let metadata := stored.metadata
  let height := header.height
  require (height = expectedHeight) (.heightGap expectedHeight height)
  require (header.prevHash = expectedPrevHash)
    (.parentHashMismatch height expectedPrevHash header.prevHash)
  require (stored.block.txHashes.length = stored.includedTransactions.length)
    (.bodyCountMismatch height stored.includedTransactions.length stored.block.txHashes.length)
  require (metadata.height = header.height)
    (.metadataMismatch height "metadata height does not match block header")
  require (metadata.prevHash = header.prevHash)
    (.metadataMismatch height "metadata prev_hash does not match block header")
  require (metadata.stateRoot = header.stateRoot)
    (.metadataMismatch height "metadata state_root does not match block header")
  require (metadata.txRoot = header.txRoot)
    (.metadataMismatch height "metadata tx_root does not match block header")
  require (metadata.includedCount = stored.block.txHashes.length)
    (.metadataMismatch height "metadata included_count does not match block tx hashes")
  require (metadata.blockHash = computeBlockHash env stored.block)
    (.blockHashMismatch height metadata.blockHash (computeBlockHash env stored.block))

def verifyStoredBlocksStructure : Nat → BlockHash → List StoredBlock → Except ReplayError Unit
  | _, _, [] => .ok ()
  | expectedHeight, expectedPrevHash, stored :: rest => do
      verifyStoredBlock env expectedHeight expectedPrevHash stored
      verifyStoredBlocksStructure (expectedHeight + 1) stored.metadata.blockHash rest

end Structure

structure ReplayProgress where
  state : StateStore
  feesCollected : Nat := 0
  blockGasUsed : Nat := 0

def replayTx (blockFeeParams : FeeParams) (height : Nat) (progress : ReplayProgress)
    (item : (Transaction × TxHash) × Nat) : Except ReplayError ReplayProgress := do
  let ((tx, expectedHash), txIndex) := item
  let raw ← (encodeTx env tx).mapError (.txEncodingFailed height txIndex)
  let actualHash := computeTxHash env raw
  require (actualHash = expectedHash) (.txHashMismatch height txIndex expectedHash actualHash)
  let (state, execution) ← (applyTx env progress.state tx ⟨raw.length, blockFeeParams⟩).mapError
    (.applyFailed height txIndex)
  return {
    state
    feesCollected := satAdd128 (satAdd128 progress.feesCollected execution.feeCharged) tx.feeTip
    blockGasUsed := satAdd64 progress.blockGasUsed execution.gasUsed }

def replayTransactions (params : ReplayParams) (state : StateStore) (stored : StoredBlock) :
    Except ReplayError ReplayProgress :=
  (stored.includedTransactions.zip stored.block.txHashes).zipIdx.foldlM
    (replayTx env { params.feeParams with baseFeeDynamic := state.baseFeeDynamic }
      stored.metadata.height) { state }

/-- The store after the end-of-block steps of replay. A header whose proposer is not 32
bytes long pays nobody. -/
def finishReplay (params : ReplayParams) (header : BlockHeader) (progress : ReplayProgress) :
    StateStore :=
  let paid :=
    match Bytes32.ofBytes? header.proposer with
    | some proposer =>
        distributeBlockFees env progress.state proposer progress.feesCollected
          (feePool progress.state params.validatorPool) params.feeDist
    | none => progress.state
  closeBlock env paid header.height progress.blockGasUsed

def replayBlock (params : ReplayParams) (result : ReplayResult) (stored : StoredBlock) :
    Except ReplayError ReplayResult := do
  let header := stored.block.header
  let height := stored.metadata.height
  let progress ← replayTransactions env params result.state stored
  let state := finishReplay env params header progress
  let actualTxRoot := computeTxRoot env stored.block.txHashes
  require (actualTxRoot = header.txRoot) (.txRootMismatch height header.txRoot actualTxRoot)
  let actualStateRoot := state.stateRoot env
  require (actualStateRoot = header.stateRoot)
    (.stateRootMismatch height header.stateRoot actualStateRoot)
  let actualBlockHash := computeBlockHash env stored.block
  require (actualBlockHash = stored.metadata.blockHash)
    (.blockHashMismatch height stored.metadata.blockHash actualBlockHash)
  return { state, tipHash := stored.metadata.blockHash, height := state.blockHeight,
           stateRoot := actualStateRoot }

def ReplayResult.start (baseState : StateStore) (anchorPrevHash : BlockHash) : ReplayResult where
  state := baseState
  tipHash := anchorPrevHash
  height := baseState.blockHeight
  stateRoot := baseState.stateRoot env

def replayBlocksFromState (baseState : StateStore) (anchorPrevHash : BlockHash)
    (blocks : List StoredBlock) (params : ReplayParams) : Except ReplayError ReplayResult := do
  verifyStoredBlocksStructure env (satAdd64 baseState.blockHeight 1) anchorPrevHash blocks
  blocks.foldlM (replayBlock env params) (.start env baseState anchorPrevHash)

variable {env}

theorem finishReplay_congr (params : ReplayParams) (progress : ReplayProgress)
    {left right : BlockHeader} (proposer : left.proposer = right.proposer)
    (height : left.height = right.height) :
    finishReplay env params left progress = finishReplay env params right progress := by
  simp only [finishReplay, proposer, height]

theorem replayBlock_eq_ok {params : ReplayParams} (result : ReplayResult) {stored : StoredBlock}
    {progress : ReplayProgress}
    (ran : replayTransactions env params result.state stored = .ok progress)
    (txRoot : computeTxRoot env stored.block.txHashes = stored.block.header.txRoot)
    (stateRoot : (finishReplay env params stored.block.header progress).stateRoot env =
      stored.block.header.stateRoot)
    (blockHash : computeBlockHash env stored.block = stored.metadata.blockHash) :
    replayBlock env params result stored =
      .ok {
        state := finishReplay env params stored.block.header progress
        tipHash := stored.metadata.blockHash
        height := (finishReplay env params stored.block.header progress).blockHeight
        stateRoot := stored.block.header.stateRoot } := by
  simp only [replayBlock, bind_eq_ok, require_eq_ok, pure_eq_ok]
  exact ⟨progress, ran, (), decide_eq_true txRoot, (), decide_eq_true stateRoot, (),
    decide_eq_true blockHash, by rw [stateRoot]⟩

theorem replayBlocksFromState_singleton {baseState : StateStore} {anchorPrevHash : BlockHash}
    {stored : StoredBlock} {params : ReplayParams} {result : ReplayResult} :
    replayBlocksFromState env baseState anchorPrevHash [stored] params = .ok result ↔
      verifyStoredBlock env (satAdd64 baseState.blockHeight 1) anchorPrevHash stored = .ok () ∧
      replayBlock env params (.start env baseState anchorPrevHash) stored = .ok result := by
  simp only [replayBlocksFromState, verifyStoredBlocksStructure, List.foldlM_cons, List.foldlM_nil,
    bind_eq_ok, pure_eq_ok, exists_eq_right, Unique.exists_iff]
  simp

end ViperChain
