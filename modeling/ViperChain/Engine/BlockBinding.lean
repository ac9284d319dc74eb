import ViperChain.Engine.Agreement
import ViperChain.State.LeafBinding
import ViperChain.Tx.Wire

/-!
What a block hash fixes. Its frames can be read again, and replay compares each body with its
hash.
-/

namespace ViperChain

open Fallible

structure StoredBlock.InRange (stored : StoredBlock) : Prop where
  headerVersion : stored.block.header.headerVersion < 2 ^ 64
  height : stored.block.header.height < 2 ^ 64
  timestamp : stored.block.header.timestamp < 2 ^ 64
  proposer : stored.block.header.proposer.length < 2 ^ 64
  bodies : ∀ tx ∈ stored.includedTransactions, tx.InRange

variable {env : Env}

section Hash

def blockChunks (block : Block) : List Bytes :=
  [ be64 block.header.headerVersion, be64 block.header.height, block.header.prevHash.data,
    block.header.stateRoot.data, block.header.txRoot.data, be64 block.header.timestamp,
    block.header.proposer, block.header.extensionRoot.data, be64 block.txHashes.length ] ++
  block.txHashes.map Bytes32.data

def blockQuery (block : Block) : Bytes × Bytes :=
  (ascii "VIPER-BLOCK-HASH-V1", frames (blockChunks block))

theorem computeBlockHash_eq (block : Block) :
    computeBlockHash env block = taggedHash env (blockQuery block).1 (blockQuery block).2 := by
  rw [blockQuery, ← leafHash_eq, leafHash, blockChunks, TaggedHasher.pushChunks, List.foldl_append]
  rfl

theorem blockChunks_short (block : Block) (proposer : block.header.proposer.length < 2 ^ 64) :
    ∀ chunk ∈ blockChunks block, chunk.length < 2 ^ 64 := by
  intro chunk member
  rcases List.mem_append.mp member with front | back
  · simp only [List.mem_cons, List.not_mem_nil, or_false] at front
    rcases front with rfl | rfl | rfl | rfl | rfl | rfl | rfl | rfl | rfl
    case inr.inr.inr.inr.inr.inr.inl => exact proposer
    all_goals simp [be64, Bytes32.length_eq]
  · obtain ⟨hash, _, rfl⟩ := List.mem_map.mp back
    simp [Bytes32.length_eq]

theorem blockChunks_injective {left right : StoredBlock} (leftRange : left.InRange)
    (rightRange : right.InRange) (same : blockChunks left.block = blockChunks right.block) :
    left.block.header = right.block.header ∧ left.block.txHashes = right.block.txHashes := by
  obtain ⟨⟨⟨_, _, _, _, _, _, _, _⟩, leftHashes, _⟩, _, _⟩ := left
  obtain ⟨⟨⟨_, _, _, _, _, _, _, _⟩, rightHashes, _⟩, _, _⟩ := right
  simp only [blockChunks, List.cons_append, List.nil_append, List.cons.injEq] at same
  obtain ⟨version, height, prev, state, txRoot, time, proposer, extension, _, hashes⟩ := same
  refine ⟨?_, List.map_injective_iff.mpr Bytes32.data_injective hashes⟩
  simp only [BlockHeader.mk.injEq]
  exact ⟨be64_injective leftRange.headerVersion rightRange.headerVersion version,
    be64_injective leftRange.height rightRange.height height, Bytes32.data_injective prev,
    Bytes32.data_injective state, Bytes32.data_injective txRoot,
    be64_injective leftRange.timestamp rightRange.timestamp time, proposer,
    Bytes32.data_injective extension⟩

end Hash

section Bodies

def Hashed (env : Env) (tx : Transaction) (hash : TxHash) : Prop :=
  ∃ raw, encodeTx env tx = .ok raw ∧ computeTxHash env raw = hash

theorem replayTransactions_hashed {params : ReplayParams} {state : StateStore} {stored : StoredBlock}
    {progress : ReplayProgress} (ran : replayTransactions env params state stored = .ok progress) :
    ∀ pair ∈ stored.includedTransactions.zip stored.block.txHashes, Hashed env pair.1 pair.2 := by
  intro pair member
  obtain ⟨index, inside, rfl⟩ := List.getElem_of_mem member
  obtain ⟨before, after, stepped⟩ := foldlM_step_ok ran
    ((stored.includedTransactions.zip stored.block.txHashes)[index], index)
    (List.mem_zipIdx_iff_getElem?.mpr (List.getElem?_eq_getElem inside))
  simp only [replayTx, bind_eq_ok, mapError_eq_ok, require_eq_ok, decide_eq_true_eq] at stepped
  obtain ⟨raw, encoded, _, hashed, _⟩ := stepped
  exact ⟨raw, encoded, hashed⟩

theorem bodies_eq {left right : List Transaction} {hashes : List TxHash}
    (faithful : FaithfulCbor env) (leftLength : left.length = hashes.length)
    (rightLength : right.length = hashes.length)
    (leftHashed : ∀ pair ∈ left.zip hashes, Hashed env pair.1 pair.2)
    (rightHashed : ∀ pair ∈ right.zip hashes, Hashed env pair.1 pair.2)
    (leftRange : ∀ tx ∈ left, tx.InRange) (rightRange : ∀ tx ∈ right, tx.InRange)
    (free : ∀ leftTx ∈ left, ∀ rightTx ∈ right, ∀ leftRaw rightRaw,
      encodeTx env leftTx = .ok leftRaw → encodeTx env rightTx = .ok rightRaw →
        computeTxHash env leftRaw = computeTxHash env rightRaw → leftRaw = rightRaw) :
    left = right := by
  refine List.ext_getElem (leftLength.trans rightLength.symm) fun index leftInside rightInside => ?_
  have inside : index < hashes.length := leftLength ▸ leftInside
  have leftMember : left[index] ∈ left := List.getElem_mem leftInside
  have rightMember : right[index] ∈ right := List.getElem_mem rightInside
  have leftPair : (left[index], hashes[index]) ∈ left.zip hashes :=
    List.mem_iff_getElem.mpr ⟨index, by simp [leftInside, inside], by simp⟩
  have rightPair : (right[index], hashes[index]) ∈ right.zip hashes :=
    List.mem_iff_getElem.mpr ⟨index, by simp [rightInside, inside], by simp⟩
  obtain ⟨leftRaw, leftEncoded, leftHash⟩ := leftHashed _ leftPair
  obtain ⟨rightRaw, rightEncoded, rightHash⟩ := rightHashed _ rightPair
  have sameRaw : leftRaw = rightRaw := free _ leftMember _ rightMember _ _ leftEncoded rightEncoded
    (leftHash.trans rightHash.symm)
  subst sameRaw
  exact encodeTx_injective faithful (leftRange _ leftMember) (rightRange _ rightMember) leftEncoded
    rightEncoded

end Bodies

/-- The hash has no collision among the bytes behind two blocks: what their block hashes
absorb, and the encodings of their bodies. -/
structure BlocksApart (env : Env) (left right : StoredBlock) : Prop where
  blocks : CollisionFree env [blockQuery left.block, blockQuery right.block]
  bodies : ∀ leftTx ∈ left.includedTransactions, ∀ rightTx ∈ right.includedTransactions,
    ∀ leftRaw rightRaw, encodeTx env leftTx = .ok leftRaw → encodeTx env rightTx = .ok rightRaw →
      computeTxHash env leftRaw = computeTxHash env rightRaw → leftRaw = rightRaw

section Execution

variable {base : StateStore} {anchor : BlockHash} {params : ReplayParams}

theorem replayBlock_state_congr {left right : StoredBlock} {start leftResult rightResult : ReplayResult}
    (header : left.block.header = right.block.header)
    (hashes : left.block.txHashes = right.block.txHashes)
    (bodies : left.includedTransactions = right.includedTransactions)
    (height : left.metadata.height = right.metadata.height)
    (leftRan : replayBlock env params start left = .ok leftResult)
    (rightRan : replayBlock env params start right = .ok rightResult) :
    leftResult.state = rightResult.state := by
  simp only [replayBlock, bind_eq_ok, require_eq_ok, pure_eq_ok] at leftRan rightRan
  obtain ⟨leftProgress, leftTransactions, _, _, _, _, _, _, rfl⟩ := leftRan
  obtain ⟨rightProgress, rightTransactions, _, _, _, _, _, _, rfl⟩ := rightRan
  have sameLoop : replayTransactions env params start.state left =
      replayTransactions env params start.state right := by
    simp only [replayTransactions, bodies, hashes, height]
  rw [sameLoop, rightTransactions, Except.ok.injEq] at leftTransactions
  simp only [header, leftTransactions]

theorem verifyStoredBlock_eq_ok {stored : StoredBlock} {expectedHeight : Nat}
    {expectedPrevHash : BlockHash}
    (verified : verifyStoredBlock env expectedHeight expectedPrevHash stored = .ok ()) :
    stored.block.txHashes.length = stored.includedTransactions.length ∧
      stored.metadata.height = stored.block.header.height := by
  simp only [verifyStoredBlock, bind_eq_ok, require_eq_ok, decide_eq_true_eq] at verified
  obtain ⟨_, _, _, _, _, count, _, height, _⟩ := verified
  exact ⟨count, height⟩

end Execution

/-- Two blocks that replay accepts on one state under one block hash are one block, up to the
commit signatures, and leave one state. -/
theorem blockHash_fixes_execution (env : Env) (faithful : FaithfulCbor env) (base : StateStore)
    (anchor : BlockHash) (params : ReplayParams) (left right : StoredBlock)
    (leftRange : left.InRange) (rightRange : right.InRange) (apart : BlocksApart env left right)
    (leftResult rightResult : ReplayResult)
    (leftAccepted : replayBlocksFromState env base anchor [left] params = .ok leftResult)
    (rightAccepted : replayBlocksFromState env base anchor [right] params = .ok rightResult)
    (same : computeBlockHash env left.block = computeBlockHash env right.block) :
    left.block.header = right.block.header ∧ left.block.txHashes = right.block.txHashes ∧
      left.includedTransactions = right.includedTransactions ∧
      leftResult.state = rightResult.state := by
  obtain ⟨leftVerified, leftRan⟩ := replayBlocksFromState_singleton.mp leftAccepted
  obtain ⟨rightVerified, rightRan⟩ := replayBlocksFromState_singleton.mp rightAccepted
  obtain ⟨leftCount, leftHeight⟩ := verifyStoredBlock_eq_ok leftVerified
  obtain ⟨rightCount, rightHeight⟩ := verifyStoredBlock_eq_ok rightVerified
  rw [computeBlockHash_eq, computeBlockHash_eq] at same
  have absorbed := apart.blocks _ List.mem_cons_self _ (by simp) same
  obtain ⟨header, hashes⟩ := blockChunks_injective leftRange rightRange
    (frames_injective (blockChunks_short _ leftRange.proposer)
      (blockChunks_short _ rightRange.proposer) (Prod.mk.inj absorbed).2)
  have hashed : ∀ {stored : StoredBlock} {result : ReplayResult},
      replayBlock env params (.start env base anchor) stored = .ok result →
        ∀ pair ∈ stored.includedTransactions.zip stored.block.txHashes, Hashed env pair.1 pair.2 := by
    intro stored result ran
    simp only [replayBlock, bind_eq_ok] at ran
    obtain ⟨_, transactions, _⟩ := ran
    exact replayTransactions_hashed transactions
  have bodies : left.includedTransactions = right.includedTransactions :=
    bodies_eq faithful leftCount.symm (rightCount.symm.trans (congrArg List.length hashes.symm))
      (hashed leftRan) (hashes ▸ hashed rightRan) leftRange.bodies rightRange.bodies apart.bodies
  have height : left.metadata.height = right.metadata.height := by
    rw [leftHeight, rightHeight, header]
  exact ⟨header, hashes, bodies, replayBlock_state_congr header hashes bodies height leftRan rightRan⟩

section Sample

def strayCommit : CommitSig := ⟨[1], .mlDsa65, 0, [2]⟩

def countersigned (stored : StoredBlock) : StoredBlock :=
  { stored with block := { stored.block with commitSignatures := [strayCommit] } }

theorem replay_countersigned (env : Env) (base : StateStore) (anchor : BlockHash)
    (params : ReplayParams) (stored : StoredBlock) :
    replayBlocksFromState env base anchor [countersigned stored] params =
      replayBlocksFromState env base anchor [stored] params := rfl

theorem BlocksApart.countersigned (stored : StoredBlock) (tx : Transaction)
    (bodies : stored.includedTransactions = [tx]) :
    BlocksApart env stored (countersigned stored) where
  blocks := by
    intro left leftAsked right rightAsked _
    have one : ∀ query ∈ [blockQuery stored.block, blockQuery (ViperChain.countersigned stored).block],
        query = blockQuery stored.block := by simp [ViperChain.countersigned, blockQuery, blockChunks]
    rw [one left leftAsked, one right rightAsked]
  bodies := by
    intro leftTx leftMember rightTx rightMember leftRaw rightRaw leftEncoded rightEncoded _
    rw [bodies, List.mem_singleton] at leftMember
    rw [show (ViperChain.countersigned stored).includedTransactions = [tx] from bodies,
      List.mem_singleton] at rightMember
    subst leftMember rightMember
    exact Except.ok.inj (leftEncoded.symm.trans rightEncoded)

theorem storedBlock_inRange {store : StateStore} {pool : Mempool} {context : AssemblyContext}
    {config : AssemblyConfig} {assembled : Assembled}
    (accepted : assembleBlock env store pool context config = .ok assembled)
    (height : context.height < 2 ^ 64) (timestamp : context.timestamp < 2 ^ 64)
    (proposer : context.proposer.length < 2 ^ 64)
    (bodies : ∀ tx ∈ assembled.result.includedTransactions, tx.InRange) :
    (storedBlock env assembled.result).InRange := by
  obtain ⟨_, _, _, rfl⟩ := assembleBlock_eq_ok.mp accepted
  exact ⟨show 1 < 2 ^ 64 by decide, height, timestamp, proposer, bodies⟩

theorem assembled_unsigned {store : StateStore} {pool : Mempool} {context : AssemblyContext}
    {config : AssemblyConfig} {assembled : Assembled}
    (accepted : assembleBlock env store pool context config = .ok assembled) :
    (storedBlock env assembled.result).block.commitSignatures = [] := by
  obtain ⟨_, _, _, rfl⟩ := assembleBlock_eq_ok.mp accepted
  rfl

theorem authorTx_inRange : (authorTx .proofAnchor 0 10 anchorPayload).InRange := by
  constructor <;> decide +kernel

theorem blockHash_fixes_execution_anchor :
    ∃ stored leftResult rightResult,
      stored.includedTransactions = [authorTx .proofAnchor 0 10 anchorPayload] ∧
      replayBlocksFromState sampleEnv sampleGenesis (Bytes32.fill 0) [stored]
        devnetConfig.replayParams = .ok leftResult ∧
      replayBlocksFromState sampleEnv sampleGenesis (Bytes32.fill 0) [countersigned stored]
        devnetConfig.replayParams = .ok rightResult ∧
      stored ≠ countersigned stored ∧ leftResult.state = rightResult.state := by
  obtain ⟨assembled, accepted, bodies⟩ := anchorPool_assembled
  have unchanged : epochStep sampleEnv (closedStore sampleEnv sampleGenesis anchorPool devnetConfig
      (nextContext sampleGenesis).height watcher) (nextContext sampleGenesis).height
        devnetConfig.epochConfig = _ := if_neg (by decide)
  obtain ⟨result, replayed, _⟩ := (reproduces_iff rfl
    (fun entry member => (anchorPool_canonical entry member).1)
    (fun entry member => (anchorPool_canonical entry member).2) accepted).mpr unchanged
  have range := storedBlock_inRange accepted (by decide) (by decide) (by decide)
    (by simpa [bodies] using authorTx_inRange)
  have replayedAlso := (replay_countersigned sampleEnv sampleGenesis (Bytes32.fill 0)
    devnetConfig.replayParams (storedBlock sampleEnv assembled.result)).trans replayed
  have sameState := blockHash_fixes_execution sampleEnv sampleEnv_faithful sampleGenesis
    (Bytes32.fill 0) devnetConfig.replayParams (storedBlock sampleEnv assembled.result)
    (countersigned (storedBlock sampleEnv assembled.result)) range
    ⟨range.headerVersion, range.height, range.timestamp, range.proposer, range.bodies⟩
    (BlocksApart.countersigned _ _ bodies) result result replayed replayedAlso
    (computeBlockHash_commitSignatures sampleEnv _ [strayCommit]).symm
  refine ⟨storedBlock sampleEnv assembled.result, result, result, bodies, replayed, replayedAlso,
    ?_, sameState.2.2.2⟩
  intro same
  have signatures := congrArg (fun stored => stored.block.commitSignatures) same
  rw [assembled_unsigned accepted] at signatures
  simp [countersigned] at signatures

end Sample

end ViperChain
