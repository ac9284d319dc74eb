import ViperChain.Node.OrphanDrain
import ViperChain.Storage.BlockRecords
import ViperChain.Storage.RoundTrip

/-!
A cold start from the checkpoint of another node and the blocks after it, whose certificates are
all checked against one policy in its default mode.
-/

namespace ViperChain.Storage

open Fallible CachedTables

section Bootstrap

structure TrustedCheckpointMetadata where
  height : Nat
  tipHash : BlockHash
  stateRoot : BlockHash
deriving DecidableEq

structure TrustedCheckpointRecord where
  version : Nat
  metadata : TrustedCheckpointMetadata
  state : StateSnapshotRecord

structure CheckpointFormat where
  write : TrustedCheckpointRecord → Option Bytes
  read : Bytes → Option TrustedCheckpointRecord

def CheckpointFormat.Faithful (format : CheckpointFormat) : Prop :=
  ∀ record bytes, format.write record = some bytes → format.read bytes = some record

def stateFormatVersion : Nat := 3

inductive BootstrapError where
  | storeNotEmpty
  | decode
  | stateFormatUpgradeRequired (diskVersion : Nat)
  | binaryTooOld (diskVersion : Nat)
  | state (error : StorageError)
  | snapshotHeight
  | snapshotStateRoot
  | panicked
  | block (error : BlockStorageError)
  | commitQuorum (error : CommitValidationError)
  | chain (error : ChainError)

structure Bootstrapped where
  store : RocksDbChainStore
  metadata : TrustedCheckpointMetadata
  checkpoint : Bytes
  tipHeight : Nat

variable (env : Env) (checkpoints : CheckpointFormat) (records : RecordFormat)

def checkStateFormatVersion (diskVersion : Nat) : Except BootstrapError Unit := do
  require (stateFormatVersion ≤ diskVersion) (.stateFormatUpgradeRequired diskVersion)
  require (diskVersion ≤ stateFormatVersion) (.binaryTooOld diskVersion)

def readSnapshot (snapshotBytes : Bytes) (chainId : Bytes) :
    Except BootstrapError (TrustedCheckpointMetadata × StateStore) := do
  let record ← okOr (checkpoints.read snapshotBytes) .decode
  checkStateFormatVersion record.version
  let state ← (recordIntoState env record.state chainId).mapError .state
  require (state.blockHeight = record.metadata.height) .snapshotHeight
  require (state.stateRoot env = record.metadata.stateRoot) .snapshotStateRoot
  return (record.metadata, state)

def decodeBlockBytes (bytes : Bytes) : Except BlockStorageError StoredBlock := do
  let record ← decodeCborSlice records bytes
  recordIntoStoredBlock env record record.metadata.height

def takeTailBlock (policy : Option CommitQuorumPolicy) (taken : ChainStore × List StoredBlock)
    (bytes : Bytes) : Except BootstrapError (ChainStore × List StoredBlock) := do
  let stored ← (decodeBlockBytes env records bytes).mapError .block
  (checkCommitQuorum env stored.block policy).mapError .commitQuorum
  let trial ← (taken.1.appendStoredBlock env stored).mapError .chain
  return (trial, taken.2 ++ [stored])

def persistBlock (blocks : Std.ExtTreeMap Nat Bytes) (stored : StoredBlock) :
    Except BootstrapError (Std.ExtTreeMap Nat Bytes) := do
  let bytes ← (encodeStoredBlockBytes env records stored).mapError .block
  return blocks.insert stored.metadata.height bytes

def bootstrapFromExternalSnapshot (store : RocksDbChainStore) (snapshotBytes : Bytes)
    (tailBlockBytes : List Bytes) (chainId : Bytes) : Except BootstrapError Bootstrapped := do
  require (store.height = 0) .storeNotEmpty
  let (metadata, state) ← readSnapshot env checkpoints snapshotBytes chainId
  let policy ← (CommitQuorumPolicy.fromStateStore env state none).mapError fun _ => .panicked
  let (tailChain, tailStored) ← tailBlockBytes.foldlM (takeTailBlock env records policy)
    (.newWithBase metadata.tipHash metadata.height, [])
  let blocks ← tailStored.foldlM (persistBlock env records) store.blocks
  return {
    store := { store with chain := tailChain, blocks }
    metadata
    checkpoint := snapshotBytes
    tipHeight := if tailStored.isEmpty then metadata.height else tailChain.height }

end Bootstrap

section Node

variable (env : Env) (config : NodeConfig)

structure CertifiedAppend (chain : ChainStore) (state : StateStore) (stored : StoredBlock)
    (next : ChainStore) : Prop where
  certified : ∃ policy, policyFromState env config state = .ok policy ∧
    checkCommitQuorum env stored.block policy = .ok ()
  appended : ∃ trial, chain.appendStoredBlock env stored = .ok trial ∧
    (next = trial ∨ next = trial.compactToCheckpoint trial.height trial.expectedPrevHash)

inductive CertifiedRun : ChainStore → List (StateStore × StoredBlock) → ChainStore → Prop where
  | nil (chain : ChainStore) : CertifiedRun chain [] chain
  | cons {chain next last : ChainStore} {state : StateStore} {stored : StoredBlock}
      {rest : List (StateStore × StoredBlock)} :
      CertifiedAppend env config chain state stored next → CertifiedRun next rest last →
      CertifiedRun chain ((state, stored) :: rest) last

def checkpointRecord (chain : ChainStore) (state : StateStore) : TrustedCheckpointRecord where
  version := stateFormatVersion
  metadata := ⟨state.blockHeight, chain.expectedPrevHash, state.stateRoot env⟩
  state := stateIntoRecord state

def Survives (state : StateStore) : Prop :=
  ∃ after, recordIntoState env (stateIntoRecord state) state.chainId = .ok after ∧
    SameContents env after state ∧ after.stateRoot env = state.stateRoot env

end Node

variable {env : Env} {config : NodeConfig}

section Heights

variable {chain next : ChainStore} {state : StateStore} {stored : StoredBlock}

theorem CertifiedAppend.tipKnown (step : CertifiedAppend env config chain state stored next)
    (known : chain.TipKnown) : next.TipKnown := by
  obtain ⟨trial, accepted, rfl | rfl⟩ := step.appended
  · exact known.appendStoredBlock accepted
  · exact ((known.appendStoredBlock accepted).checkpoint _).1

theorem CertifiedRun.tipKnown {blocks : List (StateStore × StoredBlock)}
    (run : CertifiedRun env config chain blocks next) (known : chain.TipKnown) : next.TipKnown := by
  induction run with
  | nil => exact known
  | cons step _ ih => exact ih (step.tipKnown known)

theorem CertifiedAppend.tip (step : CertifiedAppend env config chain state stored next)
    (known : chain.TipKnown) :
    next.height = stored.metadata.height ∧ next.expectedPrevHash = stored.metadata.blockHash := by
  obtain ⟨trial, accepted, compacted⟩ := step.appended
  have later := known.appendStoredBlock accepted
  simp only [ChainStore.appendStoredBlock, bind_eq_ok, pure_eq_ok] at accepted
  obtain ⟨_, _, rfl⟩ := accepted
  obtain rfl | rfl := compacted
  · exact ⟨ChainStore.height_linkBlock stored, rfl⟩
  · refine ⟨?_, rfl⟩
    rw [ChainStore.height_of_tipless (later.checkpoint _).2]
    exact ChainStore.height_linkBlock stored

end Heights

section Policy

theorem firstDuplicate_eq_none {seen addresses : List Bytes} (distinct : addresses.Nodup)
    (apart : ∀ address ∈ addresses, address ∉ seen) : firstDuplicate seen addresses = none := by
  induction addresses generalizing seen with
  | nil => rfl
  | cons address rest ih =>
      obtain ⟨unlisted, distinct⟩ := List.nodup_cons.mp distinct
      rw [firstDuplicate, if_neg (apart address List.mem_cons_self)]
      refine ih distinct fun later member => ?_
      rw [List.mem_cons, not_or]
      refine ⟨?_, apart later (List.mem_cons_of_mem _ member)⟩
      rintro rfl
      exact unlisted member

theorem fromStateStore_ok {state : StateStore} (coherent : state.Coherent env) :
    ∃ policy, CommitQuorumPolicy.fromStateStore env state none = .ok policy := by
  unfold CommitQuorumPolicy.fromStateStore
  by_cases empty : state.activeValidators = []
  · exact ⟨none, by simp [empty]⟩
  · have distinct : (state.activeValidators.map fun record => record.operator.data).Nodup := by
      have sublist : (state.activeValidators.map ValidatorRecord.operator).Sublist
          (state.validators.values.map ValidatorRecord.operator) := List.filter_sublist.map _
      have operators := sublist.nodup coherent.validatorsKeyed.distinct
      rw [← Function.comp_def Bytes32.data, ← List.map_map]
      exact operators.map Bytes32.data_injective
    have unique := @firstDuplicate_eq_none [] _ distinct (by simp)
    have positive : 0 < state.activeValidators.length := List.length_pos_iff.mpr empty
    have threshold : ¬(quorumSize state.activeValidators.length = 0 ∨
        state.activeValidators.length < quorumSize state.activeValidators.length) := by
      unfold quorumSize
      omega
    simp only [List.isEmpty_iff, empty, if_false]
    unfold CommitQuorumPolicy.new
    rw [if_neg (by simpa using empty)]
    split
    · rename_i found
      simp only [List.map_map, Function.comp_def] at found
      rw [unique] at found
      cases found
    · simp [threshold, Except.map]

theorem SameContents.policy {left right : StateStore} (same : SameContents env left right)
    (quorumThreshold : Option Nat) :
    CommitQuorumPolicy.fromStateStore env left quorumThreshold =
      CommitQuorumPolicy.fromStateStore env right quorumThreshold := by
  have active : left.activeValidators = right.activeValidators := by
    simp only [StateStore.activeValidators, CachedTable.values, same.validators]
  simp only [CommitQuorumPolicy.fromStateStore, active]

end Policy

section Decoding

variable {records : RecordFormat} {stored restored : StoredBlock} {bytes : Bytes}

theorem reads_written (cbor : FaithfulCbor env) {txs others : List Transaction} {bodies : List Bytes}
    {hashes : List TxHash} (range : ∀ tx ∈ txs, tx.InRange)
    (written : List.Forall₂ (fun tx raw => encodeTx env tx = .ok raw) txs bodies)
    (counted : hashes.length = bodies.length)
    (read : List.Forall₂ (Reads env) (bodies.zip hashes) others) : others = txs := by
  induction written generalizing hashes others with
  | nil =>
      rw [List.zip_nil_left, List.forall₂_nil_left_iff] at read
      exact read
  | @cons tx raw txs bodies encoded written ih =>
      cases hashes with
      | nil => simp at counted
      | cons hash hashes =>
          rw [List.zip_cons_cons, List.forall₂_cons_left_iff] at read
          obtain ⟨other, rest, first, later, rfl⟩ := read
          have decoded := decodeTx_encodeTx cbor (range tx List.mem_cons_self) encoded
          rw [first.2, Except.ok.injEq] at decoded
          rw [decoded, ih (fun tx member => range tx (List.mem_cons_of_mem _ member))
            (by simpa using counted) later]

theorem decodeBlockBytes_encoded (faithful : records.Faithful) (cbor : FaithfulCbor env)
    (range : ∀ tx ∈ stored.includedTransactions, tx.InRange)
    (encoded : encodeStoredBlockBytes env records stored = .ok bytes) :
    decodeBlockBytes env records bytes = .ok restored ↔ restored = stored ∧ BodiesKept env stored := by
  simp only [encodeStoredBlockBytes, bind_eq_ok, okOr_eq_ok] at encoded
  obtain ⟨record, converted, written⟩ := encoded
  have read := faithful.read_write record bytes written
  have decoded : decodeBlockBytes env records bytes =
      recordIntoStoredBlock env record record.metadata.height := by
    simp [decodeBlockBytes, decodeCborSlice, read, okOr, bind, Except.bind]
  rw [decoded]
  constructor
  · intro back
    suffices same : restored = stored from ⟨same, (recordIntoStoredBlock_written converted).mp (same ▸ back)⟩
    obtain ⟨bodies, bodiesWritten, rfl⟩ := storedBlockIntoRecord_eq_ok.mp converted
    obtain ⟨counted, reads, sigs, header, hashes, metadata⟩ := recordIntoStoredBlock_eq_ok.mp back
    have signed : Except.ok stored.block.commitSignatures = Except.ok restored.block.commitSignatures :=
      (readCommitSigs stored.block.commitSignatures).symm.trans sigs
    obtain ⟨⟨restoredHeader, restoredHashes, restoredSigs⟩, restoredMetadata, restoredTxs⟩ := restored
    obtain ⟨⟨storedHeader, storedHashes, storedSigs⟩, storedMetadata, storedTxs⟩ := stored
    obtain rfl := reads_written cbor range bodiesWritten counted reads
    obtain rfl : restoredHeader = storedHeader := header
    obtain rfl : restoredHashes = storedHashes := hashes
    obtain rfl : restoredMetadata = storedMetadata := metadata
    obtain rfl : storedSigs = restoredSigs := Except.ok.inj signed
    rfl
  · rintro ⟨rfl, kept⟩
    exact (recordIntoStoredBlock_written converted).mpr kept

end Decoding

section Tail

structure Shadows (env : Env) (tail node : ChainStore) (taken : List StoredBlock) : Prop where
  height : tail.height = node.height
  parent : tail.expectedPrevHash = node.expectedPrevHash
  hashes : ∀ hash, tail.byHash.contains hash = true →
    ∃ stored ∈ taken, computeBlockHash env stored.block = hash
  heights : ∀ height, tail.byHeight.contains height = true → height ≤ tail.height
  below : ∀ stored ∈ taken, stored.block.header.height ≤ tail.height

variable {tail node next last : ChainStore} {taken : List StoredBlock} {state : StateStore}
variable {stored : StoredBlock}

theorem newWithBase_shadows : Shadows env (.newWithBase node.expectedPrevHash node.height) node [] where
  height := rfl
  parent := rfl
  hashes := by simp [ChainStore.newWithBase]
  heights := by simp [ChainStore.newWithBase]
  below := by simp

theorem Shadows.append {blocks : Set Block} (injective : BlockHashInjective env blocks)
    (listed : ∀ earlier ∈ taken, earlier.block ∈ blocks) (offered : stored.block ∈ blocks)
    (shadows : Shadows env tail node taken) (known : node.TipKnown) (room : node.height < u64Max)
    (step : CertifiedAppend env config node state stored next) :
    tail.appendStoredBlock env stored = .ok (tail.linkBlock stored) ∧
      next.height = node.height + 1 ∧ Shadows env (tail.linkBlock stored) next (taken ++ [stored]) := by
  have moved := step.tip known
  obtain ⟨trial, accepted, _⟩ := step.appended
  simp only [ChainStore.appendStoredBlock, bind_eq_ok, validateStoredBlock_eq_ok] at accepted
  obtain ⟨_, ⟨wellFormed, fits⟩, _⟩ := accepted
  have above : stored.block.header.height = tail.height + 1 := by
    rw [fits.next, shadows.height, satAdd64]
    omega
  have top : stored.metadata.height = tail.height + 1 := wellFormed.height.trans above
  refine ⟨appendStoredBlock_of_valid (validateStoredBlock_eq_ok.mpr ⟨wellFormed, ?_, ?_, ?_, ?_⟩),
    by rw [moved.1, top, shadows.height], ?_⟩
  · rw [Bool.eq_false_iff]
    intro present
    obtain ⟨earlier, member, same⟩ := shadows.hashes _ present
    have headers := (injective _ (listed earlier member) _ offered same).1
    have lower := shadows.below earlier member
    rw [headers] at lower
    omega
  · rw [Bool.eq_false_iff]
    intro present
    have lower := shadows.heights _ present
    omega
  · rw [fits.next, shadows.height]
  · rw [fits.parent, shadows.parent]
  · constructor
    · rw [ChainStore.height_linkBlock, moved.1]
    · exact moved.2.symm
    · intro hash present
      rw [ChainStore.linkBlock, Std.ExtTreeMap.contains_insert, Bool.or_eq_true] at present
      rcases present with new | old
      · refine ⟨stored, by simp, ?_⟩
        rw [← wellFormed.hashed]
        simpa using new
      · obtain ⟨earlier, member, same⟩ := shadows.hashes hash old
        exact ⟨earlier, List.mem_append_left _ member, same⟩
    · intro height present
      rw [ChainStore.height_linkBlock]
      rw [ChainStore.linkBlock, Std.ExtTreeMap.contains_insert, Bool.or_eq_true] at present
      rcases present with new | old
      · have same : stored.metadata.height = height := by simpa using new
        exact same.ge
      · have lower := shadows.heights height old
        omega
    · intro earlier member
      rw [ChainStore.height_linkBlock]
      rcases List.mem_append.mp member with old | new
      · have lower := shadows.below earlier old
        omega
      · rw [List.mem_singleton.mp new, wellFormed.height]

def Takeable (env : Env) (policy : Option CommitQuorumPolicy) (stored : StoredBlock) : Prop :=
  BodiesKept env stored ∧ checkCommitQuorum env stored.block policy = .ok ()

theorem takeTailBlock_eq_ok {records : RecordFormat} (faithful : records.Faithful)
    (cbor : FaithfulCbor env) {policy : Option CommitQuorumPolicy} {bytes : Bytes}
    {result : ChainStore × List StoredBlock} (range : ∀ tx ∈ stored.includedTransactions, tx.InRange)
    (encoded : encodeStoredBlockBytes env records stored = .ok bytes)
    (appended : tail.appendStoredBlock env stored = .ok (tail.linkBlock stored)) :
    takeTailBlock env records policy (tail, taken) bytes = .ok result ↔
      Takeable env policy stored ∧ result = (tail.linkBlock stored, taken ++ [stored]) := by
  simp only [takeTailBlock, bind_eq_ok, mapError_eq_ok, pure_eq_ok,
    decodeBlockBytes_encoded faithful cbor range encoded]
  constructor
  · rintro ⟨_, ⟨rfl, kept⟩, _, certified, _, linked, rfl⟩
    rw [appended, Except.ok.injEq] at linked
    exact ⟨⟨kept, certified⟩, by rw [linked]⟩
  · rintro ⟨⟨kept, certified⟩, rfl⟩
    exact ⟨stored, ⟨rfl, kept⟩, (), certified, _, appended, rfl⟩

theorem takeTail_iff {records : RecordFormat} (faithful : records.Faithful) (cbor : FaithfulCbor env)
    {policy : Option CommitQuorumPolicy} {blocks : Set Block} (injective : BlockHashInjective env blocks)
    {steps : List (StateStore × StoredBlock)} (run : CertifiedRun env config node steps last) :
    ∀ {tail : ChainStore} {taken : List StoredBlock} {tailBytes : List Bytes},
      (∀ step ∈ steps, step.2.block ∈ blocks ∧ ∀ tx ∈ step.2.includedTransactions, tx.InRange) →
      (∀ earlier ∈ taken, earlier.block ∈ blocks) →
      Shadows env tail node taken → node.TipKnown → node.height + steps.length ≤ u64Max →
      List.Forall₂ (fun step bytes => encodeStoredBlockBytes env records step.2 = .ok bytes)
        steps tailBytes →
      ∀ result, tailBytes.foldlM (takeTailBlock env records policy) (tail, taken) = .ok result ↔
        (∀ step ∈ steps, Takeable env policy step.2) ∧
        result = (steps.foldl (fun chain step => chain.linkBlock step.2) tail,
          taken ++ steps.map Prod.snd) := by
  induction run with
  | nil chain =>
      intro tail taken tailBytes _ _ _ _ _ encoded result
      rw [List.forall₂_nil_left_iff] at encoded
      subst encoded
      simp only [List.foldlM_nil, pure_eq_ok, List.foldl_nil, List.map_nil, List.append_nil,
        List.not_mem_nil, IsEmpty.forall_iff, implies_true, true_and]
      exact eq_comm
  | @cons node next last state stored rest step run ih =>
      intro tail taken tailBytes listed listedTaken shadows known room encoded result
      rw [List.forall₂_cons_left_iff] at encoded
      obtain ⟨bytes, later, first, encoded, rfl⟩ := encoded
      obtain ⟨offered, range⟩ := listed (state, stored) List.mem_cons_self
      rw [List.length_cons] at room
      obtain ⟨appended, height, shadowed⟩ :=
        shadows.append injective listedTaken offered known (by omega) step
      have others := @ih (tail.linkBlock stored) (taken ++ [stored]) later
        (fun other member => listed other (List.mem_cons_of_mem _ member))
        (by simpa [or_imp, forall_and] using ⟨listedTaken, offered⟩) shadowed (step.tipKnown known)
        (by omega) encoded result
      simp only [List.foldlM_cons, bind_eq_ok, takeTailBlock_eq_ok faithful cbor range first appended,
        List.forall_mem_cons, List.foldl_cons, List.map_cons]
      constructor
      · rintro ⟨_, ⟨taken, rfl⟩, ran⟩
        obtain ⟨rest, rfl⟩ := others.mp ran
        exact ⟨⟨taken, rest⟩, by simp⟩
      · rintro ⟨⟨taken, rest⟩, rfl⟩
        exact ⟨_, ⟨taken, rfl⟩, others.mpr ⟨rest, by simp⟩⟩

theorem shadows_run {blocks : Set Block} (injective : BlockHashInjective env blocks)
    {steps : List (StateStore × StoredBlock)} (run : CertifiedRun env config node steps last) :
    ∀ {tail : ChainStore} {taken : List StoredBlock},
      (∀ step ∈ steps, step.2.block ∈ blocks) → (∀ earlier ∈ taken, earlier.block ∈ blocks) →
      Shadows env tail node taken → node.TipKnown → node.height + steps.length ≤ u64Max →
      Shadows env (steps.foldl (fun chain step => chain.linkBlock step.2) tail) last
        (taken ++ steps.map Prod.snd) := by
  induction run with
  | nil chain =>
      intro tail taken _ _ shadows _ _
      simpa using shadows
  | @cons node next last state stored rest step run ih =>
      intro tail taken listed listedTaken shadows known room
      have offered := listed (state, stored) List.mem_cons_self
      rw [List.length_cons] at room
      obtain ⟨_, height, shadowed⟩ :=
        shadows.append injective listedTaken offered known (by omega) step
      have others := @ih (tail.linkBlock stored) (taken ++ [stored])
        (fun other member => listed other (List.mem_cons_of_mem _ member))
        (by simpa [or_imp, forall_and] using ⟨listedTaken, offered⟩) shadowed (step.tipKnown known)
        (by omega)
      simpa using others

theorem exists_persisted {records : RecordFormat} {steps : List (StateStore × StoredBlock)}
    {tailBytes : List Bytes}
    (encoded : List.Forall₂ (fun step bytes => encodeStoredBlockBytes env records step.2 = .ok bytes)
      steps tailBytes) :
    ∀ blocks, ∃ result, (steps.map Prod.snd).foldlM (persistBlock env records) blocks = .ok result := by
  induction encoded with
  | nil => exact fun blocks => ⟨blocks, rfl⟩
  | @cons step bytes steps _ first _ ih =>
      intro blocks
      obtain ⟨result, persisted⟩ := ih (blocks.insert step.2.metadata.height bytes)
      refine ⟨result, ?_⟩
      simp only [List.map_cons, List.foldlM_cons, bind_eq_ok, persistBlock, mapError_eq_ok, pure_eq_ok]
      exact ⟨_, ⟨bytes, first, rfl⟩, persisted⟩

end Tail

section Honest

variable (env : Env) (config : NodeConfig) (checkpoints : CheckpointFormat) (records : RecordFormat)

structure HonestSnapshot (state : StateStore) (node last : ChainStore)
    (tail : List (StateStore × StoredBlock)) (snapshotBytes : Bytes) (tailBytes : List Bytes) : Prop where
  built : ∃ anchor base earlier, base ≤ u64Max ∧
    CertifiedRun env config (.newWithBase anchor base) earlier node
  checkpointed : writeTrustedCheckpoint env node state true = some (node.height, node.expectedPrevHash)
  coherent : state.Coherent env
  survives : Survives env state
  run : CertifiedRun env config node tail last
  room : node.height + tail.length ≤ u64Max
  range : ∀ step ∈ tail, ∀ tx ∈ step.2.includedTransactions, tx.InRange
  snapshot : checkpoints.write (checkpointRecord env node state) = some snapshotBytes
  blocks : List.Forall₂ (fun step bytes => encodeStoredBlockBytes env records step.2 = .ok bytes)
    tail tailBytes

def BootstrapsTo (store : RocksDbChainStore) (snapshotBytes : Bytes) (tailBytes : List Bytes)
    (chainId : Bytes) (last : ChainStore) : Prop :=
  ∃ result, bootstrapFromExternalSnapshot env checkpoints records store snapshotBytes tailBytes chainId =
      .ok result ∧ result.store.height = last.height ∧
    result.store.chain.expectedPrevHash = last.expectedPrevHash

variable {env config checkpoints records} {state : StateStore} {node last : ChainStore}
variable {tail : List (StateStore × StoredBlock)} {snapshotBytes : Bytes} {tailBytes : List Bytes}

theorem HonestSnapshot.read
    (honest : HonestSnapshot env config checkpoints records state node last tail snapshotBytes tailBytes)
    (readable : checkpoints.Faithful) :
    ∃ after, readSnapshot env checkpoints snapshotBytes state.chainId =
        .ok ((checkpointRecord env node state).metadata, after) ∧ SameContents env after state := by
  obtain ⟨after, restored, same, root⟩ := honest.survives
  refine ⟨after, ?_, same⟩
  simp only [readSnapshot, checkStateFormatVersion, bind_eq_ok, okOr_eq_ok, mapError_eq_ok, require_eq_ok,
    pure_eq_ok, decide_eq_true_eq, exists_const]
  exact ⟨_, readable _ _ honest.snapshot, ⟨Nat.le_refl _, Nat.le_refl _⟩, after, restored,
    same.blockHeight, root, rfl⟩

theorem HonestSnapshot.height
    (honest : HonestSnapshot env config checkpoints records state node last tail snapshotBytes tailBytes) :
    state.blockHeight = node.height := by
  have written := honest.checkpointed
  simp only [writeTrustedCheckpoint, Option.ite_none_right_eq_some] at written
  exact written.1.1

theorem HonestSnapshot.bootstrapsTo_iff
    (honest : HonestSnapshot env config checkpoints records state node last tail snapshotBytes tailBytes)
    (readable : checkpoints.Faithful) (faithful : records.Faithful) (cbor : FaithfulCbor env)
    (injective : BlockHashInjective env {block | ∃ step ∈ tail, step.2.block = block})
    {store : RocksDbChainStore} (empty : store.height = 0) {policy : Option CommitQuorumPolicy}
    (derived : CommitQuorumPolicy.fromStateStore env state none = .ok policy) :
    BootstrapsTo env checkpoints records store snapshotBytes tailBytes state.chainId last ↔
      ∀ step ∈ tail, Takeable env policy step.2 := by
  obtain ⟨after, read, same⟩ := honest.read readable
  obtain ⟨anchor, base, earlier, fits, built⟩ := honest.built
  have known := built.tipKnown (ChainStore.newWithBase_tipKnown anchor fits)
  have listed : ∀ step ∈ tail, step.2.block ∈ {block | ∃ step ∈ tail, step.2.block = block} :=
    fun step member => ⟨step, member, rfl⟩
  have start : (checkpointRecord env node state).metadata =
      ⟨node.height, node.expectedPrevHash, state.stateRoot env⟩ := by
    rw [checkpointRecord, honest.height]
  have loop : ∀ result, tailBytes.foldlM (takeTailBlock env records policy)
      (.newWithBase node.expectedPrevHash node.height, []) = .ok result ↔ _ :=
    takeTail_iff faithful cbor injective honest.run
      (fun step member => ⟨listed step member, honest.range step member⟩) (by simp)
      newWithBase_shadows known honest.room honest.blocks
  have shadowed := shadows_run injective honest.run listed (by simp) newWithBase_shadows known honest.room
  simp only [BootstrapsTo, bootstrapFromExternalSnapshot, bind_eq_ok, require_eq_ok, pure_eq_ok,
    mapError_eq_ok, decide_eq_true_eq, exists_const, read, Except.ok.injEq, exists_eq_left',
    same.policy, derived, start, loop, empty]
  constructor
  · rintro ⟨_, ⟨_, _, ⟨takeable, _⟩, _⟩, _⟩
    exact takeable
  · intro takeable
    obtain ⟨blocks, persisted⟩ := exists_persisted honest.blocks store.blocks
    exact ⟨_, ⟨trivial, _, ⟨takeable, rfl⟩, blocks, persisted, rfl⟩, shadowed.height, shadowed.parent⟩

theorem CertifiedRun.certified (run : CertifiedRun env config node tail last) :
    ∀ step ∈ tail, ∃ policy, policyFromState env config step.1 = .ok policy ∧
      checkCommitQuorum env step.2.block policy = .ok () := by
  induction run with
  | nil => simp
  | cons step _ ih => exact List.forall_mem_cons.mpr ⟨step.certified, ih⟩

theorem policyFromState_legacy (legacy : config.distributedSigning = false) (state : StateStore) :
    policyFromState env config state = CommitQuorumPolicy.fromStateStore env state none := by
  unfold policyFromState
  cases CommitQuorumPolicy.fromStateStore env state none with
  | error error => rfl
  | ok policy => cases policy <;> simp [Except.map, legacy]

end Honest

/-- An honest snapshot starts a node exactly if every block of its tail can be read back and has
a certificate for the validators of the checkpoint in legacy mode. In a legacy network that is so
as long as the validators stay the same. -/
theorem honestSnapshot_bootstraps_iff (env : Env) (config : NodeConfig) (checkpoints : CheckpointFormat)
    (records : RecordFormat) (readable : checkpoints.Faithful) (faithful : records.Faithful)
    (cbor : FaithfulCbor env) (state : StateStore) (node last : ChainStore)
    (tail : List (StateStore × StoredBlock)) (snapshotBytes : Bytes) (tailBytes : List Bytes)
    (honest : HonestSnapshot env config checkpoints records state node last tail snapshotBytes tailBytes)
    (injective : BlockHashInjective env {block | ∃ step ∈ tail, step.2.block = block})
    (store : RocksDbChainStore) (empty : store.height = 0) :
    (BootstrapsTo env checkpoints records store snapshotBytes tailBytes state.chainId last ↔
      ∀ policy, CommitQuorumPolicy.fromStateStore env state none = .ok policy →
        ∀ step ∈ tail, BodiesKept env step.2 ∧ checkCommitQuorum env step.2.block policy = .ok ()) ∧
    (config.distributedSigning = false →
      (∀ step ∈ tail, BodiesKept env step.2 ∧
        CommitQuorumPolicy.fromStateStore env step.1 none =
          CommitQuorumPolicy.fromStateStore env state none) →
      BootstrapsTo env checkpoints records store snapshotBytes tailBytes state.chainId last) := by
  obtain ⟨policy, derived⟩ := fromStateStore_ok honest.coherent
  have exactly := honest.bootstrapsTo_iff readable faithful cbor injective empty derived
  refine ⟨exactly.trans ⟨?_, ?_⟩, fun legacy unchanged => exactly.mpr ?_⟩
  · intro takeable other same
    rw [derived, Except.ok.injEq] at same
    exact same ▸ takeable
  · intro takeable
    exact takeable policy derived
  · intro step member
    obtain ⟨kept, same⟩ := unchanged step member
    obtain ⟨own, ownDerived, certified⟩ := honest.run.certified step member
    rw [policyFromState_legacy legacy, same, derived, Except.ok.injEq] at ownDerived
    exact ⟨kept, ownDerived ▸ certified⟩

section Sample

def firstBare (commits : List CommitSig) : StoredBlock :=
  withCommits (bareBlock 1 (Bytes32.fill 0) 0) commits

def signingConfig (distributedSigning : Bool) : NodeConfig := { snapshotConfig with distributedSigning }

theorem writeTrustedCheckpoint_new {state : StateStore} (genesis : state.blockHeight = 0)
    (anchor : BlockHash) :
    writeTrustedCheckpoint env (.new anchor) state true =
      some ((ChainStore.new anchor).height, (ChainStore.new anchor).expectedPrevHash) := by
  simp [writeTrustedCheckpoint, genesis, ChainStore.new, ChainStore.newWithBase, ChainStore.height,
    ChainStore.tip, ChainStore.expectedPrevHash]

theorem exists_honestSnapshot {config : NodeConfig} (commits : List CommitSig)
    {policy : Option CommitQuorumPolicy}
    (derived : policyFromState sampleEnv config sampleGenesis = .ok policy)
    (certified : checkCommitQuorum sampleEnv (firstBare commits).block policy = .ok ()) :
    ∃ checkpoints : CheckpointFormat, checkpoints.Faithful ∧
      HonestSnapshot sampleEnv config checkpoints (tableFormat [bareRecord (firstBare commits)])
        sampleGenesis (.new (Bytes32.fill 0)) ((ChainStore.new (Bytes32.fill 0)).linkBlock (firstBare commits))
        [(sampleGenesis, firstBare commits)] [0] [[0]] := by
  classical
  let record := checkpointRecord sampleEnv (.new (Bytes32.fill 0)) sampleGenesis
  let checkpoints : CheckpointFormat :=
    { write := fun other => if other = record then some [0] else none
      read := fun _ => some record }
  have appended : (ChainStore.new (Bytes32.fill 0)).appendStoredBlock sampleEnv (firstBare commits) =
      .ok ((ChainStore.new (Bytes32.fill 0)).linkBlock (firstBare commits)) :=
    appendStoredBlock_of_valid (validateStoredBlock_eq_ok.mpr ⟨⟨rfl, rfl, rfl, rfl, rfl, rfl, rfl⟩,
      Std.ExtTreeMap.contains_empty, Std.ExtTreeMap.contains_empty, rfl, rfl⟩)
  refine ⟨checkpoints, ?_, ?_⟩
  · intro other bytes written
    simp only [checkpoints, Option.ite_none_right_eq_some] at written
    simp only [checkpoints, written.1]
  · exact
      { built := ⟨Bytes32.fill 0, 0, [], Nat.zero_le _, .nil _⟩
        checkpointed := writeTrustedCheckpoint_new rfl (Bytes32.fill 0)
        coherent := sampleGenesis_onChain.coherent
        survives := sampleGenesis_representable.survives sampleGenesis_onChain
        run := .cons ⟨⟨policy, derived, certified⟩, _, appended, Or.inl rfl⟩ (.nil _)
        room := show 0 + 1 ≤ u64Max by decide
        range := by simp [firstBare, withCommits, bareBlock]
        snapshot := if_pos rfl
        blocks := .cons (bareRecord_encoded rfl []) .nil }

theorem firstBare_kept (commits : List CommitSig) : BodiesKept sampleEnv (firstBare commits) :=
  ⟨rfl, by simp [firstBare, withCommits, bareBlock]⟩

theorem firstBare_injective (commits : List CommitSig) :
    BlockHashInjective sampleEnv
      {block | ∃ step ∈ [(sampleGenesis, firstBare commits)], step.2.block = block} := by
  rintro _ ⟨_, leftMember, rfl⟩ _ ⟨_, rightMember, rfl⟩ _
  rw [List.mem_singleton.mp leftMember, List.mem_singleton.mp rightMember]
  exact ⟨rfl, rfl⟩

theorem sampleGenesis_policy :
    CommitQuorumPolicy.fromStateStore sampleEnv sampleGenesis none = .ok (some authorPolicy) := rfl

def precommit : CommitSig where
  validatorAddress := author.data
  sigAlgId := .mlDsa65
  round := 0
  signature := (votePreimage sampleEnv (.viperResearch1 sampleEnv) 1 0 .precommit
    (bareBlock 1 (Bytes32.fill 0) 0).metadata.blockHash).data

theorem precommit_certified :
    checkCommitQuorum sampleEnv (firstBare [precommit]).block
      (some (authorPolicy.withDistributedPreimage 0)) = .ok () := by
  decide +kernel

theorem precommit_refused :
    checkCommitQuorum sampleEnv (firstBare [precommit]).block (some authorPolicy) ≠ .ok () := by
  decide +kernel

/-- In distributed mode the certificates sign precommits, and the cold start looks for legacy ones. -/
theorem distributedSnapshot_refused :
    ∃ checkpoints records last snapshotBytes tailBytes, ∃ tail : List (StateStore × StoredBlock),
      HonestSnapshot sampleEnv (signingConfig true) checkpoints records sampleGenesis
        (.new (Bytes32.fill 0)) last tail snapshotBytes tailBytes ∧
      checkpoints.Faithful ∧ records.Faithful ∧
      BlockHashInjective sampleEnv {block | ∃ step ∈ tail, step.2.block = block} ∧
      ¬BootstrapsTo sampleEnv checkpoints records (.openEmpty (Bytes32.fill 0)) snapshotBytes tailBytes
        sampleGenesis.chainId last := by
  obtain ⟨checkpoints, readable, honest⟩ := @exists_honestSnapshot (signingConfig true) [precommit] _
    (congrArg (Except.map _) sampleGenesis_policy) precommit_certified
  refine ⟨checkpoints, _, _, _, _, _, honest, readable, tableFormat_faithful _,
    firstBare_injective [precommit], fun started => ?_⟩
  have takeable := (honest.bootstrapsTo_iff readable (tableFormat_faithful _) sampleEnv_faithful
    (firstBare_injective [precommit]) rfl sampleGenesis_policy).mp started
  exact precommit_refused (takeable _ (List.mem_singleton_self _)).2

theorem honestSnapshot_bootstraps_iff_legacy :
    ∃ checkpoints records last snapshotBytes tailBytes, ∃ tail : List (StateStore × StoredBlock),
      HonestSnapshot sampleEnv (signingConfig false) checkpoints records sampleGenesis
        (.new (Bytes32.fill 0)) last tail snapshotBytes tailBytes ∧ tail.length = 1 ∧
      BootstrapsTo sampleEnv checkpoints records (.openEmpty (Bytes32.fill 0)) snapshotBytes tailBytes
        sampleGenesis.chainId last := by
  obtain ⟨checkpoints, readable, honest⟩ := @exists_honestSnapshot (signingConfig false) _ _
    (congrArg (Except.map _) sampleGenesis_policy) (certify_certified (bareBlock 1 (Bytes32.fill 0) 0))
  refine ⟨checkpoints, _, _, _, _, _, honest, rfl, ?_⟩
  refine (honestSnapshot_bootstraps_iff sampleEnv (signingConfig false) checkpoints _ readable
    (tableFormat_faithful _) sampleEnv_faithful sampleGenesis _ _ _ _ _ honest (firstBare_injective _)
    (.openEmpty (Bytes32.fill 0)) rfl).2 rfl ?_
  intro step member
  rw [List.mem_singleton.mp member]
  exact ⟨firstBare_kept _, rfl⟩

end Sample

end ViperChain.Storage
