import ViperChain.Storage.Recovery

/-!
The restart of a node that was started cold: it executes the blocks that the cold start only
checked for structure and certificates.
-/

namespace ViperChain.Storage

open Fallible OrderedMaps

def RocksDbStore.bootstrapFromExternalSnapshot (env : Env) (checkpoints : CheckpointFormat)
    (records : RecordFormat) (store : RocksDbStore) (snapshotBytes : Bytes)
    (tailBlockBytes : List Bytes) (chainId : Bytes) :
    Except BootstrapError (RocksDbStore × TrustedCheckpointMetadata) := do
  let done ← Storage.bootstrapFromExternalSnapshot env checkpoints records store.view snapshotBytes
    tailBlockBytes chainId
  let db := { store.db with
    blocks := done.store.blocks
    checkpoints := store.db.checkpoints.insert done.metadata.height done.checkpoint
    snapshotBaseHeight := some done.metadata.height
    snapshotBaseHash := some done.metadata.tipHash
    tipHeight := some done.tipHeight }
  return ({ store with db, chain := done.store.chain }, done.metadata)

def Restarts (env : Env) (checkpoints : CheckpointFormat) (records : RecordFormat) (db : Database)
    (other : BlockHash) (genesis : StateStore) (params : ReplayParams) (height : Nat) : Prop :=
  ∃ state, Recovers env checkpoints records db other genesis params height state

def TailExecutes (env : Env) (anchor : BlockHash) (genesis : StateStore) (params : ReplayParams)
    (metadata : TrustedCheckpointMetadata) (state : StateStore) (tail : List StoredBlock) : Prop :=
  if metadata.height = 0 then
    tail = [] ∨ metadata.tipHash = anchor ∧
      ∃ result, replayBlocksFromState env genesis anchor tail params = .ok result
  else metadata.height < u64Max ∧
    ∃ result, replayBlocksFromState env state metadata.tipHash tail params = .ok result

variable {env : Env} {checkpoints : CheckpointFormat} {records : RecordFormat}

section Tail

variable {base : Nat} {parent : BlockHash} {taken next : ChainStore × List StoredBlock} {bytes : Bytes}
variable {stored : StoredBlock}

theorem decodeBlockBytes_inRange (decoded : decodeBlockBytes env records bytes = .ok stored) :
    ∀ tx ∈ stored.includedTransactions, tx.InRange := by
  simp only [decodeBlockBytes, bind_eq_ok] at decoded
  obtain ⟨record, _, converted⟩ := decoded
  obtain ⟨_, reads, _⟩ := recordIntoStoredBlock_eq_ok.mp converted
  intro tx member
  obtain ⟨body, _, read⟩ := exists_of_forall₂ reads.flip member
  exact decodeTx_inRange read.2

structure Taken (env : Env) (base : Nat) (parent : BlockHash) (taken : ChainStore × List StoredBlock) :
    Prop where
  holds : Holds taken.1 base taken.2
  anchored : taken.1.anchorPrevHash = parent
  structured : verifyStoredBlocksStructure env (base + 1) parent taken.2 = .ok ()
  listed : ∀ stored ∈ taken.2, taken.1.byHash.contains stored.metadata.blockHash = true
  distinct : (taken.2.map fun stored => stored.metadata.blockHash).Nodup
  range : ∀ stored ∈ taken.2, ∀ tx ∈ stored.includedTransactions, tx.InRange
  room : base + taken.2.length ≤ u64Max

theorem newWithBase_taken (below : base < u64Max) : Taken env base parent (.newWithBase parent base, []) where
  holds := newWithBase_holds parent base
  anchored := rfl
  structured := rfl
  listed _ member := absurd member List.not_mem_nil
  distinct := List.nodup_nil
  range _ member := absurd member List.not_mem_nil
  room := below.le

theorem Taken.next_lt (taken' : Taken env base parent taken) (below : base < u64Max)
    (fits : FitsOn env taken.1 stored) : base + taken.2.length < u64Max := by
  by_contra full
  have height : taken.1.height = u64Max := by
    have := taken'.room
    rw [taken'.holds.height]
    omega
  have known := taken'.holds.known height.le
  cases top : taken.1.tip with
  | none =>
      have := ChainStore.height_of_tipless top
      rw [taken'.holds.based] at this
      omega
  | some tip =>
      have placed := (known.placed tip top).2
      have own : taken.1.height = tip.metadata.height := by
        rw [ChainStore.height, top]
        rfl
      have same : stored.block.header.height = tip.metadata.height := by
        rw [fits.next, ← own, height]
        rfl
      have fresh := fits.freshHeight
      rw [same, Std.ExtTreeMap.contains_eq_isSome_getElem?, placed] at fresh
      cases fresh

theorem Taken.step {policy : Option CommitQuorumPolicy} (before : Taken env base parent taken)
    (below : base < u64Max) (ran : takeTailBlock env records policy taken bytes = .ok next) :
    Taken env base parent next := by
  simp only [takeTailBlock, bind_eq_ok, mapError_eq_ok, pure_eq_ok] at ran
  obtain ⟨stored, decoded, _, _, trial, appended, rfl⟩ := ran
  simp only [ChainStore.appendStoredBlock, bind_eq_ok, validateStoredBlock_eq_ok, pure_eq_ok] at appended
  obtain ⟨_, ⟨formed, fits⟩, rfl⟩ := appended
  have lower := before.next_lt below fits
  have height : stored.block.header.height = base + 1 + taken.2.length := by
    rw [fits.next, before.holds.height, satAdd64]
    omega
  have fresh : taken.1.byHash.contains stored.metadata.blockHash = false := formed.hashed ▸ fits.freshHash
  constructor
  · exact before.holds.linkBlock formed fits (by rw [formed.height, height]; omega)
  · exact before.anchored
  · refine verifyStoredBlocksStructure_concat.mpr ⟨before.structured, verifyStoredBlock_eq_ok.mpr
      ⟨height, ?_, formed⟩⟩
    rw [fits.parent, before.holds.parent, before.anchored]
  · intro other member
    simp only [ChainStore.linkBlock, Std.ExtTreeMap.contains_insert, Bool.or_eq_true, beq_iff_eq,
      compare_eq_iff_eq]
    rcases List.mem_append.mp member with earlier | only
    · exact .inr (before.listed other earlier)
    · rw [List.mem_singleton.mp only]
      exact .inl rfl
  · rw [List.map_append, List.map_singleton, List.nodup_append]
    refine ⟨before.distinct, List.nodup_singleton _, ?_⟩
    rintro _ earlier _ only rfl
    obtain ⟨other, member, same⟩ := List.mem_map.mp earlier
    have held := before.listed other member
    rw [same, List.mem_singleton.mp only, fresh] at held
    cases held
  · intro other member
    rcases List.mem_append.mp member with earlier | only
    · exact before.range other earlier
    · rw [List.mem_singleton.mp only]
      exact decodeBlockBytes_inRange decoded
  · rw [List.length_append, List.length_singleton]
    omega

theorem takeTail_taken {policy : Option CommitQuorumPolicy} {tailBytes : List Bytes}
    (below : base < u64Max)
    (ran : tailBytes.foldlM (takeTailBlock env records policy) (.newWithBase parent base, []) = .ok taken) :
    Taken env base parent taken :=
  foldlM_invariant (Taken env base parent) tailBytes _ taken (newWithBase_taken below)
    (fun _ _ _ _ before stepped => before.step below stepped) ran

theorem takeTail_decoded {policy : Option CommitQuorumPolicy} {tailBytes : List Bytes}
    {chain : ChainStore} {done tail : List StoredBlock}
    (decoded : List.Forall₂ (fun bytes stored => decodeBlockBytes env records bytes = .ok stored)
      tailBytes tail)
    (ran : tailBytes.foldlM (takeTailBlock env records policy) (chain, done) = .ok taken) :
    taken.2 = done ++ tail := by
  induction decoded generalizing chain done with
  | nil =>
      rw [List.foldlM_nil, pure_eq_ok] at ran
      rw [← ran, List.append_nil]
  | @cons bytes stored _ tail read _ ih =>
      simp only [List.foldlM_cons, bind_eq_ok, takeTailBlock, mapError_eq_ok, pure_eq_ok] at ran
      obtain ⟨_, ⟨other, again, _, _, trial, _, rfl⟩, rest⟩ := ran
      obtain rfl := Except.ok.inj (read.symm.trans again)
      rw [ih rest, List.append_assoc, List.singleton_append]

theorem persist_written {blocks : List StoredBlock} {held written : Std.ExtTreeMap Nat Bytes} {db : Database}
    (structured : verifyStoredBlocksStructure env (base + 1) parent blocks = .ok ())
    (ran : blocks.foldlM (persistBlock env records) held = .ok written) (batch : db.blocks = written) :
    WrittenFrom env records db (base + 1) blocks := by
  induction blocks using List.reverseRecOn generalizing written db with
  | nil =>
      intro index stored found
      simp at found
  | append_singleton front last ih =>
      obtain ⟨before, linked⟩ := verifyStoredBlocksStructure_concat.mp structured
      obtain ⟨place, _, formed⟩ := verifyStoredBlock_eq_ok.mp linked
      simp only [List.foldlM_append, List.foldlM_cons, List.foldlM_nil, bind_eq_ok, persistBlock,
        mapError_eq_ok, pure_eq_ok] at ran
      obtain ⟨earlier, first, _, ⟨bytes, encoded, rfl⟩, rfl⟩ := ran
      have front := @ih earlier { db with blocks := earlier } before first rfl
      exact front.concat encoded (by rw [batch, formed.height, place])

end Tail

section Reading

variable {db : Database} {base : Nat} {rest : List StoredBlock} {stored other : StoredBlock} {bytes : Bytes}

theorem readStoredBlockFromDb_same (faithful : records.Faithful) (cbor : FaithfulCbor env)
    (range : ∀ tx ∈ stored.includedTransactions, tx.InRange)
    (encoded : encodeStoredBlockBytes env records stored = .ok bytes) {height : Nat}
    (found : db.blocks[height]? = some bytes)
    (read : db.readStoredBlockFromDb env records height = .ok (some other)) :
    other = stored ∧ BodiesKept env stored := by
  refine (decodeBlockBytes_encoded faithful cbor range encoded).mp ?_
  simp only [Database.readStoredBlockFromDb, found, bind_eq_ok, pure_eq_ok, Option.some.injEq] at read
  obtain ⟨record, decoded, _, converted, rfl⟩ := read
  simp only [decodeBlockBytes, bind_eq_ok]
  exact ⟨record, decoded, recordIntoStoredBlock_eq_ok.mpr (recordIntoStoredBlock_eq_ok.mp converted)⟩

theorem loaded_kept (faithful : records.Faithful) (cbor : FaithfulCbor env) {start last : ChainStore}
    (range : ∀ stored ∈ rest, ∀ tx ∈ stored.includedTransactions, tx.InRange)
    (written : WrittenFrom env records db (base + 1) rest)
    (loaded : (Database.heights (base + 1) (base + rest.length)).foldlM (db.loadBlock env records) start =
      .ok last) :
    ∀ stored ∈ rest, BodiesKept env stored := by
  intro stored member
  obtain ⟨index, listed⟩ := List.mem_iff_getElem?.mp member
  obtain ⟨bytes, encoded, placed⟩ := written index stored listed
  have inside := (List.getElem?_eq_some_iff.mp listed).1
  obtain ⟨before, after, step⟩ := foldlM_step_ok loaded (base + 1 + index)
    (Database.mem_heights.mpr ⟨by omega, by omega⟩)
  obtain ⟨other, read, _⟩ := Database.loadBlock_eq_ok.mp step
  exact (readStoredBlockFromDb_same faithful cbor (range stored member) encoded placed read).2

theorem openInternal_based {anchor : BlockHash} {store : RocksDbStore}
    (opened : openInternal env checkpoints records db anchor = .ok store) :
    ∀ pair ∈ db.snapshotBase, pair.1 < u64Max := by
  simp only [openInternal, Database.nextHeight, bind_eq_ok, require_eq_ok, decide_eq_true_eq,
    exists_const] at opened
  obtain ⟨_, ⟨room, _⟩, _⟩ := opened
  intro pair based
  have same : Database.snapshotBase { db with genesisAnchor := some (db.genesisAnchor.getD anchor) } =
      some pair := based
  rw [same] at room
  exact room

end Reading

section Snapshot

variable {chainId snapshotBytes : Bytes} {metadata : TrustedCheckpointMetadata} {state : StateStore}

theorem readSnapshot_record
    (read : readSnapshot env checkpoints snapshotBytes chainId = .ok (metadata, state)) :
    ∃ record, checkpoints.read snapshotBytes = some record ∧ record.version = stateFormatVersion ∧
      record.metadata = metadata ∧ verifiedState env record chainId = some state ∧
      state.blockHeight = metadata.height := by
  simp only [readSnapshot, checkStateFormatVersion, bind_eq_ok, okOr_eq_ok, mapError_eq_ok,
    require_eq_ok, decide_eq_true_eq, exists_const, pure_eq_ok, Prod.mk.injEq] at read
  obtain ⟨record, decoded, ⟨least, most⟩, restored, converted, height, root, rfl, rfl⟩ := read
  refine ⟨record, decoded, Nat.le_antisymm most least, rfl, ?_, height⟩
  simp only [verifiedState, converted, Except.toOption]
  simp [Option.filter, height, root]

theorem snapshot_found (read : readSnapshot env checkpoints snapshotBytes chainId = .ok (metadata, state))
    (positive : metadata.height ≠ 0) :
    findLatestCheckpointPair checkpoints [(metadata.height, snapshotBytes)] =
        .ok (some (metadata.height, metadata.tipHash)) ∧
      findLatestCheckpointWithState env checkpoints chainId [(metadata.height, snapshotBytes)] =
        .ok (some (metadata, state)) := by
  obtain ⟨record, decoded, version, rfl, verified, _⟩ := readSnapshot_record read
  constructor
  · simp only [findLatestCheckpointPair, decoded, version, lt_irrefl, if_false, if_neg positive]
  · simp only [findLatestCheckpointWithState, decoded, version, checkStateFormatVersion_current, verified,
      if_neg positive]
    rfl

theorem snapshot_skipped (read : readSnapshot env checkpoints snapshotBytes chainId = .ok (metadata, state))
    (zero : metadata.height = 0) :
    findLatestCheckpointPair checkpoints [(metadata.height, snapshotBytes)] = .ok none ∧
      findLatestCheckpointWithState env checkpoints chainId [(metadata.height, snapshotBytes)] =
        .ok none := by
  obtain ⟨record, decoded, version, rfl, _, _⟩ := readSnapshot_record read
  constructor
  · simp only [findLatestCheckpointPair, decoded, version, lt_irrefl, if_false, if_pos zero]
  · simp only [findLatestCheckpointWithState, decoded, version, checkStateFormatVersion_current,
      if_pos zero]
    rfl

end Snapshot

section ColdStart

variable {anchor other : BlockHash} {chainId snapshotBytes : Bytes} {tailBytes : List Bytes}
variable {metadata : TrustedCheckpointMetadata} {state genesis : StateStore} {params : ReplayParams}
variable {tail : List StoredBlock} {store next : RocksDbStore}

structure ColdStart (env : Env) (checkpoints : CheckpointFormat) (records : RecordFormat)
    (anchor : BlockHash) (chainId snapshotBytes : Bytes) (metadata : TrustedCheckpointMetadata)
    (state : StateStore) (tail : List StoredBlock) (next : RocksDbStore) : Prop where
  read : readSnapshot env checkpoints snapshotBytes chainId = .ok (metadata, state)
  below : metadata.height < u64Max
  entries : next.db.checkpointsNewestFirst = [(metadata.height, snapshotBytes)]
  anchored : next.db.genesisAnchor = some anchor
  based : next.db.snapshotBaseHeight = some metadata.height
  tip : next.db.tipHeight = some (metadata.height + tail.length)
  taken : Taken env metadata.height metadata.tipHash (next.chain, tail)
  written : WrittenFrom env records next.db (metadata.height + 1) tail

theorem coldStart_of_bootstrap
    (bootstrapped : (RocksDbStore.fresh anchor).bootstrapFromExternalSnapshot env checkpoints records
      snapshotBytes tailBytes chainId = .ok (next, metadata))
    (read : readSnapshot env checkpoints snapshotBytes chainId = .ok (metadata, state))
    (decoded : List.Forall₂ (fun bytes stored => decodeBlockBytes env records bytes = .ok stored)
      tailBytes tail)
    (below : metadata.height < u64Max) :
    ColdStart env checkpoints records anchor chainId snapshotBytes metadata state tail next := by
  simp only [RocksDbStore.bootstrapFromExternalSnapshot, bootstrapFromExternalSnapshot, bind_eq_ok,
    require_eq_ok, mapError_eq_ok, pure_eq_ok, exists_const, Prod.exists, Prod.mk.injEq] at bootstrapped
  obtain ⟨_, ⟨_, other, again, reread, policy, _, chain, taken, ran, blocks, persisted, rfl⟩, rfl, rfl⟩ :=
    bootstrapped
  obtain ⟨_, rfl⟩ := Prod.mk.inj (Except.ok.inj (read.symm.trans reread))
  obtain rfl : taken = tail := takeTail_decoded decoded ran
  have took := takeTail_taken below ran
  refine ⟨read, below, ?_, rfl, rfl, ?_, took, persist_written took.structured persisted rfl⟩
  · simp [Database.checkpointsNewestFirst, RocksDbStore.fresh, toList_insert_above]
  · cases taken with
    | nil => rfl
    | cons first rest => exact congrArg some took.holds.height

namespace ColdStart

variable (cold : ColdStart env checkpoints records anchor chainId snapshotBytes metadata state tail next)

include cold

theorem loaded {parent : BlockHash} (nonempty : tail ≠ [])
    (base : next.db.memoryBase checkpoints anchor = .ok (parent, metadata.height))
    (opened : openInternal env checkpoints records next.db other = .ok store) :
    ∃ last, (Database.heights (metadata.height + 1) (metadata.height + tail.length)).foldlM
      (next.db.loadBlock env records) (.newWithBase parent metadata.height) = .ok last := by
  have positive := List.length_pos_iff.mpr nonempty
  obtain ⟨_, chain, loads, _⟩ := (openInternal_eq_ok cold.anchored cold.tip (by omega) other).mp opened
  obtain ⟨_, _, again, _, loaded, _⟩ := Database.loadTail_eq_ok.mp loads
  obtain ⟨rfl, rfl⟩ := Prod.mk.inj (Except.ok.inj (base.symm.trans again))
  exact ⟨chain, loaded⟩

theorem kept (faithful : records.Faithful) (cbor : FaithfulCbor env) {parent : BlockHash}
    (base : next.db.memoryBase checkpoints anchor = .ok (parent, metadata.height))
    (opened : openInternal env checkpoints records next.db other = .ok store) :
    ∀ stored ∈ tail, BodiesKept env stored := by
  intro stored member
  obtain ⟨_, loaded⟩ := cold.loaded (List.ne_nil_of_mem member) base opened
  exact loaded_kept faithful cbor cold.taken.range cold.written loaded stored member

theorem onParent (faithful : records.Faithful) (cbor : FaithfulCbor env) {parent : BlockHash}
    (nonempty : tail ≠ [])
    (base : next.db.memoryBase checkpoints anchor = .ok (parent, metadata.height))
    (opened : openInternal env checkpoints records next.db other = .ok store) :
    metadata.tipHash = parent := by
  obtain ⟨_, loaded⟩ := cold.loaded nonempty base opened
  cases tail with
  | nil => exact absurd rfl nonempty
  | cons first rest =>
      have structured := cold.taken.structured
      simp only [verifyStoredBlocksStructure, bind_eq_ok] at structured
      obtain ⟨_, checked, _⟩ := structured
      obtain ⟨bytes, encoded, placed⟩ := cold.written 0 first rfl
      rw [List.length_cons, Database.heights_cons (by omega), List.foldlM_cons, bind_eq_ok] at loaded
      obtain ⟨_, step, _⟩ := loaded
      obtain ⟨other, read, appended⟩ := Database.loadBlock_eq_ok.mp step
      obtain ⟨rfl, _⟩ := readStoredBlockFromDb_same faithful cbor
        (cold.taken.range first List.mem_cons_self) encoded placed read
      simp only [ChainStore.appendStoredBlock, bind_eq_ok, validateStoredBlock_eq_ok] at appended
      obtain ⟨_, ⟨_, fits⟩, _⟩ := appended
      exact (verifyStoredBlock_eq_ok.mp checked).2.1.symm.trans fits.parent

theorem opens (faithful : records.Faithful) {parent : BlockHash}
    (base : next.db.memoryBase checkpoints anchor = .ok (parent, metadata.height))
    (positive : 0 < metadata.height + tail.length) (same : metadata.tipHash = parent)
    (kept : ∀ stored ∈ tail, BodiesKept env stored) (other : BlockHash) :
    ∃ chain, openInternal env checkpoints records next.db other = .ok ⟨next.db, chain, anchor⟩ ∧
      Holds chain metadata.height tail ∧ chain.anchorPrevHash = parent := by
  subst same
  refine opens_onBase faithful cold.anchored ?_ cold.tip positive base cold.taken.structured cold.written
    kept cold.taken.distinct cold.below cold.taken.room other
  intro pair based
  rw [Database.snapshotBase, cold.based] at based
  cases hash : next.db.snapshotBaseHash with
  | none => simp [hash] at based
  | some hash' =>
      simp only [hash, Option.mem_def, Option.ite_none_right_eq_some, Option.some.injEq] at based
      rw [← based.2]
      exact cold.below

theorem restarts_above (same : genesis.chainId = chainId) (faithful : records.Faithful)
    (cbor : FaithfulCbor env) (positive : metadata.height ≠ 0) (other : BlockHash) :
    Restarts env checkpoints records next.db other genesis params next.chain.height ↔
      ∃ result, replayBlocksFromState env state metadata.tipHash tail params = .ok result := by
  subst same
  obtain ⟨pair, found⟩ := snapshot_found cold.read positive
  rw [← cold.entries] at pair found
  have base : next.db.memoryBase checkpoints anchor = .ok (metadata.tipHash, metadata.height) := by
    rw [Database.memoryBase, pair]
    rfl
  have recover : ∀ chain, Holds chain metadata.height tail →
      (RocksDbStore.mk next.db chain anchor).recoverTipWithCheckpoint env checkpoints records genesis params =
        (replayBlocksFromState env state metadata.tipHash tail params).mapError .replay := by
    intro chain holds
    exact @recoverTipWithCheckpoint_some env checkpoints records genesis params tail metadata.height
      ⟨next.db, chain, anchor⟩ _ _ holds rfl cold.taken.structured found
  constructor
  · rintro ⟨final, store, recovered, opened, tip, _, _⟩
    have kept := cold.kept faithful cbor base opened
    obtain ⟨chain, again, holds, _⟩ := cold.opens faithful base (by omega) rfl kept other
    obtain rfl := Except.ok.inj (again.symm.trans opened)
    rw [recover chain holds, mapError_eq_ok] at tip
    exact ⟨recovered, tip⟩
  · rintro ⟨result, ran⟩
    have kept := replayed_kept cbor cold.taken.range ran
    obtain ⟨chain, opened, holds, _⟩ := cold.opens faithful base (by omega) rfl kept other
    refine ⟨result.state, _, result, opened, by rw [recover chain holds, ran]; rfl, ?_, rfl⟩
    obtain ⟨_, _, _, _, _, height⟩ := readSnapshot_record cold.read
    have paused := replay_paused ran
    rw [cold.taken.holds.height, paused.resumed, ← height]
    exact paused.blockHeight

theorem restarts_zero (same : genesis.chainId = chainId) (started : genesis.blockHeight = 0)
    (faithful : records.Faithful) (cbor : FaithfulCbor env) (zero : metadata.height = 0)
    (other : BlockHash) :
    Restarts env checkpoints records next.db other genesis params next.chain.height ↔
      tail = [] ∨ metadata.tipHash = anchor ∧
        ∃ result, replayBlocksFromState env genesis anchor tail params = .ok result := by
  subst same
  obtain ⟨pair, unverified⟩ := snapshot_skipped cold.read zero
  rw [← cold.entries] at pair unverified
  have disk : OnDisk env records anchor next.db tail := by
    refine ⟨cold.anchored, by rw [cold.based]; exact zero, by rw [cold.tip, zero, Nat.zero_add]; rfl, ?_⟩
    have written := cold.written
    rwa [zero] at written
  have base : next.db.memoryBase checkpoints anchor = .ok (anchor, metadata.height) := by
    rw [disk.memoryBase pair, zero]
    rfl
  have height : next.chain.height = tail.length := by
    rw [cold.taken.holds.height, zero, Nat.zero_add]
  have recover : ∀ chain, Holds chain metadata.height tail → chain.anchorPrevHash = anchor →
      verifyStoredBlocksStructure env 1 anchor tail = .ok () → (∀ stored ∈ tail, BodiesKept env stored) →
      (RocksDbStore.mk next.db chain anchor).recoverTipWithCheckpoint env checkpoints records genesis params =
        (replayBlocksFromState env genesis anchor tail params).mapError .replay := by
    intro chain holds anchored structured kept
    rw [zero] at holds
    rw [@recoverTipWithCheckpoint_none env checkpoints records genesis params ⟨next.db, chain, anchor⟩ unverified]
    exact disk.recoverTip faithful structured kept holds (.inl rfl) anchored
  by_cases empty : tail = []
  · subst empty
    refine iff_of_true ?_ (.inl rfl)
    obtain ⟨chain, opened, holds, anchored⟩ := disk.opens faithful
      ⟨rfl, by simp, List.nodup_nil, by decide⟩ le_rfl (zero ▸ base) other
    refine ⟨_, _, _, opened, recover chain (by rw [zero]; exact holds) anchored rfl (by simp), ?_, rfl⟩
    rw [height]
    exact started
  · have some := List.length_pos_iff.mpr empty
    have structured := cold.taken.structured
    rw [zero, Nat.zero_add] at structured
    rw [or_iff_right empty]
    constructor
    · rintro ⟨final, store, recovered, opened, tip, _, _⟩
      have kept := cold.kept faithful cbor base opened
      have parent := cold.onParent faithful cbor empty base opened
      obtain ⟨chain, again, holds, anchored⟩ := cold.opens faithful base (by omega) parent kept other
      obtain rfl := Except.ok.inj (again.symm.trans opened)
      rw [parent] at structured
      rw [recover chain holds anchored structured kept, mapError_eq_ok] at tip
      exact ⟨parent, recovered, tip⟩
    · rintro ⟨parent, result, ran⟩
      have kept := replayed_kept cbor cold.taken.range ran
      obtain ⟨chain, opened, holds, anchored⟩ := cold.opens faithful base (by omega) parent kept other
      rw [parent] at structured
      refine ⟨result.state, _, result, opened,
        by rw [recover chain holds anchored structured kept, ran]; rfl, ?_, rfl⟩
      have paused := replay_paused ran
      rw [height, paused.resumed]
      exact paused.blockHeight.trans (by rw [started, Nat.zero_add])

end ColdStart

end ColdStart

/-- A node that was started cold can be restarted exactly if the blocks it took execute, on the
snapshot or, when that is at height 0, on genesis. -/
theorem bootstrapped_restarts_iff (env : Env) (cbor : FaithfulCbor env) (checkpoints : CheckpointFormat)
    (records : RecordFormat) (faithful : records.Faithful) (anchor other : BlockHash)
    (genesis : StateStore) (started : genesis.blockHeight = 0) (params : ReplayParams)
    (snapshotBytes : Bytes) (tailBytes : List Bytes) (metadata : TrustedCheckpointMetadata)
    (state : StateStore) (tail : List StoredBlock) (next : RocksDbStore)
    (bootstrapped : (RocksDbStore.fresh anchor).bootstrapFromExternalSnapshot env checkpoints records
      snapshotBytes tailBytes genesis.chainId = .ok (next, metadata))
    (read : readSnapshot env checkpoints snapshotBytes genesis.chainId = .ok (metadata, state))
    (decoded : List.Forall₂ (fun bytes stored => decodeBlockBytes env records bytes = .ok stored)
      tailBytes tail) :
    Restarts env checkpoints records next.db other genesis params next.chain.height ↔
      TailExecutes env anchor genesis params metadata state tail := by
  by_cases below : metadata.height < u64Max
  · have cold := coldStart_of_bootstrap bootstrapped read decoded below
    rw [TailExecutes]
    split
    · next zero => exact cold.restarts_zero rfl started faithful cbor zero other
    · next positive =>
        rw [and_iff_right below]
        exact cold.restarts_above rfl faithful cbor positive other
  · have positive : metadata.height ≠ 0 := fun zero => below (zero ▸ by decide)
    rw [TailExecutes, if_neg positive]
    refine iff_of_false ?_ (fun executes => below executes.1)
    rintro ⟨final, store, recovered, opened, _⟩
    refine below (openInternal_based opened (metadata.height, metadata.tipHash) ?_)
    simp only [RocksDbStore.bootstrapFromExternalSnapshot, bind_eq_ok, pure_eq_ok, Prod.mk.injEq] at bootstrapped
    obtain ⟨done, _, rfl, rfl⟩ := bootstrapped
    exact if_pos (Nat.pos_of_ne_zero positive)

section Sample

def madeUp : StateStore := { StateStore.new sampleEnv with blockHeight := 1 }

def madeUpRestored : StateStore := restored sampleEnv madeUp

def madeUpBlock (root : BlockHash) : StoredBlock :=
  peerBlock sampleEnv (draftHeader sampleEnv madeUpRestored (Bytes32.fill 0) [] []) root [] []

theorem madeUpBlock_root {root : BlockHash} {params : ReplayParams} {result : ReplayResult}
    (ran : replayBlocksFromState sampleEnv madeUpRestored (Bytes32.fill 0) [madeUpBlock root] params =
      .ok result) :
    (emptyOn sampleEnv madeUpRestored (Bytes32.fill 0) params).metadata.stateRoot = root := by
  have block := (replayBlocksFromState_singleton.mp ran).2
  simp only [replayBlock, bind_eq_ok, require_eq_ok, decide_eq_true_eq, exists_const] at block
  obtain ⟨progress, executed, _, same, _⟩ := block
  obtain rfl : progress = { state := madeUpRestored } := (Except.ok.inj executed).symm
  rw [emptyOn, peerBlock_stateRoot]
  exact same

theorem exists_bootstrapped (root anchor : BlockHash) :
    ∃ checkpoints : CheckpointFormat, ∃ records : RecordFormat, ∃ next : RocksDbStore,
      ∃ metadata : TrustedCheckpointMetadata, records.Faithful ∧
      metadata.height = 1 ∧ metadata.tipHash = Bytes32.fill 0 ∧
      readSnapshot sampleEnv checkpoints [0] sampleGenesis.chainId = .ok (metadata, madeUpRestored) ∧
      decodeBlockBytes sampleEnv records [0] = .ok (madeUpBlock root) ∧
      (RocksDbStore.fresh anchor).bootstrapFromExternalSnapshot sampleEnv checkpoints records [0] [[0]]
        sampleGenesis.chainId = .ok (next, metadata) := by
  let metadata : TrustedCheckpointMetadata := ⟨1, Bytes32.fill 0, madeUpRestored.stateRoot sampleEnv⟩
  let record : TrustedCheckpointRecord := ⟨stateFormatVersion, metadata, stateIntoRecord madeUp⟩
  let checkpoints : CheckpointFormat := ⟨fun _ => none, fun _ => some record⟩
  let first := madeUpBlock root
  let records := tableFormat [bareRecord first]
  have restored : recordIntoState sampleEnv record.state sampleGenesis.chainId = .ok madeUpRestored :=
    (recordIntoState_eq_ok sampleEnv madeUp madeUpRestored).mpr
      ⟨⟨sampleGenesis_representable.registry, sampleGenesis_representable.proposals⟩, rfl⟩
  have read : readSnapshot sampleEnv checkpoints [0] sampleGenesis.chainId = .ok (metadata, madeUpRestored) := by
    simp only [readSnapshot, bind_eq_ok, okOr_eq_ok, mapError_eq_ok, require_eq_ok, decide_eq_true_eq,
      exists_const, pure_eq_ok]
    exact ⟨record, rfl, (), checkStateFormatVersion_current, _, restored, rfl, rfl, rfl⟩
  have encoded : encodeStoredBlockBytes sampleEnv records first = .ok [0] := bareRecord_encoded rfl []
  have decoded : decodeBlockBytes sampleEnv records [0] = .ok first :=
    (decodeBlockBytes_encoded (tableFormat_faithful _) sampleEnv_faithful
      (fun tx member => absurd member List.not_mem_nil) encoded).mpr
      ⟨rfl, rfl, fun item member => absurd member List.not_mem_nil⟩
  have appended : (ChainStore.newWithBase (Bytes32.fill 0) 1).appendStoredBlock sampleEnv first =
      .ok ((ChainStore.newWithBase (Bytes32.fill 0) 1).linkBlock first) :=
    appendStoredBlock_of_valid (validateStoredBlock_eq_ok.mpr ⟨peerBlock_wellFormed rfl,
      Std.ExtTreeMap.contains_empty, Std.ExtTreeMap.contains_empty, rfl, rfl⟩)
  have unguarded : CommitQuorumPolicy.fromStateStore sampleEnv madeUpRestored none = .ok none := rfl
  have took : takeTailBlock sampleEnv records none (.newWithBase (Bytes32.fill 0) 1, []) [0] =
      .ok ((ChainStore.newWithBase (Bytes32.fill 0) 1).linkBlock first, [first]) := by
    simp only [takeTailBlock, bind_eq_ok, mapError_eq_ok, pure_eq_ok]
    exact ⟨first, decoded, (), rfl, _, appended, rfl⟩
  have ran : [[0]].foldlM (takeTailBlock sampleEnv records none) (.newWithBase (Bytes32.fill 0) 1, []) =
      .ok ((ChainStore.newWithBase (Bytes32.fill 0) 1).linkBlock first, [first]) := by
    rw [List.foldlM_cons, took]
    rfl
  have persisted : [first].foldlM (persistBlock sampleEnv records) (RocksDbStore.fresh anchor).view.blocks =
      .ok ((∅ : Std.ExtTreeMap Nat Bytes).insert first.metadata.height [0]) := by
    rw [List.foldlM_cons, persistBlock, encoded]
    rfl
  refine ⟨checkpoints, records, ?_⟩
  simp only [RocksDbStore.bootstrapFromExternalSnapshot, bootstrapFromExternalSnapshot, bind_eq_ok,
    require_eq_ok, mapError_eq_ok, pure_eq_ok, decide_eq_true_eq, exists_const, Prod.exists, Prod.mk.injEq]
  exact ⟨_, metadata, tableFormat_faithful _, rfl, rfl, read, decoded, _, ⟨rfl, metadata, madeUpRestored, read,
    none, unguarded, _, _, ran, _, persisted, rfl⟩, rfl, rfl⟩

/-- A block with a wrong root is taken and written, and the node does not come up again. -/
theorem unexecutedTail_stopsRestart : ∃ checkpoints : CheckpointFormat, ∃ records : RecordFormat,
    ∃ next : RocksDbStore, ∃ metadata : TrustedCheckpointMetadata, records.Faithful ∧
      (RocksDbStore.fresh (Bytes32.fill 0)).bootstrapFromExternalSnapshot sampleEnv checkpoints records [0]
        [[0]] sampleGenesis.chainId = .ok (next, metadata) ∧
      ¬Restarts sampleEnv checkpoints records next.db (Bytes32.fill 0) sampleGenesis pricedParams
        next.chain.height := by
  have : Nontrivial BlockHash := ⟨Bytes32.fill 0, Bytes32.fill 1, by decide⟩
  obtain ⟨wrong, other⟩ := exists_ne
    (emptyOn sampleEnv madeUpRestored (Bytes32.fill 0) pricedParams).metadata.stateRoot
  obtain ⟨checkpoints, records, next, metadata, faithful, height, tipHash, read, decoded, bootstrapped⟩ :=
    exists_bootstrapped wrong (Bytes32.fill 0)
  refine ⟨checkpoints, records, next, metadata, faithful, bootstrapped, ?_⟩
  have cold := coldStart_of_bootstrap bootstrapped read (.cons decoded .nil) (by rw [height]; decide)
  rw [cold.restarts_above rfl faithful sampleEnv_faithful (by rw [height]; decide), tipHash]
  rintro ⟨result, ran⟩
  exact other (madeUpBlock_root ran).symm

theorem bootstrapped_restarts_iff_right : ∃ checkpoints : CheckpointFormat, ∃ records : RecordFormat,
    ∃ next : RocksDbStore, ∃ metadata : TrustedCheckpointMetadata,
      (RocksDbStore.fresh (Bytes32.fill 0)).bootstrapFromExternalSnapshot sampleEnv checkpoints records [0]
        [[0]] sampleGenesis.chainId = .ok (next, metadata) ∧
      Restarts sampleEnv checkpoints records next.db (Bytes32.fill 0) sampleGenesis pricedParams
        next.chain.height := by
  obtain ⟨checkpoints, records, next, metadata, faithful, height, tipHash, read, decoded, bootstrapped⟩ :=
    exists_bootstrapped (emptyOn sampleEnv madeUpRestored (Bytes32.fill 0) pricedParams).metadata.stateRoot
      (Bytes32.fill 0)
  refine ⟨checkpoints, records, next, metadata, bootstrapped, ?_⟩
  refine (bootstrapped_restarts_iff sampleEnv sampleEnv_faithful checkpoints records faithful
    (Bytes32.fill 0) (Bytes32.fill 0) sampleGenesis rfl pricedParams [0] [[0]] metadata madeUpRestored _ next
    bootstrapped read (.cons decoded .nil)).mpr ?_
  rw [TailExecutes, if_neg (by rw [height]; decide), height, tipHash]
  obtain ⟨result, ran, _⟩ := @emptyOn_replays sampleEnv madeUpRestored pricedParams (Bytes32.fill 0) (by decide)
  exact ⟨by decide, result, ran⟩

end Sample

end ViperChain.Storage
