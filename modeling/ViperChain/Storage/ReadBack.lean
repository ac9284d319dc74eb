import ViperChain.Engine.Agreement
import ViperChain.Storage.Database

/-!
A block that has been written can be read again when each of its bodies is listed under
the hash of its own encoding.
-/

namespace ViperChain.Storage

open Fallible

variable {env : Env} {checkpoints : CheckpointFormat} {records : RecordFormat}

section Reading

variable {db : Database} {stored restored : StoredBlock} {bytes : Bytes} {height : Nat}

theorem readStoredBlockFromDb_written (faithful : records.Faithful)
    (encoded : encodeStoredBlockBytes env records stored = .ok bytes)
    (found : db.blocks[height]? = some bytes) :
    db.readStoredBlockFromDb env records height = .ok (some stored) ↔ BodiesKept env stored := by
  simp only [encodeStoredBlockBytes, bind_eq_ok, okOr_eq_ok] at encoded
  obtain ⟨record, converted, written⟩ := encoded
  have read : decodeCborSlice records bytes = .ok record := by
    simp [decodeCborSlice, faithful.read_write record bytes written, okOr]
  simp only [Database.readStoredBlockFromDb, found, bind_eq_ok, pure_eq_ok, Option.some.injEq, read,
    Except.ok.injEq]
  constructor
  · rintro ⟨_, rfl, _, back, rfl⟩
    exact (recordIntoStoredBlock_written converted).mp back
  · intro kept
    exact ⟨record, rfl, stored, (recordIntoStoredBlock_written converted).mpr kept, rfl⟩

theorem Database.loadBlock_eq_ok {chain next : ChainStore} :
    db.loadBlock env records chain height = .ok next ↔
      ∃ stored, db.readStoredBlockFromDb env records height = .ok (some stored) ∧
        chain.appendStoredBlock env stored = .ok next := by
  simp only [Database.loadBlock, bind_eq_ok, mapError_eq_ok, okOr_eq_ok]
  constructor
  · rintro ⟨_, read, stored, rfl, appended⟩
    exact ⟨stored, read, appended⟩
  · rintro ⟨stored, read, appended⟩
    exact ⟨_, read, stored, rfl, appended⟩

theorem Database.loadTail_eq_ok {genesisAnchor : BlockHash} {tipHeight : Nat} {chain : ChainStore} :
    db.loadTail env checkpoints records genesisAnchor tipHeight = .ok chain ↔
      ∃ anchor base, db.memoryBase checkpoints genesisAnchor = .ok (anchor, base) ∧ base < u64Max ∧
        (heights (base + 1) tipHeight).foldlM (db.loadBlock env records) (.newWithBase anchor base) =
          .ok chain ∧ chain.height = tipHeight := by
  simp only [Database.loadTail, Database.nextHeight, bind_eq_ok, require_eq_ok, pure_eq_ok,
    decide_eq_true_eq, exists_const, Prod.exists]
  constructor
  · rintro ⟨anchor, base, based, _, ⟨room, rfl⟩, _, loaded, height, rfl⟩
    exact ⟨anchor, base, based, room, loaded, height⟩
  · rintro ⟨anchor, base, based, room, loaded, height⟩
    exact ⟨anchor, base, based, _, ⟨room, rfl⟩, _, loaded, height, rfl⟩

theorem Database.heights_succ {first last : Nat} (inside : first ≤ last + 1) :
    heights first (last + 1) = heights first last ++ [last + 1] := by
  have longer : last + 1 + 1 - first = (last + 1 - first) + 1 := by omega
  have ends : first + (last + 1 - first) = last + 1 := by omega
  rw [heights, heights, longer, List.range'_1_concat, ends]

theorem Database.mem_heights {first last : Nat} :
    height ∈ heights first last ↔ first ≤ height ∧ height ≤ last := by
  rw [heights, List.mem_range'_1]
  omega

end Reading

section Mirrors

structure Mirrors (opened chain : ChainStore) : Prop where
  height : opened.height = chain.height
  parent : opened.expectedPrevHash = chain.expectedPrevHash
  hashes : ∀ hash, opened.byHash.contains hash = true → chain.byHash.contains hash = true
  heights : ∀ height, opened.byHeight.contains height = true → chain.byHeight.contains height = true

variable {opened chain : ChainStore} {stored : StoredBlock}

theorem Mirrors.fitsOn (mirrors : Mirrors opened chain) (fits : FitsOn env chain stored) :
    FitsOn env opened stored where
  freshHash := by
    cases held : opened.byHash.contains (computeBlockHash env stored.block) with
    | false => rfl
    | true => exact (mirrors.hashes _ held).symm.trans fits.freshHash
  freshHeight := by
    cases held : opened.byHeight.contains stored.block.header.height with
    | false => rfl
    | true => exact (mirrors.heights _ held).symm.trans fits.freshHeight
  next := mirrors.height ▸ fits.next
  parent := mirrors.parent ▸ fits.parent

end Mirrors

section Store

variable {store next : RocksDbStore} {stored : StoredBlock}

theorem RocksDbStore.appendStoredBlock_eq_ok :
    store.appendStoredBlock env records stored = .ok next ↔
      (WellFormed env stored ∧ FitsOn env store.chain stored) ∧
      ∃ bytes, encodeStoredBlockBytes env records stored = .ok bytes ∧
        next = { store with
          chain := store.chain.linkBlock stored
          db := { store.db with
            blocks := store.db.blocks.insert stored.metadata.height bytes
            tipHeight := some stored.metadata.height } } := by
  simp only [RocksDbStore.appendStoredBlock, bind_eq_ok, mapError_eq_ok, pure_eq_ok,
    Storage.appendStoredBlock_eq_ok]
  constructor
  · rintro ⟨_, ⟨valid, bytes, written, rfl⟩, rfl⟩
    exact ⟨valid, bytes, written, rfl⟩
  · rintro ⟨valid, bytes, written, rfl⟩
    exact ⟨_, ⟨valid, bytes, written, rfl⟩, rfl⟩

theorem RocksDbStore.appendBlock_stored {execution : BlockExecutionResult}
    (appended : store.appendBlock env records execution = .ok next) :
    store.appendStoredBlock env records (storedBlock env execution) = .ok next := by
  simp only [RocksDbStore.appendBlock, ChainStore.appendBlock, ChainStore.appendStoredBlock, bind_eq_ok,
    mapError_eq_ok, okOr_eq_ok, pure_eq_ok] at appended
  obtain ⟨_, ⟨_, _, _, valid, rfl⟩, stored, tip, bytes, written, rfl⟩ := appended
  obtain rfl : stored = storedBlock env execution := by
    simpa [ChainStore.tip, ChainStore.linkBlock, eq_comm] using tip
  exact appendStoredBlock_eq_ok.mpr ⟨validateStoredBlock_eq_ok.mp valid, bytes, written, rfl⟩

structure Reopens (env : Env) (checkpoints : CheckpointFormat) (records : RecordFormat)
    (store : RocksDbStore) : Prop where
  anchored : store.db.genesisAnchor = some store.genesisAnchor
  based : ∀ base ∈ store.db.snapshotBase, base.1 < u64Max
  room : store.chain.height < u64Max
  loads : ∃ opened, store.db.loadTail env checkpoints records store.genesisAnchor store.chain.height =
    .ok opened ∧ Mirrors opened store.chain

theorem openInternal_eq_ok {db : Database} {genesisAnchor : BlockHash} {tipHeight : Nat}
    {opened : RocksDbStore} (anchored : db.genesisAnchor = some genesisAnchor)
    (tip : db.tipHeight = some tipHeight) (positive : 0 < tipHeight) (anchor : BlockHash) :
    openInternal env checkpoints records db anchor = .ok opened ↔
      (∀ base ∈ db.snapshotBase, base.1 < u64Max) ∧
        ∃ chain, db.loadTail env checkpoints records genesisAnchor tipHeight = .ok chain ∧
          opened = ⟨db, chain, genesisAnchor⟩ := by
  have started : ((db.snapshotBase.map Prod.swap).getD (genesisAnchor, 0)).2 < u64Max ↔
      ∀ base ∈ db.snapshotBase, base.1 < u64Max := by
    cases base : db.snapshotBase with
    | none => exact iff_of_true (show 0 < u64Max by decide) (by simp)
    | some pair => simp
  rw [← started]
  obtain ⟨blocks, entries, _, _, baseHeight, baseHash⟩ := db
  subst anchored tip
  simp only [openInternal, Option.getD_some, Database.nextHeight, bind_eq_ok, require_eq_ok, pure_eq_ok,
    decide_eq_true_eq, exists_const, if_neg (Nat.ne_of_gt positive)]
  constructor
  · rintro ⟨_, ⟨room, _⟩, chain, loaded, rfl⟩
    exact ⟨room, chain, loaded, rfl⟩
  · rintro ⟨room, chain, loaded, rfl⟩
    exact ⟨_, ⟨room, rfl⟩, chain, loaded, rfl⟩

theorem Reopens.loadTail_append (reopens : Reopens env checkpoints records store)
    (faithful : records.Faithful) (kept : BodiesKept env stored)
    (appended : store.appendStoredBlock env records stored = .ok next) :
    ∃ opened, next.db.loadTail env checkpoints records store.genesisAnchor next.chain.height =
      .ok (opened.linkBlock stored) ∧ Mirrors opened store.chain := by
  obtain ⟨opened, loads, mirrors⟩ := reopens.loads
  obtain ⟨anchor, base, based, room, loaded, height⟩ := Database.loadTail_eq_ok.mp loads
  obtain ⟨⟨formed, fits⟩, bytes, encoded, rfl⟩ := RocksDbStore.appendStoredBlock_eq_ok.mp appended
  have next : stored.metadata.height = store.chain.height + 1 := by
    rw [formed.height, fits.next, satAdd64, Nat.min_eq_left]
    have := reopens.room
    omega
  have below : base ≤ store.chain.height := by
    by_contra above
    have none : Database.heights (base + 1) store.chain.height = [] := by
      rw [Database.heights, List.range'_eq_nil_iff]
      omega
    rw [none, List.foldlM_nil, pure_eq_ok] at loaded
    rw [← loaded] at height
    exact above (by simpa [ChainStore.newWithBase, ChainStore.height, ChainStore.tip] using height.le)
  refine ⟨opened, Database.loadTail_eq_ok.mpr ⟨anchor, base, based, room, ?_, ?_⟩, mirrors⟩
  · rw [ChainStore.height_linkBlock, next, Database.heights_succ (by omega), List.foldlM_append, bind_eq_ok]
    refine ⟨opened, ?_, ?_⟩
    · refine (foldlM_congr ?_ _).trans loaded
      intro height member chain
      have other : stored.metadata.height ≠ height := by
        have := (Database.mem_heights.mp member).2
        omega
      simp [Database.loadBlock, Database.readStoredBlockFromDb, Std.ExtTreeMap.getElem?_insert,
        next ▸ other]
    · rw [List.foldlM_cons, bind_eq_ok]
      refine ⟨_, Database.loadBlock_eq_ok.mpr ⟨stored, ?_, ?_⟩, rfl⟩
      · refine (readStoredBlockFromDb_written faithful encoded ?_).mpr kept
        simp
      · rw [ChainStore.appendStoredBlock, bind_eq_ok]
        exact ⟨(), validateStoredBlock_eq_ok.mpr ⟨formed, mirrors.fitsOn fits⟩, rfl⟩
  · rw [ChainStore.height_linkBlock, ChainStore.height_linkBlock]

end Store

section Production

variable {config : AssemblyConfig}

theorem assembleEntry_taken (state : AssemblyState) (entry : PendingEntry) :
    ((assembleEntry env config state entry).includedTransactions = state.includedTransactions ∧
        (assembleEntry env config state entry).includedHashes = state.includedHashes) ∨
      ((assembleEntry env config state entry).includedTransactions =
          state.includedTransactions ++ [entry.tx] ∧
        (assembleEntry env config state entry).includedHashes =
          state.includedHashes ++ [entry.txHash]) := by
  simp only [assembleEntry]
  split
  · exact .inl ⟨rfl, rfl⟩
  · split
    · exact .inr ⟨rfl, rfl⟩
    · exact .inl ⟨rfl, rfl⟩

theorem assembleEntries_taken (entries : List PendingEntry) (state : AssemblyState) :
    ∃ taken : List PendingEntry, (∀ entry ∈ taken, entry ∈ entries) ∧
      (entries.foldl (assembleEntry env config) state).includedTransactions =
        state.includedTransactions ++ taken.map PendingEntry.tx ∧
      (entries.foldl (assembleEntry env config) state).includedHashes =
        state.includedHashes ++ taken.map PendingEntry.txHash := by
  induction entries generalizing state with
  | nil => exact ⟨[], by simp, by simp, by simp⟩
  | cons entry entries ih =>
      obtain ⟨taken, listed, bodies, hashes⟩ := ih (assembleEntry env config state entry)
      have later : ∀ other ∈ taken, other ∈ entry :: entries :=
        fun other member => List.mem_cons_of_mem _ (listed other member)
      rw [List.foldl_cons, bodies, hashes]
      rcases @assembleEntry_taken env config state entry with ⟨body, hash⟩ | ⟨body, hash⟩
      · rw [body, hash]
        exact ⟨taken, later, rfl, rfl⟩
      · refine ⟨entry :: taken, List.forall_mem_cons.mpr ⟨List.mem_cons_self, later⟩, ?_, ?_⟩
        · rw [body, List.map_cons, List.append_assoc, List.singleton_append]
        · rw [hash, List.map_cons, List.append_assoc, List.singleton_append]

theorem assembleBlock_taken {state : StateStore} {pool : Mempool} {context : AssemblyContext}
    {assembled : Assembled} (produced : assembleBlock env state pool context config = .ok assembled) :
    ∃ taken : List PendingEntry, (∀ entry ∈ taken, entry ∈ pool.allPending) ∧
      (storedBlock env assembled.result).includedTransactions = taken.map PendingEntry.tx ∧
      (storedBlock env assembled.result).block.txHashes = taken.map PendingEntry.txHash := by
  obtain ⟨_, proposer, _, rfl⟩ := assembleBlock_eq_ok.mp produced
  obtain ⟨taken, listed, bodies, hashes⟩ :=
    @assembleEntries_taken env config (pendingInOrder pool) { store := state, pool }
  exact ⟨taken, fun entry member => mem_pendingInOrder.mp (listed entry member), bodies, hashes⟩

def HashedAsListed (env : Env) (stored : StoredBlock) : Prop :=
  ∀ item ∈ stored.includedTransactions.zip stored.block.txHashes,
    ∃ raw, encodeTx env item.1 = .ok raw ∧ computeTxHash env raw = item.2

theorem bodiesKept_iff_hashed (cbor : FaithfulCbor env) {stored : StoredBlock}
    {taken : List PendingEntry} (admitted : ∀ entry ∈ taken, entry.Admitted env)
    (bodies : stored.includedTransactions = taken.map PendingEntry.tx)
    (hashes : stored.block.txHashes = taken.map PendingEntry.txHash) :
    BodiesKept env stored ↔ HashedAsListed env stored := by
  have range : ∀ item ∈ stored.includedTransactions.zip stored.block.txHashes, item.1.InRange := by
    intro item member
    have body := (List.of_mem_zip member).1
    rw [bodies] at body
    obtain ⟨entry, listed, same⟩ := List.mem_map.mp body
    rw [← same]
    exact decodeTx_inRange (admitted entry listed).decoded
  constructor
  · intro kept item member
    obtain ⟨raw, encoded, hashed, _⟩ := kept.hashed item member
    exact ⟨raw, encoded, hashed⟩
  · intro listed
    refine ⟨by rw [bodies, hashes, List.length_map, List.length_map], fun item member => ?_⟩
    obtain ⟨raw, encoded, hashed⟩ := listed item member
    exact ⟨raw, encoded, hashed, decodeTx_encodeTx cbor (range item member) encoded⟩

theorem hashedAsListed_of_canonical {stored : StoredBlock} {taken : List PendingEntry}
    (admitted : ∀ entry ∈ taken, entry.Admitted env)
    (canonical : ∀ entry ∈ taken, entry.Canonical env)
    (bodies : stored.includedTransactions = taken.map PendingEntry.tx)
    (hashes : stored.block.txHashes = taken.map PendingEntry.txHash) : HashedAsListed env stored := by
  intro item member
  rw [bodies, hashes, List.zip_map', List.mem_map] at member
  obtain ⟨entry, listed, rfl⟩ := member
  exact ⟨entry.rawBytes, canonical entry listed, (admitted entry listed).hashed.symm⟩

end Production

structure ReadsBack (env : Env) (checkpoints : CheckpointFormat) (records : RecordFormat)
    (store : RocksDbStore) (stored : StoredBlock) : Prop where
  read : store.readStoredBlockAtHeight env records stored.metadata.height = .ok (some stored)
  decoded : ∃ bytes, encodeStoredBlockBytes env records stored = .ok bytes ∧
    decodeBlockBytes env records bytes = .ok stored
  reopened : ∀ anchor, ∃ again, openInternal env checkpoints records store.db anchor = .ok again ∧
    again.chain.height = store.chain.height ∧ again.chain.tipHash = store.chain.tipHash

theorem Reopens.readsBack_iff {store next : RocksDbStore} {stored : StoredBlock}
    (reopens : Reopens env checkpoints records store) (faithful : records.Faithful)
    (appended : store.appendStoredBlock env records stored = .ok next) :
    ReadsBack env checkpoints records next stored ↔ BodiesKept env stored := by
  obtain ⟨⟨formed, fits⟩, bytes, encoded, written⟩ := RocksDbStore.appendStoredBlock_eq_ok.mp appended
  have decoded : decodeBlockBytes env records bytes = .ok stored ↔ BodiesKept env stored := by
    simp only [encodeStoredBlockBytes, bind_eq_ok, okOr_eq_ok] at encoded
    obtain ⟨record, converted, output⟩ := encoded
    have read : decodeBlockBytes env records bytes =
        recordIntoStoredBlock env record record.metadata.height := by
      simp [decodeBlockBytes, decodeCborSlice, faithful.read_write record bytes output, okOr, bind,
        Except.bind]
    rw [read, recordIntoStoredBlock_written converted]
  constructor
  · intro reads
    obtain ⟨other, again, back⟩ := reads.decoded
    obtain rfl := Except.ok.inj (encoded.symm.trans again)
    exact decoded.mp back
  · intro kept
    obtain ⟨opened, loaded, mirrors⟩ := reopens.loadTail_append faithful kept appended
    have positive : 0 < stored.metadata.height := by
      rw [formed.height, fits.next, satAdd64]
      have := reopens.room
      omega
    have tip : next.db.tipHeight = some stored.metadata.height := by rw [written]
    have chain : next.chain = store.chain.linkBlock stored := by rw [written]
    have anchored : next.db.genesisAnchor = some store.genesisAnchor := by
      rw [written]
      exact reopens.anchored
    have based : ∀ base ∈ next.db.snapshotBase, base.1 < u64Max := by
      rw [written]
      exact reopens.based
    rw [chain, ChainStore.height_linkBlock] at loaded
    refine ⟨?_, ⟨bytes, encoded, decoded.mpr kept⟩, fun anchor => ?_⟩
    · simp [RocksDbStore.readStoredBlockAtHeight, RocksDbChainStore.readStoredBlockAtHeight,
        RocksDbStore.view, ChainStore.getStoredBlockByHeight, ChainStore.linkBlock, chain]
    · refine ⟨_, (openInternal_eq_ok anchored tip positive anchor).mpr ⟨based, _, loaded, rfl⟩, ?_, ?_⟩
      · rw [chain, ChainStore.height_linkBlock, ChainStore.height_linkBlock]
      · rw [chain]
        rfl

/-- A produced block is read back exactly if every body is listed under the hash of its own
encoding, as it is when the pool was given nothing but canonical encodings. -/
theorem producedBlock_readsBack_iff (env : Env) (cbor : FaithfulCbor env)
    (checkpoints : CheckpointFormat) (records : RecordFormat) (faithful : records.Faithful)
    (state : StateStore) (pool : Mempool) (context : AssemblyContext) (config : AssemblyConfig)
    (assembled : Assembled) (admitted : ∀ entry ∈ pool.allPending, entry.Admitted env)
    (produced : assembleBlock env state pool context config = .ok assembled)
    (store next : RocksDbStore) (reopens : Reopens env checkpoints records store)
    (appended : store.appendBlock env records assembled.result = .ok next) :
    (ReadsBack env checkpoints records next (storedBlock env assembled.result) ↔
      HashedAsListed env (storedBlock env assembled.result)) ∧
    ((∀ entry ∈ pool.allPending, entry.Canonical env) →
      ReadsBack env checkpoints records next (storedBlock env assembled.result)) := by
  obtain ⟨taken, listed, bodies, hashes⟩ := assembleBlock_taken produced
  have known : ∀ entry ∈ taken, entry.Admitted env :=
    fun entry member => admitted entry (listed entry member)
  have exactly := (reopens.readsBack_iff faithful (RocksDbStore.appendBlock_stored appended)).trans
    (bodiesKept_iff_hashed cbor known bodies hashes)
  refine ⟨exactly, fun canonical => exactly.mpr ?_⟩
  exact hashedAsListed_of_canonical known (fun entry member => canonical entry (listed entry member))
    bodies hashes

section Sample

def RocksDbStore.fresh (anchor : BlockHash) : RocksDbStore where
  db := ⟨∅, ∅, some anchor, none, none, none⟩
  chain := .newWithBase anchor 0
  genesisAnchor := anchor

theorem fresh_memoryBase (anchor : BlockHash) :
    (RocksDbStore.fresh anchor).db.memoryBase checkpoints anchor = .ok (anchor, 0) := by
  have none : (RocksDbStore.fresh anchor).db.checkpointsNewestFirst = [] := rfl
  simp only [Database.memoryBase, none, findLatestCheckpointPair, bind_eq_ok, pure_eq_ok]
  exact ⟨_, rfl, rfl⟩

theorem fresh_reopens (anchor : BlockHash) :
    Reopens env checkpoints records (.fresh anchor) where
  anchored := rfl
  based := by simp [RocksDbStore.fresh, Database.snapshotBase]
  room := show 0 < u64Max by decide
  loads := ⟨.newWithBase anchor 0, Database.loadTail_eq_ok.mpr
    ⟨anchor, 0, fresh_memoryBase anchor, by decide, rfl, rfl⟩, rfl, rfl, fun _ held => held, fun _ held => held⟩

theorem storedBlock_wellFormed {state : StateStore} {pool : Mempool} {context : AssemblyContext}
    {config : AssemblyConfig} {assembled : Assembled}
    (produced : assembleBlock env state pool context config = .ok assembled) :
    WellFormed env (storedBlock env assembled.result) := by
  obtain ⟨taken, _, bodies, hashes⟩ := assembleBlock_taken produced
  obtain ⟨_, proposer, _, rfl⟩ := assembleBlock_eq_ok.mp produced
  refine ⟨rfl, rfl, rfl, rfl, rfl, ?_, rfl⟩
  rw [bodies, hashes, List.length_map, List.length_map]

theorem fresh_takes {state : StateStore} {pool : Mempool} {context : AssemblyContext}
    {config : AssemblyConfig} {assembled : Assembled} {bodies : List Bytes}
    (produced : assembleBlock env state pool context config = .ok assembled)
    (first : context.height = 1) (height : assembled.result.newHeight = 1)
    (encoded : List.Forall₂ (fun tx raw => encodeTx env tx = .ok raw)
      assembled.result.includedTransactions bodies) :
    ∃ records : RecordFormat, records.Faithful ∧ ∃ next,
      (RocksDbStore.fresh context.prevHash).appendBlock env records assembled.result = .ok next := by
  let stored := storedBlock env assembled.result
  let record : StoredBlockRecord :=
    ⟨headerIntoRecord stored.block, stored.block.txHashes, bodies, stored.metadata⟩
  have converted : storedBlockIntoRecord env stored = .ok record :=
    storedBlockIntoRecord_eq_ok.mpr ⟨bodies, encoded, rfl⟩
  have written : encodeStoredBlockBytes env (tableFormat [record]) stored = .ok [0] := by
    simp only [encodeStoredBlockBytes, bind_eq_ok, okOr_eq_ok]
    exact ⟨record, converted, by simp [tableFormat, List.idxOf?_cons]⟩
  have formed := storedBlock_wellFormed produced
  obtain ⟨_, proposer, _, rfl⟩ := assembleBlock_eq_ok.mp produced
  have fits : FitsOn env (.newWithBase context.prevHash 0) stored :=
    ⟨Std.ExtTreeMap.contains_empty, Std.ExtTreeMap.contains_empty, first, rfl⟩
  have executed : (ChainStore.newWithBase context.prevHash 0).validateExecution env
      (executeAssembly env state pool context config proposer).result = .ok () := by
    simp only [ChainStore.validateExecution, bind_eq_ok, require_eq_ok, decide_eq_true_eq, exists_const,
      Bool.not_eq_true', height]
    exact ⟨first, ⟨rfl, rfl⟩, fits.freshHash, fits.freshHeight, fits.next, fits.parent⟩
  have tipped : ((ChainStore.newWithBase context.prevHash 0).linkBlock stored).tip = some stored := by
    simp [ChainStore.tip, ChainStore.linkBlock]
  refine ⟨tableFormat [record], tableFormat_faithful _, ?_⟩
  simp only [RocksDbStore.appendBlock, ChainStore.appendBlock, ChainStore.appendStoredBlock, bind_eq_ok,
    mapError_eq_ok, okOr_eq_ok, pure_eq_ok]
  exact ⟨_, _, ⟨(), executed, (), validateStoredBlock_eq_ok.mpr ⟨formed, fits⟩, rfl⟩, stored, tipped, [0],
    written, rfl⟩

def noCheckpoints : CheckpointFormat := ⟨fun _ => none, fun _ => none⟩

def reorder (raw : Bytes) : Bytes :=
  match CborFormat.decode raw with
  | some (.map entries) => CborFormat.write (.map entries.reverse)
  | _ => raw

def reorderedPool : Mempool :=
  match encodeTx sampleEnv (authorTx .proofAnchor 0 10 anchorPayload) with
  | .error _ => .new
  | .ok raw =>
      match tryAdmit sampleEnv .new (reorder raw) sampleGenesis (pqVerifier sampleEnv) freeParams with
      | .ok (admitted, _) => admitted
      | .error _ => .new

theorem reorderedPool_pending : reorderedPool.allPending.all (fun entry =>
    decodeTx sampleEnv entry.rawBytes = .ok entry.tx &&
      entry.txHash = computeTxHash sampleEnv entry.rawBytes) = true := by decide +kernel

theorem reorderedPool_assembled : ∃ assembled,
    assembleBlock sampleEnv sampleGenesis reorderedPool (nextContext sampleGenesis) devnetConfig =
        .ok assembled ∧ assembled.result.newHeight = 1 ∧
      assembled.result.includedTransactions = [authorTx .proofAnchor 0 10 anchorPayload] ∧
      (encodeTx sampleEnv (authorTx .proofAnchor 0 10 anchorPayload)).toOption.map
        (fun raw => decide ([computeTxHash sampleEnv raw] = assembled.result.block.txHashes)) =
          some false :=
  ⟨_, assembleBlock_eq_ok.mpr ⟨rfl, watcher, rfl, rfl⟩, by decide +kernel, by decide +kernel,
    by decide +kernel⟩

/-- A block with a body in another key order: it is appended and cannot be read back. -/
theorem reorderedBody_unreadable :
    ∃ assembled, ∃ records : RecordFormat, ∃ next,
      (∀ entry ∈ reorderedPool.allPending, entry.Admitted sampleEnv) ∧
      assembleBlock sampleEnv sampleGenesis reorderedPool (nextContext sampleGenesis) devnetConfig =
        .ok assembled ∧ records.Faithful ∧
      (RocksDbStore.fresh (Bytes32.fill 0)).appendBlock sampleEnv records assembled.result = .ok next ∧
      ¬ReadsBack sampleEnv noCheckpoints records next (storedBlock sampleEnv assembled.result) := by
  obtain ⟨assembled, produced, height, bodies, unlisted⟩ := reorderedPool_assembled
  obtain ⟨raw, encoded, other⟩ := exists_ok_of_toOption unlisted
  have bodiesWritten : List.Forall₂ (fun tx raw => encodeTx sampleEnv tx = .ok raw)
      assembled.result.includedTransactions [raw] := by
    rw [bodies]
    exact .cons encoded .nil
  obtain ⟨records, faithful, next, appended⟩ := fresh_takes produced rfl height bodiesWritten
  have admitted : ∀ entry ∈ reorderedPool.allPending, entry.Admitted sampleEnv := by
    intro entry member
    have fits := List.all_eq_true.mp reorderedPool_pending entry member
    simp only [Bool.and_eq_true, decide_eq_true_eq] at fits
    exact ⟨fits.1, fits.2⟩
  refine ⟨assembled, records, next, admitted, produced, faithful, appended, fun reads => ?_⟩
  have kept := ((fresh_reopens _).readsBack_iff faithful
    (RocksDbStore.appendBlock_stored appended)).mp reads
  have counted := kept.counted
  have listed := kept.hashed
  rw [show (storedBlock sampleEnv assembled.result).includedTransactions =
    [authorTx .proofAnchor 0 10 anchorPayload] from bodies] at counted listed
  obtain ⟨hash, only⟩ := List.length_eq_one_iff.mp counted
  rw [only] at listed
  obtain ⟨again, encodedAgain, hashed, _⟩ := listed _ List.mem_cons_self
  obtain rfl := Except.ok.inj (encoded.symm.trans encodedAgain)
  rw [decide_eq_false_iff_not] at other
  refine other ?_
  rw [show assembled.result.block.txHashes = [hash] from only, hashed]

theorem producedBlock_readsBack_iff_anchor :
    ∃ assembled, ∃ records : RecordFormat, ∃ next,
      assembleBlock sampleEnv sampleGenesis anchorPool (nextContext sampleGenesis) devnetConfig =
        .ok assembled ∧
      assembled.result.includedTransactions.length = 1 ∧
      (RocksDbStore.fresh (Bytes32.fill 0)).appendBlock sampleEnv records assembled.result = .ok next ∧
      ReadsBack sampleEnv noCheckpoints records next (storedBlock sampleEnv assembled.result) := by
  obtain ⟨assembled, produced, height, bodies, raw, encoded⟩ : ∃ assembled,
      assembleBlock sampleEnv sampleGenesis anchorPool (nextContext sampleGenesis) devnetConfig =
        .ok assembled ∧ assembled.result.newHeight = 1 ∧
      assembled.result.includedTransactions = [authorTx .proofAnchor 0 10 anchorPayload] ∧
      ∃ raw, encodeTx sampleEnv (authorTx .proofAnchor 0 10 anchorPayload) = .ok raw :=
    ⟨_, assembleBlock_eq_ok.mpr ⟨rfl, watcher, rfl, rfl⟩, by decide +kernel, by decide +kernel,
      _, rfl⟩
  have bodiesWritten : List.Forall₂ (fun tx raw => encodeTx sampleEnv tx = .ok raw)
      assembled.result.includedTransactions [raw] := by
    rw [bodies]
    exact .cons encoded .nil
  obtain ⟨records, faithful, next, appended⟩ := fresh_takes produced rfl height bodiesWritten
  refine ⟨assembled, records, next, produced, by rw [bodies]; rfl, appended, ?_⟩
  exact (producedBlock_readsBack_iff sampleEnv sampleEnv_faithful noCheckpoints records faithful
    sampleGenesis anchorPool (nextContext sampleGenesis) devnetConfig assembled
    (fun entry member => (anchorPool_canonical entry member).1) produced _ next (fresh_reopens _)
    appended).2 fun entry member => (anchorPool_canonical entry member).2

end Sample

end ViperChain.Storage
