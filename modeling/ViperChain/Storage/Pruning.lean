import ViperChain.Storage.Restart

/-!
Pruning. The blocks below a cutoff go, and all checkpoints but the newest. A restart looks at
none of them when the newest checkpoint is in order.
-/

namespace ViperChain.Storage

open Fallible

section Command

inductive NodeRole where
  | singleNode
  | validator
  | sentry
  | full
  | rpc
  | archive
  | bootnode
deriving DecidableEq

def NodeRole.keepsFullHistory : NodeRole → Bool
  | .validator | .singleNode | .archive => true
  | _ => false

inductive PruneError where
  | keepsFullHistory (role : NodeRole)
  | emptyStore
  | store (error : RecoveryError)

def snapshotPrune (role : NodeRole) (store : RocksDbStore) (keepTailBlocks : Nat) (force : Bool) :
    Except PruneError (RocksDbStore × PruneStats) := do
  require (!role.keepsFullHistory || force) (.keepsFullHistory role)
  let tip := store.chain.height
  require (tip ≠ 0) .emptyStore
  if tip ≤ keepTailBlocks then return (store, ⟨0, 0, 0⟩)
  else (store.pruneBlocksBelow (tip - keepTailBlocks)).mapError .store

/-- What a node does when it comes up: the database is opened and the state brought to the tip. -/
def restart (env : Env) (checkpoints : CheckpointFormat) (records : RecordFormat) (db : Database)
    (anchor : BlockHash) (genesis : StateStore) (params : ReplayParams) :
    Except RecoveryError ReplayResult := do
  let store ← openInternal env checkpoints records db anchor
  store.recoverTipWithCheckpoint env checkpoints records genesis params

end Command

variable {env : Env} {checkpoints : CheckpointFormat} {records : RecordFormat} {db : Database}
variable {cutoff : Nat} {newest : Nat × Bytes} {older : List (Nat × Bytes)} {chainId : Bytes}
variable {record : TrustedCheckpointRecord} {state : StateStore}

structure Verifies (env : Env) (checkpoints : CheckpointFormat) (chainId : Bytes)
    (entry : Nat × Bytes) (record : TrustedCheckpointRecord) (state : StateStore) : Prop where
  read : checkpoints.read entry.2 = some record
  version : record.version = stateFormatVersion
  height : record.metadata.height = entry.1
  state : verifiedState env record chainId = some state

theorem Verifies.found (verifies : Verifies env checkpoints chainId newest record state)
    (positive : newest.1 ≠ 0) (older : List (Nat × Bytes)) :
    findLatestCheckpointPair checkpoints (newest :: older) =
        .ok (some (newest.1, record.metadata.tipHash)) ∧
      findLatestCheckpointWithState env checkpoints chainId (newest :: older) =
        .ok (some (record.metadata, state)) := by
  obtain ⟨read, version, height, verified⟩ := verifies
  rw [← height] at positive ⊢
  constructor
  · simp only [findLatestCheckpointPair, read, version, lt_irrefl, if_false, if_neg positive]
  · simp only [findLatestCheckpointWithState, read, version, checkStateFormatVersion_current, verified,
      if_neg positive]
    rfl

theorem mem_checkpoints_keys {key : Nat} :
    key ∈ db.checkpoints.keys ↔ ∃ entry ∈ db.checkpointsNewestFirst, entry.1 = key := by
  rw [← Std.ExtTreeMap.map_fst_toList_eq_keys, List.mem_map]
  simp only [Database.checkpointsNewestFirst, List.mem_reverse]

theorem checkpoints_prune (entries : db.checkpointsNewestFirst = newest :: older) :
    (db.prune cutoff).checkpointsNewestFirst = [newest] ∧ ∀ key ∈ db.checkpoints.keys, key ≤ newest.1 := by
  have sorted := checkpointsNewestFirst_sorted db
  rw [entries, List.pairwise_cons] at sorted
  have top : ∀ key ∈ db.checkpoints.keys, key ≤ newest.1 := by
    intro key member
    obtain ⟨entry, listed, rfl⟩ := mem_checkpoints_keys.mp member
    rcases List.mem_cons.mp (entries ▸ listed) with rfl | old
    · exact le_rfl
    · exact (sorted.1 entry old).le
  have greatest : db.checkpoints.keys.max? = some newest.1 :=
    List.max?_eq_some_iff.mpr ⟨mem_checkpoints_keys.mpr ⟨newest, entries ▸ List.mem_cons_self, rfl⟩, top⟩
  refine ⟨?_, top⟩
  rw [Database.checkpointsNewestFirst, Database.prune, Std.ExtTreeMap.toList_filter, ← List.filter_reverse,
    ← Database.checkpointsNewestFirst, entries, List.filter_cons_of_pos (by simp [greatest]),
    List.filter_eq_nil_iff.mpr]
  intro entry old
  have lower := sorted.1 entry old
  simp [greatest, lower.ne']

theorem loadBlock_prune {height : Nat} (above : cutoff ≤ height) (chain : ChainStore) :
    (db.prune cutoff).loadBlock env records chain height = db.loadBlock env records chain height := by
  have kept : (db.prune cutoff).blocks[height]? = db.blocks[height]? := by
    cases found : db.blocks[height]? <;> simp [Database.prune, above, found]
  simp only [Database.loadBlock, Database.readStoredBlockFromDb, kept]

theorem Verifies.memoryBase (verifies : Verifies env checkpoints chainId newest record state)
    (positive : newest.1 ≠ 0) (entries : db.checkpointsNewestFirst = newest :: older)
    (anchor : BlockHash) :
    db.memoryBase checkpoints anchor = .ok (record.metadata.tipHash, newest.1) := by
  rw [Database.memoryBase, entries, (verifies.found positive older).1]
  rfl

section Newest

variable (verifies : Verifies env checkpoints chainId newest record state) (positive : newest.1 ≠ 0)
  (entries : db.checkpointsNewestFirst = newest :: older) (above : cutoff ≤ newest.1)
include verifies positive entries above

theorem loadTail_prune (anchor : BlockHash) (tip : Nat) :
    (db.prune cutoff).loadTail env checkpoints records anchor tip =
      db.loadTail env checkpoints records anchor tip := by
  have loads : ∀ chain, (Database.heights (newest.1 + 1) tip).foldlM
      ((db.prune cutoff).loadBlock env records) chain =
        (Database.heights (newest.1 + 1) tip).foldlM (db.loadBlock env records) chain :=
    foldlM_congr fun height member chain => loadBlock_prune (by
      have := (Database.mem_heights.mp member).1
      omega) chain
  simp only [Database.loadTail, verifies.memoryBase positive entries, Database.nextHeight,
    verifies.memoryBase positive (checkpoints_prune entries).1, bind, Except.bind, pure, Except.pure]
  cases require (decide (newest.1 < u64Max)) RecoveryError.panicked with
  | error error => rfl
  | ok _ => simp only [loads]

theorem openInternal_prune (anchor : BlockHash) :
    openInternal env checkpoints records (db.prune cutoff) anchor =
      (openInternal env checkpoints records db anchor).map
        fun opened => { opened with db := opened.db.prune cutoff } := by
  have tail := fun genesisAnchor => @loadTail_prune env checkpoints records
    { db with genesisAnchor := some genesisAnchor } _ _ _ _ _ _ verifies positive entries above
  obtain ⟨blocks, entries, known, tip, baseHeight, baseHash⟩ := db
  simp only [openInternal, Database.prune, Database.snapshotBase, bind, Except.bind] at tail ⊢
  split
  · rfl
  · by_cases empty : tip.getD 0 = 0
    · simp only [empty, if_true]
      rfl
    · simp only [empty, if_false, tail]
      cases Database.loadTail env checkpoints records _ (known.getD anchor) _ <;> rfl

theorem restart_prune (anchor : BlockHash) (genesis : StateStore) (same : genesis.chainId = chainId)
    (params : ReplayParams) :
    restart env checkpoints records (db.prune cutoff) anchor genesis params =
      restart env checkpoints records db anchor genesis params := by
  rw [restart, restart, openInternal_prune verifies positive entries above]
  cases opened : openInternal env checkpoints records db anchor with
  | error error => rfl
  | ok store =>
      have disk : store.db.checkpoints = db.checkpoints := by
        simp only [openInternal, bind_eq_ok] at opened
        obtain ⟨_, _, opened⟩ := opened
        split at opened
        · cases opened
          rfl
        · obtain ⟨_, _, opened⟩ := bind_eq_ok.mp opened
          cases opened
          rfl
      have listed : store.db.checkpointsNewestFirst = newest :: older := by
        rw [Database.checkpointsNewestFirst, disk]
        exact entries
      have found := fun older => (verifies.found positive older).2
      subst same
      simp only [Except.map, bind, Except.bind, RocksDbStore.recoverTipWithCheckpoint, listed, found,
        (checkpoints_prune listed).1]

end Newest

/-- Pruning cannot be told from the next restart, as long as the newest checkpoint verifies. -/
theorem pruned_restarts_alike (env : Env) (checkpoints : CheckpointFormat) (records : RecordFormat)
    (role : NodeRole) (store next : RocksDbStore) (keepTailBlocks : Nat) (force : Bool)
    (stats : PruneStats) (pruned : snapshotPrune role store keepTailBlocks force = .ok (next, stats))
    (genesis : StateStore) (params : ReplayParams)
    (verifies : ∀ newest ∈ store.db.checkpointsNewestFirst.head?, ∃ record state,
      Verifies env checkpoints genesis.chainId newest record state) (anchor : BlockHash) :
    restart env checkpoints records next.db anchor genesis params =
      restart env checkpoints records store.db anchor genesis params := by
  simp only [snapshotPrune, RocksDbStore.pruneBlocksBelow, bind_eq_ok, require_eq_ok, exists_const] at pruned
  obtain ⟨_, _, ran⟩ := pruned
  split at ran
  · obtain ⟨rfl, _⟩ := Prod.mk.inj (pure_eq_ok.mp ran)
    rfl
  · simp only [mapError_eq_ok, bind_eq_ok, require_eq_ok, exists_const, pure_eq_ok, Prod.mk.injEq,
      decide_eq_true_eq] at ran
    obtain ⟨positive, _, late, rfl, _⟩ := ran
    obtain ⟨key, listed, above⟩ := List.any_eq_true.mp late
    cases entries : store.db.checkpointsNewestFirst with
    | nil =>
        obtain ⟨entry, member, _⟩ := mem_checkpoints_keys.mp listed
        rw [entries] at member
        cases member
    | cons newest older =>
        obtain ⟨record, state, verifies⟩ := verifies newest (by rw [entries]; rfl)
        have top := (@checkpoints_prune _ 0 _ _ entries).2 key listed
        rw [decide_eq_true_eq] at above
        exact restart_prune verifies (by omega) entries (above.trans top) anchor genesis rfl params

theorem pruned_restarts_alike_full : ∃ checkpoints : CheckpointFormat, ∃ store next : RocksDbStore,
    store.db.blocks[1]? = some [0] ∧ next.db.blocks[1]? = none ∧
      restart sampleEnv checkpoints (tableFormat []) next.db (Bytes32.fill 0) sampleGenesis pricedParams =
        restart sampleEnv checkpoints (tableFormat []) store.db (Bytes32.fill 0) sampleGenesis
          pricedParams := by
  let state : StateStore := { StateStore.new sampleEnv with blockHeight := 2 }
  let after := restored sampleEnv state
  let record : TrustedCheckpointRecord :=
    ⟨stateFormatVersion, ⟨2, Bytes32.fill 0, after.stateRoot sampleEnv⟩, stateIntoRecord state⟩
  let checkpoints : CheckpointFormat := ⟨fun _ => none, fun _ => some record⟩
  let db : Database :=
    { blocks := ((∅ : Std.ExtTreeMap Nat Bytes).insert 1 [0]).insert 2 [0]
      checkpoints := (∅ : Std.ExtTreeMap Nat Bytes).insert 2 [0]
      genesisAnchor := none
      tipHeight := some 2
      snapshotBaseHeight := none
      snapshotBaseHash := none }
  let store : RocksDbStore := ⟨db, .newWithBase (Bytes32.fill 0) 2, Bytes32.fill 0⟩
  have read : recordIntoState sampleEnv record.state sampleGenesis.chainId = .ok after :=
    (recordIntoState_eq_ok sampleEnv state after).mpr
      ⟨⟨sampleGenesis_representable.registry, sampleGenesis_representable.proposals⟩, rfl⟩
  have verified : verifiedState sampleEnv record sampleGenesis.chainId = some after := by
    have height : after.blockHeight = record.metadata.height := rfl
    have root : after.stateRoot sampleEnv = record.metadata.stateRoot := rfl
    rw [verifiedState, read]
    simp [Except.toOption, Option.filter, height, root]
  have pruned : snapshotPrune .full store 0 false = .ok (⟨db.prune 2, store.chain, _⟩, _) := rfl
  refine ⟨checkpoints, store, _, rfl, by simp [Database.prune, db], pruned_restarts_alike sampleEnv checkpoints (tableFormat []) .full
    store _ 0 false _ pruned sampleGenesis pricedParams ?_ (Bytes32.fill 0)⟩
  intro newest first
  obtain rfl : (2, [0]) = newest := Option.some.inj first
  exact ⟨record, after, rfl, rfl, rfl, verified⟩

end ViperChain.Storage
