import ViperChain.Engine.ChainInvariant
import ViperChain.Tx.Canonical

/-!
Blocks on disk. A record is read only if its bodies have the hashes it lists. The database keeps
the bytes of every block; the chain in memory keeps the last ones and is asked first.
-/

namespace ViperChain.Storage

open Fallible

section Records

structure CommitSigRecord where
  validatorAddress : Bytes
  sigAlgId : Nat
  signature : Bytes
  round : Nat
deriving DecidableEq

structure BlockHeaderRecord where
  headerVersion : Nat
  height : Nat
  prevHash : Bytes32
  stateRoot : Bytes32
  txRoot : Bytes32
  timestamp : Nat
  proposer : Bytes
  commitSignatures : List CommitSigRecord
  extensionRoot : Bytes32
deriving DecidableEq

/-- The metadata has the fields of `BlockMetadata`; a `usize` is as wide as a `u64`. -/
structure StoredBlockRecord where
  header : BlockHeaderRecord
  txHashes : List Bytes32
  txBodies : List Bytes
  metadata : BlockMetadata
deriving DecidableEq

inductive BlockStorageError where
  | txEncodeFailed (height txIndex : Nat) (source : TxError)
  | txDecodeFailed (height txIndex : Nat) (source : TxError)
  | txBodyHashMismatch (height txIndex : Nat) (expected got : TxHash)
  | invalidPersistedValue (detail : String)
  | invalidPersistedAlgId (code : Nat)
  | encode
  | decode
  | chain (error : ChainError)
deriving DecidableEq

variable (env : Env)

def commitSigIntoRecord (sig : CommitSig) : CommitSigRecord :=
  ⟨sig.validatorAddress, sig.sigAlgId.asU16, sig.signature, sig.round⟩

def recordIntoCommitSig (record : CommitSigRecord) : Except BlockStorageError CommitSig := do
  let sigAlgId ← okOr (AlgId.fromU16 record.sigAlgId) (.invalidPersistedAlgId record.sigAlgId)
  return { validatorAddress := record.validatorAddress, sigAlgId, round := record.round,
           signature := record.signature }

def headerIntoRecord (block : Block) : BlockHeaderRecord where
  headerVersion := block.header.headerVersion
  height := block.header.height
  prevHash := block.header.prevHash
  stateRoot := block.header.stateRoot
  txRoot := block.header.txRoot
  timestamp := block.header.timestamp
  proposer := block.header.proposer
  commitSignatures := block.commitSignatures.map commitSigIntoRecord
  extensionRoot := block.header.extensionRoot

def recordIntoHeader (record : BlockHeaderRecord) : BlockHeader where
  headerVersion := record.headerVersion
  height := record.height
  prevHash := record.prevHash
  stateRoot := record.stateRoot
  txRoot := record.txRoot
  timestamp := record.timestamp
  proposer := record.proposer
  extensionRoot := record.extensionRoot

def writeBody (height : Nat) (item : Transaction × Nat) : Except BlockStorageError Bytes :=
  (encodeTx env item.1).mapError (.txEncodeFailed height item.2)

def storedBlockIntoRecord (stored : StoredBlock) : Except BlockStorageError StoredBlockRecord := do
  let txBodies ← stored.includedTransactions.zipIdx.mapM (writeBody env stored.metadata.height)
  return { header := headerIntoRecord stored.block
           txHashes := stored.block.txHashes
           txBodies
           metadata := stored.metadata }

def readBody (expectedHeight : Nat) (item : (Bytes × TxHash) × Nat) :
    Except BlockStorageError Transaction := do
  let ((raw, expectedHash), txIndex) := item
  let actualHash := computeTxHash env raw
  require (actualHash = expectedHash)
    (.txBodyHashMismatch expectedHeight txIndex expectedHash actualHash)
  (decodeTx env raw).mapError (.txDecodeFailed expectedHeight txIndex)

def recordIntoStoredBlock (record : StoredBlockRecord) (expectedHeight : Nat) :
    Except BlockStorageError StoredBlock := do
  require (record.txHashes.length = record.txBodies.length)
    (.invalidPersistedValue "tx_hashes and tx_bodies length mismatch")
  let includedTransactions ←
    (record.txBodies.zip record.txHashes).zipIdx.mapM (readBody env expectedHeight)
  let commitSignatures ← record.header.commitSignatures.mapM recordIntoCommitSig
  return { block := ⟨recordIntoHeader record.header, record.txHashes, commitSignatures⟩
           metadata := record.metadata
           includedTransactions }

end Records

section Store

/-- The CBOR text of a record, outside the repository. Reading takes one item off the
front of the input. -/
structure RecordFormat where
  write : StoredBlockRecord → Option Bytes
  read : Bytes → Option (StoredBlockRecord × Bytes)

/-- What is written is read back; an item shows where it ends and is not empty. -/
structure RecordFormat.Faithful (format : RecordFormat) : Prop where
  read_write : ∀ record bytes, format.write record = some bytes →
    format.read bytes = some (record, [])
  selfDelimiting : ∀ bytes record, format.read bytes = some (record, []) →
    ∀ more, format.read (bytes ++ more) = some (record, more)
  read_nil : format.read [] = none

variable (env : Env) (format : RecordFormat)

def encodeStoredBlockBytes (stored : StoredBlock) : Except BlockStorageError Bytes := do
  let record ← storedBlockIntoRecord env stored
  okOr (format.write record) .encode

def decodeCborSlice (bytes : Bytes) : Except BlockStorageError StoredBlockRecord :=
  okOr ((format.read bytes).map Prod.fst) .decode

/-- The database is its `blocks` column family. -/
structure RocksDbChainStore where
  chain : ChainStore
  genesisAnchor : BlockHash
  blocks : Std.ExtTreeMap Nat Bytes

namespace RocksDbChainStore

def openEmpty (anchorPrevHash : BlockHash) : RocksDbChainStore where
  chain := .newWithBase anchorPrevHash 0
  genesisAnchor := anchorPrevHash
  blocks := ∅

variable (store : RocksDbChainStore)

def height : Nat := store.chain.height

def readStoredBlockFromDb (height : Nat) : Except BlockStorageError (Option StoredBlock) :=
  match store.blocks[height]? with
  | none => .ok none
  | some bytes => do
      let record ← decodeCborSlice format bytes
      let stored ← recordIntoStoredBlock env record height
      return some stored

def readStoredBlockAtHeight (height : Nat) : Except BlockStorageError (Option StoredBlock) :=
  match store.chain.getStoredBlockByHeight height with
  | some stored => .ok (some stored)
  | none => store.readStoredBlockFromDb env format height

/-- A block in memory is encoded again; the bytes of the others leave the database as
they are. -/
def exportBlockBytes (height : Nat) : Except BlockStorageError (Option Bytes) :=
  match store.chain.getStoredBlockByHeight height with
  | some stored => (encodeStoredBlockBytes env format stored).map some
  | none => .ok store.blocks[height]?

def appendStoredBlock (stored : StoredBlock) : Except BlockStorageError RocksDbChainStore := do
  let trial ← (store.chain.appendStoredBlock env stored).mapError .chain
  let blockCbor ← encodeStoredBlockBytes env format stored
  return { store with
    chain := trial
    blocks := store.blocks.insert stored.metadata.height blockCbor }

/-- `replace_canonical_at_height` without a policy. The displaced block is encoded for the
archive of siblings. -/
def replaceCanonicalAtHeight (canonical : StoredBlock) :
    Except BlockStorageError (RocksDbChainStore × StoredBlock) := do
  let (trial, displaced) ← (store.chain.replaceTipBlock env canonical).mapError .chain
  let _ ← encodeStoredBlockBytes env format displaced
  let canonicalCbor ← encodeStoredBlockBytes env format canonical
  let replaced : RocksDbChainStore :=
    { store with
      chain := trial
      blocks := store.blocks.insert canonical.metadata.height canonicalCbor }
  return (replaced, displaced)

end RocksDbChainStore

end Store

section Append

variable {env : Env} {format : RecordFormat} {chain : ChainStore} {store next : RocksDbChainStore}
variable {stored : StoredBlock}

structure WellFormed (env : Env) (stored : StoredBlock) : Prop where
  height : stored.metadata.height = stored.block.header.height
  prevHash : stored.metadata.prevHash = stored.block.header.prevHash
  stateRoot : stored.metadata.stateRoot = stored.block.header.stateRoot
  txRoot : stored.metadata.txRoot = stored.block.header.txRoot
  included : stored.metadata.includedCount = stored.block.txHashes.length
  bodies : stored.block.txHashes.length = stored.includedTransactions.length
  hashed : stored.metadata.blockHash = computeBlockHash env stored.block

structure FitsOn (env : Env) (chain : ChainStore) (stored : StoredBlock) : Prop where
  freshHash : chain.byHash.contains (computeBlockHash env stored.block) = false
  freshHeight : chain.byHeight.contains stored.block.header.height = false
  next : stored.block.header.height = satAdd64 chain.height 1
  parent : stored.block.header.prevHash = chain.expectedPrevHash

theorem validateStoredBlock_eq_ok {result : Unit} :
    chain.validateStoredBlock env stored = .ok result ↔ WellFormed env stored ∧ FitsOn env chain stored := by
  simp only [ChainStore.validateStoredBlock, bind_eq_ok, require_eq_ok, decide_eq_true_eq, exists_const,
    Bool.not_eq_true']
  constructor
  · rintro ⟨height, prevHash, stateRoot, txRoot, included, bodies, hashed, rest⟩
    exact ⟨⟨height, prevHash, stateRoot, txRoot, included, bodies, hashed⟩,
      rest.1, rest.2.1, rest.2.2.1, rest.2.2.2⟩
  · rintro ⟨⟨height, prevHash, stateRoot, txRoot, included, bodies, hashed⟩, fits⟩
    exact ⟨height, prevHash, stateRoot, txRoot, included, bodies, hashed, fits.freshHash,
      fits.freshHeight, fits.next, fits.parent⟩

theorem appendStoredBlock_eq_ok :
    store.appendStoredBlock env format stored = .ok next ↔
      (WellFormed env stored ∧ FitsOn env store.chain stored) ∧
      ∃ bytes, encodeStoredBlockBytes env format stored = .ok bytes ∧
        next = { store with
          chain := store.chain.linkBlock stored
          blocks := store.blocks.insert stored.metadata.height bytes } := by
  simp only [RocksDbChainStore.appendStoredBlock, ChainStore.appendStoredBlock, bind_eq_ok,
    mapError_eq_ok, pure_eq_ok, validateStoredBlock_eq_ok, exists_const]
  constructor
  · rintro ⟨_, ⟨valid, rfl⟩, bytes, written, rfl⟩
    exact ⟨valid, bytes, written, rfl⟩
  · rintro ⟨valid, bytes, written, rfl⟩
    exact ⟨_, ⟨valid, rfl⟩, bytes, written, rfl⟩

end Append

section RoundTrip

variable {env : Env} {stored restored : StoredBlock} {record : StoredBlockRecord} {height : Nat}

theorem recordIntoCommitSig_commitSigIntoRecord (sig : CommitSig) :
    recordIntoCommitSig (commitSigIntoRecord sig) = .ok sig := by
  simp only [recordIntoCommitSig, commitSigIntoRecord, AlgId.fromU16_asU16]
  rfl

theorem readCommitSigs (sigs : List CommitSig) :
    (sigs.map commitSigIntoRecord).mapM recordIntoCommitSig = .ok sigs := by
  simpa using mapM_map_of_reads recordIntoCommitSig_commitSigIntoRecord sigs

def Reads (env : Env) (body : Bytes × TxHash) (tx : Transaction) : Prop :=
  computeTxHash env body.1 = body.2 ∧ decodeTx env body.1 = .ok tx

theorem storedBlockIntoRecord_eq_ok :
    storedBlockIntoRecord env stored = .ok record ↔
      ∃ txBodies, List.Forall₂ (fun tx raw => encodeTx env tx = .ok raw)
          stored.includedTransactions txBodies ∧
        record = ⟨headerIntoRecord stored.block, stored.block.txHashes, txBodies, stored.metadata⟩ := by
  have body : ∀ tx index raw, writeBody env stored.metadata.height (tx, index) = .ok raw ↔
      encodeTx env tx = .ok raw := fun tx index raw => mapError_eq_ok
  simp only [storedBlockIntoRecord, bind_eq_ok, pure_eq_ok, mapM_zipIdx_eq_ok body,
    @eq_comm _ _ record]

theorem recordIntoStoredBlock_eq_ok :
    recordIntoStoredBlock env record height = .ok restored ↔
      record.txHashes.length = record.txBodies.length ∧
      List.Forall₂ (Reads env) (record.txBodies.zip record.txHashes) restored.includedTransactions ∧
      record.header.commitSignatures.mapM recordIntoCommitSig = .ok restored.block.commitSignatures ∧
      restored.block.header = recordIntoHeader record.header ∧
      restored.block.txHashes = record.txHashes ∧ restored.metadata = record.metadata := by
  have body : ∀ item index tx, readBody env height (item, index) = .ok tx ↔ Reads env item tx := by
    rintro ⟨raw, hash⟩ index tx
    simp only [readBody, bind_eq_ok, require_eq_ok, mapError_eq_ok, decide_eq_true_eq, exists_const,
      Reads]
  simp only [recordIntoStoredBlock, bind_eq_ok, require_eq_ok, pure_eq_ok, decide_eq_true_eq,
    exists_const, mapM_zipIdx_eq_ok body]
  constructor
  · rintro ⟨counted, txs, bodies, sigs, signed, rfl⟩
    exact ⟨counted, bodies, signed, rfl, rfl, rfl⟩
  · obtain ⟨⟨header, txHashes, sigs⟩, metadata, txs⟩ := restored
    rintro ⟨counted, bodies, signed, rfl, rfl, rfl⟩
    exact ⟨counted, txs, bodies, sigs, signed, rfl⟩

structure BodiesKept (env : Env) (stored : StoredBlock) : Prop where
  counted : stored.block.txHashes.length = stored.includedTransactions.length
  hashed : ∀ item ∈ stored.includedTransactions.zip stored.block.txHashes, ∃ raw,
    encodeTx env item.1 = .ok raw ∧ computeTxHash env raw = item.2 ∧ decodeTx env raw = .ok item.1

theorem reads_of_written {txs : List Transaction} {bodies : List Bytes} {hashes : List TxHash}
    (written : List.Forall₂ (fun tx raw => encodeTx env tx = .ok raw) txs bodies)
    (counted : hashes.length = txs.length) :
    List.Forall₂ (Reads env) (bodies.zip hashes) txs ↔
      ∀ item ∈ txs.zip hashes, ∃ raw, encodeTx env item.1 = .ok raw ∧
        computeTxHash env raw = item.2 ∧ decodeTx env raw = .ok item.1 := by
  induction written generalizing hashes with
  | nil => simp
  | @cons tx raw txs bodies encoded written ih =>
      cases hashes with
      | nil => simp at counted
      | cons hash hashes =>
          have rest := @ih hashes (by simpa using counted)
          simp only [List.zip_cons_cons, List.forall₂_cons, List.forall_mem_cons, rest]
          refine and_congr_left fun _ => ?_
          simp only [encoded, Except.ok.injEq, exists_eq_left', Reads]

theorem recordIntoStoredBlock_written (written : storedBlockIntoRecord env stored = .ok record) :
    recordIntoStoredBlock env record height = .ok stored ↔ BodiesKept env stored := by
  obtain ⟨bodies, encoded, rfl⟩ := storedBlockIntoRecord_eq_ok.mp written
  rw [recordIntoStoredBlock_eq_ok]
  have lengths := encoded.length_eq
  constructor
  · rintro ⟨counted, reads, _⟩
    have same : stored.block.txHashes.length = stored.includedTransactions.length :=
      counted.trans lengths.symm
    exact ⟨same, (reads_of_written encoded same).mp reads⟩
  · intro kept
    exact ⟨kept.counted.trans lengths, (reads_of_written encoded kept.counted).mpr kept.hashed,
      readCommitSigs _, rfl, rfl, rfl⟩

end RoundTrip

section Sample

def tableFormat (records : List StoredBlockRecord) : RecordFormat where
  write record := (records.idxOf? record).bind fun index =>
    if h : index < 256 then some [⟨index, h⟩] else none
  read
    | [] => none
    | byte :: rest => records[byte.val]?.map (·, rest)

def bareRecord (stored : StoredBlock) : StoredBlockRecord :=
  ⟨headerIntoRecord stored.block, stored.block.txHashes, [], stored.metadata⟩

theorem tableFormat_faithful (records : List StoredBlockRecord) : (tableFormat records).Faithful where
  read_write record bytes written := by
    simp only [tableFormat, Option.bind_eq_some_iff] at written
    obtain ⟨index, found, written⟩ := written
    split at written
    · obtain rfl := Option.some.inj written
      obtain ⟨inside, same, _⟩ := List.idxOf?_eq_some_iff.mp found
      simp [tableFormat, inside, same]
    · cases written
  selfDelimiting bytes record read more := by
    cases bytes with
    | nil => cases read
    | cons byte rest =>
        simp only [tableFormat, Option.map_eq_some_iff, Prod.mk.injEq] at read
        obtain ⟨_, found, rfl, rfl⟩ := read
        simp [tableFormat, found]
  read_nil := rfl

theorem bareRecord_written {stored : StoredBlock} (bare : stored.includedTransactions = []) :
    storedBlockIntoRecord env stored = .ok (bareRecord stored) := by
  rw [storedBlockIntoRecord_eq_ok, bare]
  exact ⟨[], .nil, rfl⟩

theorem bareRecord_encoded {stored : StoredBlock} (bare : stored.includedTransactions = [])
    (records : List StoredBlockRecord) :
    encodeStoredBlockBytes env (tableFormat (bareRecord stored :: records)) stored = .ok [0] := by
  simp only [encodeStoredBlockBytes, bind_eq_ok, okOr_eq_ok]
  exact ⟨bareRecord stored, bareRecord_written bare, by simp [tableFormat, List.idxOf?_cons]⟩

end Sample

end ViperChain.Storage
